import Phrasebook.Unicode.Table

/-!
The properties that decide where text may be cut into graphemes, words and sentences.
-/

namespace Phrasebook.Unicode

def graphemeBreaks : List NamedSet := [
  ⟨["cn", "control"],
    ["0+9 1+1 1+11 5f+20 d 56e 11f1 7fc 2+1 18+6 31+f de8f f0+b 3434+f 8860+3 14cf+7 c2e85+1f",
     "60+7f f0+e0f"]⟩,
  ⟨["cr"],
    ["d"]⟩,
  ⟨["ex", "extend"],
    ["300+6f 113+6 107+2c 1 1+1 1+1 1 48+a 30+14 10 65+6 2+5 2+1 1+3 23 1e+1a 5b+a 3a+8 9 18+3",
     "1+8 1+2 1+4 2b+2 3c+7 2a+17 1+1f 37 1 4+7 4 3+6 a+1 1d 3a 1 2+3 8 9 a+1 1a 2+1 39 4+1",
     "4+1 2+2 3 1e+1 3 b+1 39 4+4 1+1 4 14+1 16+5 1 3a 1+1 1+3 8 7+2 a+1 1e 3b 1 c 9 28 3 37",
     "1+2 5+2 1+3 7+1 b+1 1d 3a 2 2 3 5+1 7+1 b+1 1c+1 39+1 1 2+3 8 9 a+1 1d 48 4 2+2 1 8 51",
     "2+6 c+7 62 2+8 b+6 49+1 1b 1 1 37+d 1+4 1+1 5+a 1+23 9 66+3 1+5 1+1 2+1 19+1 4+2 10+3 d",
     "2+1 6 f 2bf+2 3b2+2 1d+1 1e+1 1e+1 40+1 1+6 8 2+a 9 2d+2 1 75+1 22 76+2 4+1 9 6+2 db+1 2",
     "3a 1+6 1 1 2+7 6+9 2 30+1e 31+3 30+6 1 5 28+8 c+1 20+3 2+1 1+2 38 1+1 3 1+2 3a+7 2+1",
     "98+2 1+c 1+6 4 6 3+1 c6+3f 20c c3+20 bfe+2 8d 60+1f 22a+5 69+1 75d4+3 1+9 20+1 50+1 110",
     "3 4 19+1 5 97+1 1a+11 d 26+7 19+a 2e+2 30 2+3 2+1 27 43+5 2+1 2+1 c 8 2f 33 1+2 2+1 5+1",
     "1 2a+1 8 ee 2 4 4f30 2e1+f 10+f 16e+1 25d e2 95+4 686+2 1+1 5+3 28+2 4 a5+1 23d+3 183+1",
     "50+2 46+a 31+3 7b 36+e 29 2+1 a+2 31+3 2+1 7 3d+2 24+4 1+7 3e c+1 34+8 a+3 2 5f+2 2 1+1",
     "6 2 9d 3+7 15+1 39+1 1 1 16 e+6 3+4 c3+7 2+2 1 17 51 2+5 1 2 1+1 1+1 eb 2+3 6+1 1+1 1b+1",
     "55+7 2 1+1 6a 1 2+5 1 65+2 2+3 1+4 103+8 1+1 f5 a+1 1 4 90+3 2+1 4 20+9 28+5 2+3 8 9+5",
     "2+2 2e+c 1+1 196+6 1+5 1 52+15 2+6 1+1 1+1 7a+5 3 1+1 1+6 1 48+1 3 1 15b+1 b+1 34+4 5 1",
     "14fd 6+e 369a+4 3b+6 418 3f+3 51 4cb8+1 1261+2d 2+16 21e 1+2 4+4 8+7 2+6 1e+3 94+2",
     "7bb+36 4+31 8 e 16+4 1+e 550+6 1+10 2+6 1+1 1+4 64 a0+6 177 3d+3 1fc+3 3e0+6 6d+6 ab0+4",
     "c0c20+5f 80+ef"]⟩,
  ⟨["l"],
    ["1100+5f 9800+1c"]⟩,
  ⟨["lf"],
    ["a"]⟩,
  ⟨["lv"],
    ["ac00 1b 1b 1b 1b 1b 1b 1b 1b 1b 1b 1b 1b 1b 1b 1b 1b 1b 1b 1b 1b 1b 1b 1b 1b 1b 1b 1b 1b",
     "1b 1b 1b 1b 1b 1b 1b 1b 1b 1b 1b 1b 1b 1b 1b 1b 1b 1b 1b 1b 1b 1b 1b 1b 1b 1b 1b 1b 1b",
     "1b 1b 1b 1b 1b 1b 1b 1b 1b 1b 1b 1b 1b 1b 1b 1b 1b 1b 1b 1b 1b 1b 1b 1b 1b 1b 1b 1b 1b",
     "1b 1b 1b 1b 1b 1b 1b 1b 1b 1b 1b 1b 1b 1b 1b 1b 1b 1b 1b 1b 1b 1b 1b 1b 1b 1b 1b 1b 1b",
     "1b 1b 1b 1b 1b 1b 1b 1b 1b 1b 1b 1b 1b 1b 1b 1b 1b 1b 1b 1b 1b 1b 1b 1b 1b 1b 1b 1b 1b",
     "1b 1b 1b 1b 1b 1b 1b 1b 1b 1b 1b 1b 1b 1b 1b 1b 1b 1b 1b 1b 1b 1b 1b 1b 1b 1b 1b 1b 1b",
     "1b 1b 1b 1b 1b 1b 1b 1b 1b 1b 1b 1b 1b 1b 1b 1b 1b 1b 1b 1b 1b 1b 1b 1b 1b 1b 1b 1b 1b",
     "1b 1b 1b 1b 1b 1b 1b 1b 1b 1b 1b 1b 1b 1b 1b 1b 1b 1b 1b 1b 1b 1b 1b 1b 1b 1b 1b 1b 1b",
     "1b 1b 1b 1b 1b 1b 1b 1b 1b 1b 1b 1b 1b 1b 1b 1b 1b 1b 1b 1b 1b 1b 1b 1b 1b 1b 1b 1b 1b",
     "1b 1b 1b 1b 1b 1b 1b 1b 1b 1b 1b 1b 1b 1b 1b 1b 1b 1b 1b 1b 1b 1b 1b 1b 1b 1b 1b 1b 1b",
     "1b 1b 1b 1b 1b 1b 1b 1b 1b 1b 1b 1b 1b 1b 1b 1b 1b 1b 1b 1b 1b 1b 1b 1b 1b 1b 1b 1b 1b",
     "1b 1b 1b 1b 1b 1b 1b 1b 1b 1b 1b 1b 1b 1b 1b 1b 1b 1b 1b 1b 1b 1b 1b 1b 1b 1b 1b 1b 1b",
     "1b 1b 1b 1b 1b 1b 1b 1b 1b 1b 1b 1b 1b 1b 1b 1b 1b 1b 1b 1b 1b 1b 1b 1b 1b 1b 1b 1b 1b",
     "1b 1b 1b 1b 1b 1b 1b 1b 1b 1b 1b 1b 1b 1b 1b 1b 1b 1b 1b 1b 1b 1b"]⟩,
  ⟨["lvt"],
    ["ac01+1a 1+1a 1+1a 1+1a 1+1a 1+1a 1+1a 1+1a 1+1a 1+1a 1+1a 1+1a 1+1a 1+1a 1+1a 1+1a 1+1a",
     "1+1a 1+1a 1+1a 1+1a 1+1a 1+1a 1+1a 1+1a 1+1a 1+1a 1+1a 1+1a 1+1a 1+1a 1+1a 1+1a 1+1a",
     "1+1a 1+1a 1+1a 1+1a 1+1a 1+1a 1+1a 1+1a 1+1a 1+1a 1+1a 1+1a 1+1a 1+1a 1+1a 1+1a 1+1a",
     "1+1a 1+1a 1+1a 1+1a 1+1a 1+1a 1+1a 1+1a 1+1a 1+1a 1+1a 1+1a 1+1a 1+1a 1+1a 1+1a 1+1a",
     "1+1a 1+1a 1+1a 1+1a 1+1a 1+1a 1+1a 1+1a 1+1a 1+1a 1+1a 1+1a 1+1a 1+1a 1+1a 1+1a 1+1a",
     "1+1a 1+1a 1+1a 1+1a 1+1a 1+1a 1+1a 1+1a 1+1a 1+1a 1+1a 1+1a 1+1a 1+1a 1+1a 1+1a 1+1a",
     "1+1a 1+1a 1+1a 1+1a 1+1a 1+1a 1+1a 1+1a 1+1a 1+1a 1+1a 1+1a 1+1a 1+1a 1+1a 1+1a 1+1a",
     "1+1a 1+1a 1+1a 1+1a 1+1a 1+1a 1+1a 1+1a 1+1a 1+1a 1+1a 1+1a 1+1a 1+1a 1+1a 1+1a 1+1a",
     "1+1a 1+1a 1+1a 1+1a 1+1a 1+1a 1+1a 1+1a 1+1a 1+1a 1+1a 1+1a 1+1a 1+1a 1+1a 1+1a 1+1a",
     "1+1a 1+1a 1+1a 1+1a 1+1a 1+1a 1+1a 1+1a 1+1a 1+1a 1+1a 1+1a 1+1a 1+1a 1+1a 1+1a 1+1a",
     "1+1a 1+1a 1+1a 1+1a 1+1a 1+1a 1+1a 1+1a 1+1a 1+1a 1+1a 1+1a 1+1a 1+1a 1+1a 1+1a 1+1a",
     "1+1a 1+1a 1+1a 1+1a 1+1a 1+1a 1+1a 1+1a 1+1a 1+1a 1+1a 1+1a 1+1a 1+1a 1+1a 1+1a 1+1a",
     "1+1a 1+1a 1+1a 1+1a 1+1a 1+1a 1+1a 1+1a 1+1a 1+1a 1+1a 1+1a 1+1a 1+1a 1+1a 1+1a 1+1a",
     "1+1a 1+1a 1+1a 1+1a 1+1a 1+1a 1+1a 1+1a 1+1a 1+1a 1+1a 1+1a 1+1a 1+1a 1+1a 1+1a 1+1a",
     "1+1a 1+1a 1+1a 1+1a 1+1a 1+1a 1+1a 1+1a 1+1a 1+1a 1+1a 1+1a 1+1a 1+1a 1+1a 1+1a 1+1a",
     "1+1a 1+1a 1+1a 1+1a 1+1a 1+1a 1+1a 1+1a 1+1a 1+1a 1+1a 1+1a 1+1a 1+1a 1+1a 1+1a 1+1a",
     "1+1a 1+1a 1+1a 1+1a 1+1a 1+1a 1+1a 1+1a 1+1a 1+1a 1+1a 1+1a 1+1a 1+1a 1+1a 1+1a 1+1a",
     "1+1a 1+1a 1+1a 1+1a 1+1a 1+1a 1+1a 1+1a 1+1a 1+1a 1+1a 1+1a 1+1a 1+1a 1+1a 1+1a 1+1a",
     "1+1a 1+1a 1+1a 1+1a 1+1a 1+1a 1+1a 1+1a 1+1a 1+1a 1+1a 1+1a 1+1a 1+1a 1+1a 1+1a 1+1a",
     "1+1a 1+1a 1+1a 1+1a 1+1a 1+1a 1+1a 1+1a 1+1a 1+1a 1+1a 1+1a 1+1a 1+1a 1+1a 1+1a 1+1a",
     "1+1a 1+1a 1+1a 1+1a 1+1a 1+1a 1+1a 1+1a 1+1a 1+1a 1+1a 1+1a 1+1a 1+1a 1+1a 1+1a 1+1a",
     "1+1a 1+1a 1+1a 1+1a 1+1a 1+1a 1+1a 1+1a 1+1a 1+1a 1+1a 1+1a 1+1a 1+1a 1+1a 1+1a 1+1a",
     "1+1a 1+1a 1+1a 1+1a 1+1a 1+1a 1+1a 1+1a 1+1a 1+1a 1+1a 1+1a 1+1a 1+1a 1+1a 1+1a 1+1a",
     "1+1a 1+1a 1+1a 1+1a 1+1a 1+1a 1+1a 1+1a"]⟩,
  ⟨["pp", "prepend"],
    ["600+5 d7 31 180+1 50 46b 1036e f f4+1 77b 1 f8 49+5 2bc 1bb"]⟩,
  ⟨["ri", "regionalindicator"],
    ["1f1e6+19"]⟩,
  ⟨["sm", "spacingmark"],
    ["903 37 2+2 8+3 1+1 32+1 3b+1 6+1 2+1 36 3a+2 42 3a+2 8 1+1 35+1 3c 6+1 2+1 72 1+1 3+2",
     "1+2 34+2 3d+3 3d+1 3a 1+1 1+1 2+1 1+1 27 e+1 3b+1 5+2 1+2 35+1 4c+1 6+6 13+1 3f 7f 8a+1",
     "3f b1 9+1 19+1 2c 690 1e 81 7+7 1+1 15a+3 2+2 4+1 1+5 e0+1 3a 1 15+5 91 36 1+4 1+1 3d 1e",
     "4+1 2 3c 2+2 1 3+1 30+7 8+1 ab 15 8b2b+1 2 58+1 32+f 8e+1 2f 30+1 4+1 2+2 6e+1 2+1 18 9d",
     "2+1 5 ed+1 1+1 1+1 1 6413 1 7f 2d+2 4+1 73 18+1 3b 30+2 9+1 d 5d+2 3+1 1 aa+2 1f+1 3b",
     "1+3 2+1 2+2 14+1 d1+2 8+1 3 6b+1 6 1+1 1 2 ee+1 6+3 2 71+2 8+1 1 6d 1+1 6 6f 105+2 9",
     "f8+4 1+1 4 2 1 8e+2 8+3 4 54 1d+1 3e 197 e 6a 7 2 d5+4 4+1 1 15e+1 c 30+1 8+1 1 500f+36",
     "68+1 6174 6"]⟩,
  ⟨["t"],
    ["11a8+57 c5cb+30"]⟩,
  ⟨["v"],
    ["1160+47 c608+16"]⟩,
  ⟨["xx", "other"],
    ["20+5e 21+8 1+2 2+250 70+112 7+106 2d 1 2 2 1+37 6+9 b 1+2d 15+f 1+64 8 6+1 2 4+20 1 1+1d",
     "1b+5a b+39 9+8 1+17 4 9 3 5+2a 3+33 2+5 8+29 3a+35 3 12 7+9 2+1c 3+37 1 7+1 2+1 3+8 1+9",
     "2+19 1+1 3+37 1 5+3 2+1 3+2 1+1d 2+2 1+a 3+37 1 8 3 3+13 2+15 6 3+37 1 7+1 2+1 3+6 3+9",
     "2+1d 1+3a 5+2 3 4+8 1+27 5+36 1 7 3 4+6 2+a 2+1c 3+37 1 7 3 4+6 2+a 2+e 1+b 4+36 2 7 3",
     "5+7 1+9 2+1c 3+45 1+3 6 1 8+11 2+3c 1 8+b 8+61 1 a+a 7+48 2+1a 1 1 1+3 2+30 14 2+4 b",
     "24+8 1+65 b 6+16 4+3 3+f 4+c 1 3+5 1+e 1+61 100+15c 3+3b1 4+1b 3+1c 2+1d 2+3f 20+8 1+2c",
     "5+74 2+21 1+75 c+3 c+da 5+38 a 1 1+1 18+1 1+2f 1f+30 5+2e 11+25 9+b 3+1d d+37 e+2f 14+97",
     "3 15+3 1+5 1+1 3+c5 40+20a 5+17 7+c 1+b 1+15 10+5f 21+30 1+15 1+59 6+e 2+16e 2+b 1+5e",
     "1+45 1+18 b+3 3+c6 1+e6 2+9 1+8 1+39 4 6 c 72+9 76+1 b 1 1+5 1+2 1+5 1+9 2+e 1+1 1+3 1",
     "1+3 3 1+a 5+2c 3+8 1+d 1+d 1+173 2+1ce 3+12 2+32 1+3 1+198 3+8c 1+5f 20+229 7+b 1+5a",
     "2+1fb 1 1+73d4 4 a+1f 2+4f 2+10f 1+2 1+3 1+16 5+3 1+52 2+31 12+19 12+c 1+25 8+18 d+b",
     "1d+2 4+2e e+23 1+42 e+b 1+7 2+2d 1+32 1 3+1 2+4 2 1+28 5+4 2+eb 8 2+11 2ba4+b 17+3",
     "31+2321 1+2e0 10+f 10+ce 1+9d 2+4f c+200 1+e1 1+94 5+685 3 2+4 4+27 3+3 1+a4 2+23c 4+182",
     "2+4f 3+45 b+30 4+79 3+34 f+28 1+1 2+9 4+2c b+1 1+3 1+9 1+31 3+23 e+f 2+2b 1+b 3+2f e 2+4",
     "4 2+5b c+5 1+1 1+9c c+14 4+36 2 7+1 2+1 3+8 1+9 2+1 7+2 5+bf 12+16 1+50 14+ea 7+1 9+1a",
     "2+51 11+69 d+64 3+1 a+ff f+f4 6 2+1 9+8c 7+1 7+2 1+1b a+27 c+7 1+8 b+27 16+194 8 8+51 16",
     "e+79 6+2 1 2 9+41 5 2 5+15a 4+8 4+2f 7+2 5+14ec 11+5 f+3699 5+3a 7+417 1 37+6 4+50 1+a",
     "2+4caa 2 4+125b 2e+1 17+21d 5+2 16+1 7+1d 4+93 3+7ba 37+3 32+7 1+d 1+15 5 f+54f 7 11+1 7",
     "2 5+63 1+9f 7+176 1+3c 4+1fb 4+3df 7+6c 7+6b4 100+c 3+1e 1+3b 6+b 2+d 1+1 a+11 53 f+9",
     "1+13 1+1 9 4+8 2f5+7 10a+2f 80+73 c+54 2b+b 4+37 8+9 6+27 8+1d 52+b 2f a 1b9+ff",
     "3fe+c0001 1000+2efff"]⟩,
  ⟨["zwj"],
    ["200d"]⟩]

def wordBreaks : List NamedSet := [
  ⟨["cr"],
    ["d"]⟩,
  ⟨["dq", "doublequote"],
    ["22"]⟩,
  ⟨["ex", "extendnumlet"],
    ["5f 1fcf f+1 13 ddde+1 18+2 ef"]⟩,
  ⟨["extend"],
    ["300+6f 113+6 107+2c 1 1+1 1+1 1 48+a 30+14 10 65+6 2+5 2+1 1+3 23 1e+1a 5b+a 3a+8 9 18+3",
     "1+8 1+2 1+4 2b+2 3c+7 2a+17 1+20 36+2 1+11 1+6 a+1 1d+2 38 1+6 2+1 2+2 9 a+1 1a 2+2 38",
     "1+4 4+1 2+2 3 1e+1 3 b+2 38 1+7 1+2 1+2 14+1 16+5 1+2 38 1+6 2+1 2+2 7+2 a+1 1e 3b+4 3+2",
     "1+3 9 28+4 37 1+6 1+2 1+3 7+1 b+1 1d+2 38 1+6 1+2 1+3 7+1 b+1 f c+3 37+1 1+6 1+2 1+3 9",
     "a+1 1d+2 46 4+5 1 1+7 12+1 3d 2+6 c+7 62 2+8 b+6 49+1 1b 1 1 4+1 31+13 1+1 5+a 1+23 9",
     "64+13 17+3 4+2 1+2 2+6 3+3 d+b 1 a+3 2bf+2 3b2+3 1c+2 1d+1 1e+1 40+1f 9 2d+2 1 75+1 22",
     "76+b 4+b db+4 39+9 1+1c 2 30+1e 31+4 2f+10 26+8 c+2 1e+c 38+d 30+13 98+2 1+14 4 6 2+2",
     "c6+3f 20c c3+20 bfe+2 8d 60+1f 22a+5 69+1 75d4+3 1+9 20+1 50+1 110 3 4 17+4 4 53+1 32+11",
     "1a+11 d 26+7 19+c 2c+3 2f+d 24 43+d c 8+1 2d+2 32 1+2 2+1 5+1 1 29+4 5+1 ec+7 1+1 4f30",
     "2e1+f 10+f 16e+1 25d e2 95+4 686+2 1+1 5+3 28+2 4 a5+1 23d+3 183+1 50+2 46+a 31+3 7a+2",
     "35+e 29 2+1 a+3 2d+a 7 3d+2 24+d 10+1 2c c+2 30+d 8+3 1+1 5c+b 6 2 9d+b 15+3 37+1 1+6",
     "2+1 2+2 9 a+1 2+6 3+4 c0+11 17 51+13 eb+6 2+8 1b+1 52+10 6a+c 65+e 100+e f5+5 1+1 2+3 1",
     "1+1 8d+6 2+6 3 1c+9 28+6 1+3 8 9+a 2e+f 195+7 1+7 52+15 1+d 7a+5 3 1+1 1+6 1 42+4 1+1",
     "1+4 15b+3 9+1 1 30+6 3+4 14fd 6+e 369a+4 3b+6 418 1+36 7+3 51 b+1 4cab+1 1261+2d 2+16",
     "21e+4 3+5 8+7 2+6 1e+3 94+2 7bb+36 4+31 8 e 16+4 1+e 550+6 1+10 2+6 1+1 1+4 64 a0+6 177",
     "3d+3 1fc+3 3e0+6 6d+6 ab0+4 c0c20+5f 80+ef"]⟩,
  ⟨["fo", "format"],
    ["ad 552+5 16 c0 31 180+1 50 f2b 7ff+1 1a+4 31+4 1+9 de8f f9+2 10c1 f 2362+f 8860+3 14cf+7",
     "c2e86"]⟩,
  ⟨["hl", "hebrewletter"],
    ["5d0+1a 4+3 f52a 1+9 1+c 1+4 1 1+1 1+1 1+9"]⟩,
  ⟨["ka", "katakana"],
    ["3031+4 65+1 3+5a 1+3 f0+f d0+2e 1+57 cc0e+37 b052+3 1+6 1+1 1 11f+2 32 e+3"]⟩,
  ⟨["le", "aletter"],
    ["41+19 6+19 2f a 4 5+16 1+1e 1+1df 6+21 70+4 1+1 2+3 1 6 1+2 1 1+13 1+52 1+8a 8+a5 1+25",
     "2+3 1 1+28 1 68 2c+2a 23+1 1+62 1 f+1 7+1 a+2 2 10 1+1d 1d+58 b 18+20 9+1 4 5+15 4 9 3",
     "17+18 7+a 5+17 1+5 11+29 3a+35 3 12 7+9 f+f 4+7 2+1 2+15 1+6 1 3+3 3 10 d+1 1+2 e+1 a",
     "8+5 4+1 2+15 1+6 1+1 1+1 1+1 1f+3 1 13+2 10+8 1+2 1+15 1+6 1+1 1+4 3 12 f+1 17 b+7 2+1",
     "2+15 1+6 1+1 1+4 3 1e+1 1+2 f 11 1+5 3+2 1+3 3+1 1 1+1 3+1 3+2 3+b 16 34+7 1+2 1+16 1+f",
     "3 1a+2 2 2+1 1e 4+7 1+2 1+16 1+9 1+4 3 1f+1 1+1 f+1 11+8 1+2 1+28 2 10 5+2 8+2 18+5 5+11",
     "3+17 1+8 1 2+6 139 3f+7 1+23 1b+4 113+25 1 5 2+2a 1+14c 1+3 2+6 1 1+3 2+28 1+3 2+20 1+3",
     "2+6 1 1+3 2+e 1+38 1+3 2+42 25+f 10+55 2+5 3+26b 2+10 1+19 5+4a 3+a 7+11 d+12 e+11 e+c",
     "1+2 af+58 7+4 2+21 1 5+45 a+1e e1+16 ee+2e 11+7 36+1d d+1 a+2b 1a+23 29+2 a+23 2+8 7+2a",
     "2+2 29+3 1+5 1+1 3 5+bf 40+115 2+5 2+25 2+5 2+7 1 1 1 1+1e 2+34 1+6 1 3+2 1+6 3+3 2+5",
     "4+c 5+2 1+6 74 d 10+c 65 4 2+9 1 3+4 6 1 1 1+3 1+9 3+3 5+4 4 11+28 32d+b 1+26 716+e4 6+3",
     "3+1 c+25 1 5 2+37 7 10+16 9+6 1+6 1+6 1+6 1+6 1+6 1+6 1+6 50 1d5 35+1 c8+2a 1+5d 11+1f",
     "6e40+48c 43+2d 2+10c 3+f a+1 14+2e 10+1e 2+4f 18+c2 5+1 1 1+4 18+f 1+2 1+3 1+16 1d+33",
     "e+31 3e+5 3 1+1 b+1b a+16 19+1c 7+2e 1c 30+28 17+2 1+7 94+a 7+2 c+5 2+5 2+5 9+6 1+6 1+39",
     "6+72 1d+2ba3 c+16 4+30 2304+6 c+4 38+61 21+16a 12+3f 2+35 28+b 74+4 1+86 24+19 6+19",
     "45+1e 3+5 2+5 2+5 2+2 23+b 1+19 1+12 1+1 1+e 2+d 22+7a 45+34 10b+1c 3+30 2f+1f d+1d 5+25",
     "a+1d 2+23 4+7 1+4 2a+9d 12+23 4+23 4+27 8+33 c+a 1+e 1+6 1+1 1+a 1+e 1+6 1+1 43+136 9+15",
     "a+7 18+5 1+29 1+8 45+5 2 1+2b 1+1 3 2+16 a+16 9+1e 41+12 1+1 a+15 a+19 46+37 6+1 40 f+3",
     "1+2 1+1c 2a+1c 3+1c 23+7 1+1b 1b+35 a+15 a+12 d+11 6e+48 37+32 d+32 d+23 15c+29 6+1",
     "4e+1c a 8+15 2a+11 2e+14 1b+16 c+34 39+1 2 d+2c 20+18 1a+23 1d 2 8+22 3 c+2f e+3 15 1",
     "23+11 1+18 13+1 3f+6 1 1+3 1+e 1+9 7+2e 26+7 2+1 2+15 1+6 1+1 1+4 3 12 c+4 9e+34 12+3",
     "14+2 1e+2f 14+1 1 b8+2e 29+3 24+2f 14 3b+2a d 147+2b 74+3f 1f+7 2 2+7 1+1 1+17 f 1 5e+7",
     "2+26 10 1 1c a+27 7 15 b+2d 13 12+48 107+8 1+24 11 31+1d 70+6 1+1 1+25 15 19+5 1+1 1+1f",
     "e 147+12 f 1+c 1+21 7c 4f+399 66+6e 11+c3 a4c+60 f+42f 11+5 fb9+246 21b9+238 7+1e 11+4e",
     "11+1d 12+2f 10+3 1f+14 5+12 2b0+3f 80+4a 5 42+c 40+1 1 4c1c+6a 5+c 3+8 7+9 1766+54 1+46",
     "1+1 2 2+1 2+3 1+b 1 1+6 1+40 1+3 2+7 1+6 1+1b 1+3 1+4 1 3+6 1+153 2+18 1+18 1+1e 1+18",
     "1+1e 1+18 1+1e 1+18 1+1e 1+18 1+7 734+1e 6+5 105+3d 92+2c a+6 10 141+1d 12+2b 1e4+1b",
     "2f4+6 1+3 1+1 1+e 1+c4 3b+43 7 4b4+3 1+1a 1+1 1 2 1+9 1+3 1 1 6 4 1 1 1+2 1+1 1 2 1 1 1",
     "1 1+1 1 2+3 1+6 1+3 1+3 1 1+9 1+10 5+2 1+4 1+10 274+19 6+19 8+b 2+9"]⟩,
  ⟨["lf"],
    ["a"]⟩,
  ⟨["mb", "midnumlet"],
    ["2e 1fe9+1 a de2d b4 6"]⟩,
  ⟨["ml", "midletter"],
    ["3a 7c 2cf 1d7 94 1a32 ddeb 41 c4"]⟩,
  ⟨["mn", "midnum"],
    ["2c e 342 20a 82+1 5e 18b 184b ddcb 3 3b 3 b7 e"]⟩,
  ⟨["nl", "newline"],
    ["b+1 78 1fa2+1"]⟩,
  ⟨["nu", "numeric"],
    ["30+9 626+9 1 84+9 c6+9 19c+9 76+9 76+9 76+9 76+9 76+9 76+9 76+9 76+9 76+9 60+9 76+9 46+9",
     "116+9 46+9 746+9 26+9 12c+9 80+9 a6+9 6+9 b6+9 56+9 86+9 6+9 89c6+9 2a6+9 26+9 c6+9 16+9",
     "56+9 196+9 5316+9 586+9 886+9 32c+9 80+9 3c+9 90+9 116+9 156+9 76+9 176+9 66+9 66+9",
     "1a6+9 66+9 2f6+9 f6+9 46+9 1a6+9 4b06+9 56+9 86+9 6c74+31 940+9 1a6+9 1f6+9 456+9 1296+9"]⟩,
  ⟨["ri", "regionalindicator"],
    ["1f1e6+19"]⟩,
  ⟨["sq", "singlequote"],
    ["27"]⟩,
  ⟨["xx", "other"],
    ["0+8 5+11 1 1+3 1+3 1 1 c+4 1a+3 1 1a+9 1+19 1+7 2+1 2+5 1 1+1 1+4 17 1f 1e0+5 97 2+1 6+5",
     "5 1 14 53 8b ad 26+1 4 2d+5 2d 1 2 2 1+7 1b+3 6+a 6+5 2+1 b 1+2 4a 2 66 9 a 13+1 1+e",
     "3c+1 65+d 36+1 1 1+1 1+1 2e+11 1c+3 b+4 18 6 2+5 cc+1 a 13 8+1 2+1 16 7 1+2 4+1 9+1 2+1",
     "4+7 1+3 2 5+1 c+9 1 1+1 3 6+3 2+1 16 7 2 2 2+1 1 5+3 2+1 3+2 1+6 4 1+6 10+a 3 9 3 16 7 2",
     "5+1 a 3 3+1 1+e 4+1 a+8 7 3 8+1 2+1 16 7 2 5+1 9+1 2+1 3+6 3+3 2 5+1 a 1+f 2 6+2 3 4+2 2",
     "1 2+2 2+2 3+2 c+3 5+2 3 4+1 1+5 1+d a+f d 3 17 10+1 9 3 4+6 2 3+1 1+1 4+1 a+f 4 8 3 17 a",
     "5+1 9 3 4+6 2+5 2 4+1 a 3+b d 3 33 3 5+4 4+6 5+1 a+9 6 3 12+2 18 9 1+1 7+2 1+3 6 1 8+5",
     "a+1 2+3c 1+1 7+b 8 a+56 1+1 9+a 7 a+25 1+16 2+5 a+a 1 1 1+3 a 24+3 14 12 24+8 1+63 14",
     "a+b 4+3 3 3+1 7+2 4+c c f+1 26 1+4 1+1 2b 14d 4+1 7 1 4+1 29 4+1 21 4+1 7 1 4+1 f 39 4+1",
     "43+1 3+1f 10+f 56+1 6+2 26c+1 2c+4 4b+2 b+6 16+8 16+a 14+b d 3 2+3f 20+8 1+1 a+20 f+5",
     "59+6 2b+4 46+9 1f c+3 c+9 a+7f a+25 1c+38 a 1d+1 b+5 a+15 1f+30 4d+2 a+10 9+b 74+b 38+7",
     "a+2 31+1 9+6 2b+1 3+f 3 27+4 216+1 6+1 26+1 6+1 8 1 1 1 1f+1 35 7 1+2 3 7+2 4+1 6+3 d+4",
     "3 7+2 b 4+7 2+9 1+1 9+b 1+1 2+2 1+3 1+9 1+9 6 a 1+c 1+f d+32 21+10 1+3 1+1 a 1+2 5+3 1 1",
     "1 1 4 b+1 4+4 5+3 1+10 29+a 6+e 2+16e 2+b 1+5e 1+45 1+18 b+3 3+ba 34+bf 2+9 1+8 1+39 4 6",
     "c 72+9 76+1 b 1 1+5 1+2 1+5 1+9 2+e 1+1 1+3 1 1+3 3 1+a 5+2c 3+8 1+d 1+d 1+173 2+1ce",
     "3+12 2+32 1+3 1+a9 e5+5 9+b 26 1+4 1+1 38+6 1+e 18+8 7 7 7 7 7 7 7 7 20+2e 1+1cf 1+3",
     "1+23 c+4 3+5a 4+2 5b 4+4 2b 5e+10 20+2f 10+96 1 1+35 2f 58+6ca7 48d+42 2e+1 10d+2 1c+13",
     "33 a 73+15 c3+4 2 1 5+17 36+3 1+12 34+b 46+9 a+5 18+2 1 31+1 24+b 1d+2 41+d b+a 1+9 a+5",
     "37+8 e+1 a+20 3+31 1 3+1 2+4 2 1+1d 10+1 5+9 6+1 6+1 6+8 7 7 3a+5 7b 2+1 a+5 2ba4+b 17+3",
     "31+2303 7+b 5+4 c d 5 1 2 2 6c+20 16b+11 40+1 36+27 c+3 11+1 2+a 10+2 2+17 4 1 2+19 5",
     "87+1 1+6 1+3 1 1 c+4 1a+3 1 1a+a 59+2 6+1 6+1 6+1 3+1b 3+3 c 1a 13 2 f+1 e+21 7b+44",
     "35+87 1+81 1d+2 31+e 1+1e 20+c 1e+4 2b+4 1e+1 24+3 8 5+29 9e+1 a+5 24+3 24+3 28+7 34+b b",
     "f 7 2 b f 7 2+42 137+8 16+9 8+17 6 2a 9+44 6+1 1 2c 2+2 1+1 17+9 17+8 1f+40 13 2+9 16+9",
     "1a+45 38+5 2+3f 4 2+4 8 3 1d+1 3+3 1+1f 1d+2 1d+22 8 1e+18 36+9 16+9 13+c 12+6d 49+36",
     "33+c 33+c 28+7 a+145 2a 2+2 2+4a 20+9 1+7 21+1e 16+29 15+1a 17+8 47+1e 10+8 3c+1 1+3 1+9",
     "1+1 19+6 a+5 35 a+3 4+7 24+1 1+8 45+3 4 d 1+22 12 25+5 4+3d 7 1 4 f a+6 3b+4 a+5 4 8+1",
     "2+1 16 7 2 5 a+1 2+1 3+1 1+5 1+4 7+1 7+2 5+8a 4b+4 a+3 4+1d 46 1+7 a+a5 36+1 9+16 6+21",
     "41+2 1+a a+25 39+6 a+52 f+3 a+c5 3b+64 4a+14 8+1 1+1 8 2 1e 2+1 9+b a+45 8+1 2e+1 8 2+1a",
     "3f+7 1+7 4a+2 1+11 49+106 9 2d 9+e a+17 1e+1 16 e+48 7 2 2c+2 1 2 9+7 a+5 6 2 25 2 6+6",
     "a+135 17+8 11 29+2 5+c a+55 1+4e 39a+65 6f+10 c4+a4b 61+e 456+fa9 247+21b8 239+6 1f a+5",
     "4f a+5 1e+1 5+a 37+8 4+b a+8 15+4 13+2af 40+7f 4b+3 39+6 11+3f 2 2+a 2+3ffd 4 7 2 1+11e",
     "3+31 1+d 4+a97 6b+4 d+2 9+6 a+2 2 4+125b 2e+1 17+21d 5+2 16+1 7+1d 4+93 3+1ba 55 47 2+1",
     "1+1 2+1 4 c 1 7 41 4+1 8 7 1c 4 5 1+2 7 154+1 19 19 1f 19 1f 19 1f 19 1f 19 8+1 32+1ff",
     "37+3 32+7 1+d 1+15 5 f+44f 1f+5 6+d4 7 11+1 7 2 5+4 3e+20 1+6f 2d+2 e+1 a+3 1+140 1f+10",
     "3a+1d5 2a+2e5 7 4 2 f c5+a 7+28 4c+3 a+4a5 4 1b 2 1+1 1 a 4 1 1+5 1+3 1 1 1 3 2 1+1 1 1",
     "1 1 1 2 1+1 4 7 4 4 1 a 11+4 3 5 11+143 100+c 3+1e 1b+5 1a+1 1e+3 1+1 a+11 53 f+9 1+13",
     "1+1 9 4+8 2f5+7 10a+2f 80+73 c+54 2b+b 4+37 8+9 6+27 8+1d 52+b 2f a 1b9+ef a+5 3fe+c0002",
     "1+1d 60+7f f0+2fe0f"]⟩,
  ⟨["zwj"],
    ["200d"]⟩]

def sentenceBreaks : List NamedSet := [
  ⟨["at", "aterm"],
    ["2e 1ff5 de2d bb"]⟩,
  ⟨["cl", "close"],
    ["22 4+2 31 1 1d 1 2d f e7e+3 75d+1 97b+7 19+1 a+1 36+1 e+1 279+3 1d+1 430+5 7+d 4f+1 1f+9",
     "193+15 3f+3 20+1 402+d e+1 2+9 18 12+7 1ab+9 2+7 1+2 cd1e+1 d7+1 1c+f 2+1 10+5 a9+1 31 1",
     "1d 1 1+1 1+1 f712+2"]⟩,
  ⟨["cr"],
    ["d"]⟩,
  ⟨["ex", "extend"],
    ["300+6f 113+6 107+2c 1 1+1 1+1 1 48+a 30+14 10 65+6 2+5 2+1 1+3 23 1e+1a 5b+a 3a+8 9 18+3",
     "1+8 1+2 1+4 2b+2 3c+7 2a+17 1+20 36+2 1+11 1+6 a+1 1d+2 38 1+6 2+1 2+2 9 a+1 1a 2+2 38",
     "1+4 4+1 2+2 3 1e+1 3 b+2 38 1+7 1+2 1+2 14+1 16+5 1+2 38 1+6 2+1 2+2 7+2 a+1 1e 3b+4 3+2",
     "1+3 9 28+4 37 1+6 1+2 1+3 7+1 b+1 1d+2 38 1+6 1+2 1+3 7+1 b+1 f c+3 37+1 1+6 1+2 1+3 9",
     "a+1 1d+2 46 4+5 1 1+7 12+1 3d 2+6 c+7 62 2+8 b+6 49+1 1b 1 1 4+1 31+13 1+1 5+a 1+23 9",
     "64+13 17+3 4+2 1+2 2+6 3+3 d+b 1 a+3 2bf+2 3b2+3 1c+2 1d+1 1e+1 40+1f 9 2d+2 1 75+1 22",
     "76+b 4+b db+4 39+9 1+1c 2 30+1e 31+4 2f+10 26+8 c+2 1e+c 38+d 30+13 98+2 1+14 4 6 2+2",
     "c6+3f 20c+1 c2+20 bfe+2 8d 60+1f 22a+5 69+1 75d4+3 1+9 20+1 50+1 110 3 4 17+4 4 53+1",
     "32+11 1a+11 d 26+7 19+c 2c+3 2f+d 24 43+d c 8+1 2d+2 32 1+2 2+1 5+1 1 29+4 5+1 ec+7 1+1",
     "4f30 2e1+f 10+f 16e+1 25d e2 95+4 686+2 1+1 5+3 28+2 4 a5+1 23d+3 183+1 50+2 46+a 31+3",
     "7a+2 35+e 29 2+1 a+3 2d+a 7 3d+2 24+d 10+1 2c c+2 30+d 8+3 1+1 5c+b 6 2 9d+b 15+3 37+1",
     "1+6 2+1 2+2 9 a+1 2+6 3+4 c0+11 17 51+13 eb+6 2+8 1b+1 52+10 6a+c 65+e 100+e f5+5 1+1",
     "2+3 1 1+1 8d+6 2+6 3 1c+9 28+6 1+3 8 9+a 2e+f 195+7 1+7 52+15 1+d 7a+5 3 1+1 1+6 1 42+4",
     "1+1 1+4 15b+3 9+1 1 30+6 3+4 14fd 6+e 369a+4 3b+6 418 1+36 7+3 51 b+1 4cab+1 1261+2d",
     "2+16 21e+4 3+5 8+7 2+6 1e+3 94+2 7bb+36 4+31 8 e 16+4 1+e 550+6 1+10 2+6 1+1 1+4 64 a0+6",
     "177 3d+3 1fc+3 3e0+6 6d+6 c16d5+5f 80+ef"]⟩,
  ⟨["fo", "format"],
    ["ad 552+5 16 c0 31 180+1 50 f2b 7fc 2+1 1a+4 31+4 1+9 de8f f9+2 10c1 f 2362+f 8860+3",
     "14cf+7 c2e86"]⟩,
  ⟨["le", "oletter"],
    ["1bb 4+3 d0 24+6 6+b 1a 1 85 1e4 76+1a 4+4 2c+2a 23+1 1+62 1 f+1 7+1 a+2 2 10 1+1d 1d+58",
     "b 18+20 9+1 4 5+15 4 9 3 17+18 7+a 5+17 1+5 11+29 3a+35 3 12 7+9 f+f 4+7 2+1 2+15 1+6 1",
     "3+3 3 10 d+1 1+2 e+1 a 8+5 4+1 2+15 1+6 1+1 1+1 1+1 1f+3 1 13+2 10+8 1+2 1+15 1+6 1+1",
     "1+4 3 12 f+1 17 b+7 2+1 2+15 1+6 1+1 1+4 3 1e+1 1+2 f 11 1+5 3+2 1+3 3+1 1 1+1 3+1 3+2",
     "3+b 16 34+7 1+2 1+16 1+f 3 1a+2 2 2+1 1e 4+7 1+2 1+16 1+9 1+4 3 1f+1 1+1 f+1 11+8 1+2",
     "1+28 2 10 5+2 8+2 18+5 5+11 3+17 1+8 1 2+6 3a+2f 1+1 c+6 3a+1 1 1+4 1+17 1 1+9 1+1 9 2+4",
     "1 15+3 20 3f+7 1+23 1b+4 73+2a 14 10+5 4+3 3 3+1 7+2 4+c c 41+2a 2+14b 1+3 2+6 1 1+3",
     "2+28 1+3 2+20 1+3 2+6 1 1+3 2+e 1+38 1+3 2+42 25+f 71+26b 2+10 1+19 5+4a 3+a 7+11 d+12",
     "e+11 e+c 1+2 f+33 23 4 43+58 7+4 2+21 1 5+45 a+1e 31+1d 2+4 b+2b 4+19 36+16 9+34 52",
     "5d+2e 11+7 36+1d d+1 a+2b 1a+23 29+2 a+23 12+2a 2+2 29+3 1+5 1+1 3 43a+3 47+2 2+3 ba7+37",
     "7 10+16 9+6 1+6 1+6 1+6 1+6 1+6 1+6 1+6 50 1d5+2 19+8 7+4 2+4 4+55 6+2 1+59 1+3 5+2a",
     "1+5d 11+1f 30+f 200+19bf 40+568c 43+2d 2+10c 3+f a+1 42 10 20+4f 27+8 68 6 67 3+6 1+2",
     "1+3 1+16 1d+33 e+31 3e+5 3 1+1 b+1b a+16 19+1c 7+2e 1c 10+4 1+9 a+4 1+28 17+2 1+7 14+16",
     "3 3+31 1 3+1 2+4 2 1 18+2 2+a 7+2 c+5 2+5 2+5 9+6 1+6 91+22 1d+2ba3 c+16 4+30 2104+16d",
     "2+69 43 1+9 1+c 1+4 1 1+1 1+1 1+6b 21+16a 12+3f 2+35 28+b 74+4 1+86 69+37 2+1e 3+5 2+5",
     "2+5 2+2 23+b 1+19 1+12 1+1 1+e 2+d 22+7a 45+34 10b+1c 3+30 2f+1f d+1d 5+25 a+1d 2+23 4+7",
     "1+4 7a+4d 62+27 8+33 9c+136 9+15 a+7 19+1 7d+5 2 1+2b 1+1 3 2+16 a+16 9+1e 41+12 1+1",
     "a+15 a+19 46+37 6+1 40 f+3 1+2 1+1c 2a+1c 3+1c 23+7 1+1b 1b+35 a+15 a+12 d+11 6e+48",
     "b7+23 15c+29 6+1 4e+1c a 8+15 2a+11 2e+14 1b+16 c+34 39+1 2 d+2c 20+18 1a+23 1d 2 8+22 3",
     "c+2f e+3 15 1 23+11 1+18 13+1 3f+6 1 1+3 1+e 1+9 7+2e 26+7 2+1 2+15 1+6 1+1 1+4 3 12 c+4",
     "9e+34 12+3 14+2 1e+2f 14+1 1 b8+2e 29+3 24+2f 14 3b+2a d 47+1a 25+6 b9+2b d3+7 2 2+7 1+1",
     "1+17 f 1 5e+7 2+26 10 1 1c a+27 7 15 b+2d 13 12+48 107+8 1+24 11 31+1d 70+6 1+1 1+25 15",
     "19+5 1+1 1+1f e 147+12 f 1+c 1+21 7c 4f+399 66+6e 11+c3 a4c+60 f+42f 11+5 fb9+246",
     "21b9+238 7+1e 11+4e 11+1d 12+2f 10+3 1f+14 5+12 370+4a 5 42+c 40+1 1 1c+17f7 8+4d5 2a+8",
     "22e7+3 1+6 1+1 1+122 f 1d+2 2 e+3 8+18b 904+6a 5+c 3+8 7+9 2270 1f5+2c a+6 10 141+1d",
     "12+2b 1e4+1b 2f4+6 1+3 1+1 1+e 1+c4 86 4b4+3 1+1a 1+1 1 2 1+9 1+3 1 1 6 4 1 1 1+2 1+1 1",
     "2 1 1 1 1 1+1 1 2+3 1+6 1+3 1+3 1 1+9 1+10 5+2 1+4 1+10 1144+a6df 20+1039 6+dd 2+1681",
     "e+1d30 c1f+21d 5e2+134a 5+105f"]⟩,
  ⟨["lf"],
    ["a"]⟩,
  ⟨["lo", "lower"],
    ["61+19 2f a 4 24+17 1+7 1 1 1 1 1 1 1 1 1 1 1 1 1 1 1 1 1 1 1 1 1 1 1 1 1 1 1 1+1 1 1 1 1",
     "1 1 1 1+1 1 1 1 1 1 1 1 1 1 1 1 1 1 1 1 1 1 1 1 1 1 1 1 2 1 1+2 2 1 2 3+1 4 2 3+2 2 2 1",
     "1 2 1+1 1 2 3 1 2+1 2+2 6 2 2 1 1 1 1 1 1 1 1+1 1 1 1 1 1 1 1 1 1+1 2 1 3 1 1 1 1 1 1 1",
     "1 1 1 1 1 1 1 1 1 1 1 1 1 1 1 1 1 1 1 1 1 1+6 2 2+1 1 4 1 1 1 1+44 1+23 7+1 1e+4 8c 1 3",
     "2+3 12 1b+22 1+1 3+2 1 1 1 1 1 1 1 1 1 1 1 1+4 1 2 2+1 33+2f 1 1 1 1 1 1 1 1 1 1 1 1 1 1",
     "1 1 1 9 1 1 1 1 1 1 1 1 1 1 1 1 1 1 1 1 1 1 1 1 1 1 1 1 1 1 2 1 1 1 1 1 1+1 1 1 1 1 1 1",
     "1 1 1 1 1 1 1 1 1 1 1 1 1 1 1 1 1 1 1 1 1 1 1 1 1 1 1 1 1 1 1 1 1 1 1 1 1 1 1 1 1 1",
     "30+28 b73 2fb+5 882+8 77+bf 41 1 1 1 1 1 1 1 1 1 1 1 1 1 1 1 1 1 1 1 1 1 1 1 1 1 1 1 1 1",
     "1 1 1 1 1 1 1 1 1 1 1 1 1 1 1 1 1 1 1 1 1 1 1 1 1 1 1 1 1 1 1 1 1 1 1 1 1 1 1 1 1 1 1 1",
     "1+8 1 1 1 1 1 1 1 1 1 1 1 1 1 1 1 1 1 1 1 1 1 1 1 1 1 1 1 1 1 1 1 1 1 1 1 1 1 1 1 1 1 1",
     "1 1 1 1 1 1 1+8 8+5 a+7 8+7 8+5 a+7 8+7 8+d 2+7 8+7 8+7 8+4 1+1 6 3+2 1+1 8+3 2+1 8+7",
     "a+2 1+1 79 d 10+c 6d 3+1 3 1b 4 4 2+1 8+3 4 21+f 4 34b+19 746+2f 1 3+1 1 1 1 4 1+1 1+7 3",
     "1 1 1 1 1 1 1 1 1 1 1 1 1 1 1 1 1 1 1 1 1 1 1 1 1 1 1 1 1 1 1 1 1 1 1 1 1 1 1 1 1 1 1 1",
     "1 1 1 1 1+1 7 1 4 c+25 1 5 7913 1 1 1 1 1 1 1 1 1 1 1 1 1 1 1 1 1 1 1 1 1 1 13 1 1 1 1 1",
     "1 1 1 1 1 1 1 1+2 85 1 1 1 1 1 1+2 1 1 1 1 1 1 1 1 1 1 1 1 1 1 1 1 1 1 1 1 1 1 1 1 1 1 1",
     "1 1 1 1+9 1 1 2 1 1 1 1 4 1 2 1+2 1 1 1 1 1 1 1 1 1 1 5 5 1 1 1 1 1 1 1 4 1 6 1 1 1 1",
     "18+2 1 1+2 335+2a 1+d 6+4f 4f40+6 c+4 429+19 4cd+27 88+23 9b+a 1+e 1+6 1+1 1c3 2+2 1+29",
     "1+8 505+32 bcd+1f 5580+1f 659a+19 1a+6 1+11 1a+19 1a+3 1 1+6 1+a 1a+19 1a+19 1a+19 1a+19",
     "1a+19 1a+19 1a+19 1a+19 1a+1b 1c+18 1+5 1a+18 1+5 1a+18 1+5 1a+18 1+5 1a+18 1+5 1 734+9",
     "1+13 6+5 105+3d 8b4+21"]⟩,
  ⟨["nu", "numeric"],
    ["30+9 626+9 1+1 83+9 c6+9 19c+9 76+9 76+9 76+9 76+9 76+9 76+9 76+9 76+9 76+9 60+9 76+9",
     "46+9 116+9 46+9 746+9 26+9 12c+9 80+9 a6+9 6+9 b6+9 56+9 86+9 6+9 89c6+9 2a6+9 26+9 c6+9",
     "16+9 56+9 196+9 5316+9 586+9 886+9 32c+9 80+9 3c+9 90+9 116+9 156+9 76+9 176+9 66+9 66+9",
     "1a6+9 66+9 2f6+9 f6+9 46+9 1a6+9 4b06+9 56+9 86+9 6c74+31 940+9 1a6+9 1f6+9 456+9 1296+9"]⟩,
  ⟨["sc", "scontinue"],
    ["2c+1 c 522 ae+1 1ea 1009 5 80a+1 fec ce0e+1 1 1d+1 1d+1 3 2 a a8+1 c 49"]⟩,
  ⟨["se", "sep"],
    ["85 1fa2+1"]⟩,
  ⟨["sp"],
    ["9 1+1 13 7f 15df 97f+a 24 2f fa0"]⟩,
  ⟨["st", "sterm"],
    ["21 1d 549 93+2 b4 2b+2 f6 3d 1 3+1 125+1 6e4+1 316 4+1 305 c6+1 cc 5 13a+1 162+3 ae+1",
     "2+1 1d+1 bc+1 41+1 3bc+1 9+2 de4 d 16+1 1ad 74fc 10e+1 e3 3 17e+1 56+1 5f 98+1 93+2 90+1",
     "f9 526a+1 a9 1d 41 af4+1 4fd+4 2c+3 bd+1 75+3 7f+2 81+1 6 10+1 58+1 1+1 6c 1a1+1 175+1",
     "5+e 69+1 f9+2 205 1 fb+1 57+1 1a4+1 2b4+1 4a+1 4b29+1 85 41+1 b 353 4e06 1de8"]⟩,
  ⟨["up", "upper"],
    ["41+19 65+16 1+6 21 1 1 1 1 1 1 1 1 1 1 1 1 1 1 1 1 1 1 1 1 1 1 1 1 1 1 1 2 1 1 1 1 1 1 1",
     "2 1 1 1 1 1 1 1 1 1 1 1 1 1 1 1 1 1 1 1 1 1 1 1+1 1 1 3+1 1 1+1 1+2 2+3 1+1 1+2 3+1 1+1",
     "1 1 1+1 1 2 1+1 1+2 1 1+1 3 7+1 1+1 1+1 1 1 1 1 1 1 1 1 2 1 1 1 1 1 1 1 1 2+1 1 1+2 1 1",
     "1 1 1 1 1 1 1 1 1 1 1 1 1 1 1 1 1 1 1 1 1 1 1 1 1 1 1 7+1 1+1 2 1+3 1 1 1 1 121 1 3 8 6",
     "1+2 1 1+1 1+10 1+8 23 2+2 3 1 1 1 1 1 1 1 1 1 1 1 5 2 1+1 2+32 30 1 1 1 1 1 1 1 1 1 1 1",
     "1 1 1 1 1 9 1 1 1 1 1 1 1 1 1 1 1 1 1 1 1 1 1 1 1 1 1 1 1 1 1 1 1+1 1 1 1 1 1 1 2 1 1 1",
     "1 1 1 1 1 1 1 1 1 1 1 1 1 1 1 1 1 1 1 1 1 1 1 1 1 1 1 1 1 1 1 1 1 1 1 1 1 1 1 1 1 1 1 1",
     "2+25 b49+25 1 5 2d2+55 a0a 1 1 1 1 1 1 1 1 1 1 1 1 1 1 1 1 1 1 1 1 1 1 1 1 1 1 1 1 1 1 1",
     "1 1 1 1 1 1 1 1 1 1 1 1 1 1 1 1 1 1 1 1 1 1 1 1 1 1 1 1 1 1 1 1 1 1 1 1 1 1 1 1 1 1 1 9",
     "1 1 1 1 1 1 1 1 1 1 1 1 1 1 1 1 1 1 1 1 1 1 1 1 1 1 1 1 1 1 1 1 1 1 1 1 1 1 1 1 1 1 1 1",
     "1 1 1 1 9+7 8+5 a+7 8+7 8+5 b 1 1 1 8+7 18+7 8+7 8+7 8+4 b+4 b+3 c+4 b+4 105 4 3+2 2+2 2",
     "3+4 6 1 1 1+3 2+3 a+1 5 1a+f 13 332+19 730+2f 30 1+2 2 1 1 1+3 1 2 8+2 1 1 1 1 1 1 1 1 1",
     "1 1 1 1 1 1 1 1 1 1 1 1 1 1 1 1 1 1 1 1 1 1 1 1 1 1 1 1 1 1 1 1 1 1 1 1 1 1 1 1 8 1 4",
     "794d 1 1 1 1 1 1 1 1 1 1 1 1 1 1 1 1 1 1 1 1 1 1 13 1 1 1 1 1 1 1 1 1 1 1 1 1 87 1 1 1 1",
     "1 1 3 1 1 1 1 1 1 1 1 1 1 1 1 1 1 1 1 1 1 1 1 1 1 1 1 1 1 1 1 1 1 a 1 1+1 1 1 1 1 4 1 2",
     "1 3 1 1 1 1 1 1 1 1 1 1+4 1+4 1 1 1 1 1 1 1 1+3 1 6 5 1 1c 572b+19 4c5+27 88+23 9c+a 1+e",
     "1+6 1+1 6ea+32 bed+1f 5580+1f 65a0+19 1a+19 1a+19 1a 1+1 2 2+1 2+3 1+7 1a+19 1a+1 1+3",
     "2+7 1+6 1b+1 1+3 1+4 1 3+6 1b+19 1a+19 1a+19 1a+19 1a+19 1a+19 1e+18 21+18 21+18 21+18",
     "21+18 21 1135+21 80e+19 6+19 6+19"]⟩,
  ⟨["xx", "other"],
    ["0+8 5+11 3+3 3+1 3 b+3 1 1b 1+2 1b 1+6 1+19 1+8 2 1+6 1+3 2+3 17 1f 1ca+3 c+d 5+6 1 1+10",
     "75 2+1 4 1+5 1 3 1 14 53 8b ad 26+1 1+2 1+1 2a+6 2d 1 2 2 1+7 1b+3 5+b 6+5 2+1 b 4e 2 70",
     "a 13+1 4+b 3c+1 65+d 36+1 3+1 1+1 2e+8 1 1+2 2 1c+3 b+4 18 6 2+5 d8 13 8+1 2+1 16 7 1+2",
     "4+1 9+1 2+1 4+7 1+3 2 5+1 c+9 1 1+1 3 6+3 2+1 16 7 2 2 2+1 1 5+3 2+1 3+2 1+6 4 1+6 10+a",
     "3 9 3 16 7 2 5+1 a 3 3+1 1+e 4+1 a+8 7 3 8+1 2+1 16 7 2 5+1 9+1 2+1 3+6 3+3 2 5+1 a 1+f",
     "2 6+2 3 4+2 2 1 2+2 2+2 3+2 c+3 5+2 3 4+1 1+5 1+d a+f d 3 17 10+1 9 3 4+6 2 3+1 1+1 4+1",
     "a+f 4 8 3 17 a 5+1 9 3 4+6 2+5 2 4+1 a 3+b d 3 33 3 5+4 4+6 5+1 a+9 6 3 12+2 18 9 1+1",
     "7+2 1+3 6 1 8+5 a+1 2+c 3a+4 f a+26 2 1 5 18 1 17+1 5 1 7 a+1 4+1f 1+16 2+5 a+a 1 1 f",
     "24+3 14 12 24+8 1+38 4c+3 4e+1 26 1+4 1+1 2b 14d 4+1 7 1 4+1 29 4+1 21 4+1 7 1 4+1 f 39",
     "4+1 43+1 3+1 1+3 2+16 10+f 56+1 6+2 26c 2f+2 4b+2 b+6 16+8 18+8 14+b d 3 2+b 54+2 1+3",
     "2+1 a+17 2+3 2 f+5 59+6 2b+4 46+9 1f c+3 c+7 2a+1 5+a 2c+3 1a+5 a+25 1c+3 3f 1d+1 b+5",
     "a+c 5+3 1f+30 4d+2 c+1 2+a 9+8 2 74+b 38+2 2+2 a+2 3c+6 2b+1 3+f 3 27+4 216+1 6+1 26+1",
     "6+1 8 1 1 1 1f+1 35 7 1+2 3 7+2 4+1 6+3 d+4 3 7+2 10+2 2+2 8+3 1+2 8+8 2 2+6 5+14 6 a",
     "1+a 3+c 2 d+32 21+10 1+3 1+1 a 1+2 5+5 1 1 1 4 b+1 4+4 5+3 1+10 29+17e 4+1c 2+18a 34+270",
     "6+6 e+4e 2+1e a+192 16+3e 4+1f 2+201 e5+5 9+b 26 1+4 1+1 38+6 1+e 18+8 7 7 7 7 7 7 7 7",
     "2e+d 2+1 a+3 2+b 1+4 1+f a+1a2 3+1 d+1 8 3 f 5+1 5+3 56+1 2+1 3 5a 4+4 2b 5e+10 20+2f",
     "10+1ff 19c0+3f 568d+42 2e 10e 1e+13 33 a 73 1+2 1+1e 9+1 67+1 40+4 2 1 5+17 36+3 1+12",
     "34+1 2+7 46+7 c+5 18+2 1 31 25+b 1d+2 41+6 2+4 b+5 1f 37+8 e+1 a+2 1a+2 49+17 3+1 17+9",
     "6+1 6+1 6+8 7 7 2b e+5 7e+1 a+5 2ba4+b 17+3 31+2103 16e+1 6a+25 7+b 5+4 c d 5 1 2 2",
     "6c+20 16d+f 40+1 36+27 c+3 12 1+2 2+6 10 2+1 10+1 2+6 3+1 a+3 1+b 5 87+1 1 1+5 2+1 3 b+3",
     "1 1b 1+2 1b 1 6 59+2 6+1 6+1 6+1 3+1b 3+3 c 1a 13 2 f+1 e+21 7b+44 35+87 1+81 1d+2 31+e",
     "1+1e 20+c 1e+4 2b+4 1e+1 24+3 8 5+29 9e+1 a+5 24+3 24+3 28+7 34+b b f 7 2 b f 7 2+42",
     "137+8 16+9 8+17 6 2a 9+44 6+1 1 2c 2+2 1+1 17+9 17+8 1f+40 13 2+9 16+9 1a+45 38+5 2+3f 4",
     "2+4 8 3 1d+1 3+3 1+15 2+7 1d+2 1d+22 8 1e+18 36+9 16+9 13+c 12+6d 49+36 33+c 33+c 28+7",
     "a+145 2a 2+2 2+4a 20+9 1+7 21+3 5+15 1a+25 15+1a 17+8 49+1c 10+8 3c+1 6+9 1+1 19+6 a+5",
     "35 a 7+7 24+1 1+8 47+1 12 1 2+1f 12 27 2 4+3d 7 1 4 f b+5 3b+4 a+5 4 8+1 2+1 16 7 2 5",
     "a+1 2+1 3+1 1+5 1+4 7+1 7+2 5+8a 4d+2 a+3 4+1d 46 1+7 a+a5 36+1 9 2+4 15+21 43 1+a a+25",
     "39+6 a+35 1b+1 f+3 a+1 3 7+b8 3b+64 4a+14 8+1 1+1 8 2 1e 2+1 a 1+8 a+45 8+1 2e+1 8 2+1a",
     "3f+2 2+2 1+7 4a 3+11 49+106 9 2d b+c a+17 1e+1 16 e+48 7 2 2c+2 1 2 9+7 a+5 6 2 25 2 6+6",
     "a+135 19+6 11 29+2 7+a a+55 1+4e 39a+65 6f+10 c4+a4b 61+e 456+fa9 247+21b8 239+6 1f a+3",
     "51 a+5 1e+1 6+9 39+6 5+a a+8 15+4 13+2af 40+17 1+66 4b+3 39+6 11+3f 2 2+a 2+d 17f8+7",
     "4d6+29 9+22e6 4 7 2 123+e 1+1c 3+1 1+d 4+7 18c+903 6b+4 d+2 9+6 a+2 7+125b 2e+1 17+21d",
     "5+2 16+1 7+1d 4+93 3+1ba 55 47 2+1 1+1 2+1 4 c 1 7 41 4+1 8 7 1c 4 5 1+2 7 154+1 19 19",
     "1f 19 1f 19 1f 19 1f 19 8+1 32+1ff 37+3 32+7 1+d 1+2 1+11 5 f+44f 1f+5 6+d4 7 11+1 7 2",
     "5+4 3e+20 1+6f 2d+2 e+1 a+3 1+140 1f+10 3a+1d5 2a+2e5 7 4 2 f c5+a 7+28 4c+3 a+4a5 4 1b",
     "2 1+1 1 a 4 1 1+5 1+3 1 1 1 3 2 1+1 1 1 1 1 1 2 1+1 4 7 4 4 1 a 11+4 3 5 11+273 1a+5",
     "1a+5 1a+4eb 3+576 a+405 a6e0+1f 103a+5 de+1 1682+d 1d31+c1e 21e+5e1 134b+4 1060+adc50",
     "1+1d 60+7f f0+2fe0f"]⟩]

end Phrasebook.Unicode
