import Phrasebook.Unicode.Table

/-!
The scripts of Unicode.
-/

namespace Phrasebook.Unicode

def scripts : List NamedSet := [
  ⟨["adlm", "adlam"],
    ["1e900+4b 4+9 4+1"]⟩,
  ⟨["aghb", "caucasianalbanian"],
    ["10530+33 b"]⟩,
  ⟨["ahom"],
    ["11700+1a 2+e 4+16"]⟩,
  ⟨["arab", "arabic"],
    ["600+4 1+5 1+d 1+2 1+1f 1+9 b+19 1+6b 1+21 50+2f f0+21 5+4a 1+1c f250+1ed 2+8f 20+f 70+4",
     "1+86 f63+1e 43+5 8+8 21+5 df00+3 1+1a 1+1 1 2 1+9 1+3 1 1 6 4 1 1 1+2 1+1 1 2 1 1 1 1",
     "1+1 1 2+3 1+6 1+3 1+3 1 1+9 1+10 5+2 1+4 1+10 34+1"]⟩,
  ⟨["armi", "imperialaramaic"],
    ["10840+15 1+8"]⟩,
  ⟨["armn", "armenian"],
    ["531+25 2+31 2+2 f583+4"]⟩,
  ⟨["avst", "avestan"],
    ["10b00+35 3+6"]⟩,
  ⟨["bali", "balinese"],
    ["1b00+4c 1+31"]⟩,
  ⟨["bamu", "bamum"],
    ["a6a0+57 c108+238"]⟩,
  ⟨["bass", "bassavah"],
    ["16ad0+1d 2+5"]⟩,
  ⟨["batk", "batak"],
    ["1bc0+33 8+3"]⟩,
  ⟨["beng", "bengali"],
    ["980+3 1+7 2+1 2+15 1+6 1 3+3 2+8 2+1 2+3 8 4+1 1+4 2+18"]⟩,
  ⟨["berf", "beriaerfe"],
    ["16ea0+18 2+18"]⟩,
  ⟨["bhks", "bhaiksuki"],
    ["11c00+8 1+2c 1+d a+1c"]⟩,
  ⟨["bopo", "bopomofo"],
    ["2ea+1 2e19+2a 70+1f"]⟩,
  ⟨["brah", "brahmi"],
    ["11000+4d 4+23 9"]⟩,
  ⟨["brai", "braille"],
    ["2800+ff"]⟩,
  ⟨["bugi", "buginese"],
    ["1a00+1b 2+1"]⟩,
  ⟨["buhd", "buhid"],
    ["1740+13"]⟩,
  ⟨["cakm", "chakma"],
    ["11100+34 1+11"]⟩,
  ⟨["cans", "canadianaboriginal"],
    ["1400+27f 230+45 101ba+f"]⟩,
  ⟨["cari", "carian"],
    ["102a0+30"]⟩,
  ⟨["cham"],
    ["aa00+36 9+d 2+9 2+3"]⟩,
  ⟨["cher", "cherokee"],
    ["13a0+55 2+5 9772+4f"]⟩,
  ⟨["chrs", "chorasmian"],
    ["10fb0+1b"]⟩,
  ⟨["copt", "coptic", "qaac"],
    ["3e2+d 2890+73 5+6"]⟩,
  ⟨["cpmn", "cyprominoan"],
    ["12f90+62"]⟩,
  ⟨["cprt", "cypriot"],
    ["10800+5 2 1+2b 1+1 3 2"]⟩,
  ⟨["cyrl", "cyrillic"],
    ["400+84 2+a8 1750+a a0 4c 1067+1f 7840+5f 578e+1 e200+3d 21"]⟩,
  ⟨["deva", "devanagari"],
    ["900+50 4+e 2+19 9f60+1f 7200+9"]⟩,
  ⟨["diak", "divesakuru"],
    ["11900+6 2 2+7 1+1 1+1d 1+1 2+b 9+9"]⟩,
  ⟨["dogr", "dogra"],
    ["11800+3b"]⟩,
  ⟨["dsrt", "deseret"],
    ["10400+4f"]⟩,
  ⟨["dupl", "duployan"],
    ["1bc00+6a 5+c 3+8 7+9 2+3"]⟩,
  ⟨["egyp", "egyptianhieroglyphs"],
    ["13000+455 a+f9a"]⟩,
  ⟨["elba", "elbasan"],
    ["10500+27"]⟩,
  ⟨["elym", "elymaic"],
    ["10fe0+16"]⟩,
  ⟨["ethi", "ethiopic"],
    ["1200+48 1+3 2+6 1 1+3 2+28 1+3 2+20 1+3 2+6 1 1+3 2+e 1+38 1+3 2+42 2+1f 3+19 19e6+16",
     "9+6 1+6 1+6 1+6 1+6 1+6 1+6 1+6 7d22+5 2+5 2+5 9+6 1+6 13cb1+6 1+3 1+1 1+e"]⟩,
  ⟨["gara", "garay"],
    ["10d40+25 3+1c 8+1"]⟩,
  ⟨["geor", "georgian"],
    ["10a0+25 1 5 2+2a 1+3 b90+2a 2+2 1040+25 1 5"]⟩,
  ⟨["glag", "glagolitic"],
    ["2c00+5f 1b3a0+6 1+10 2+6 1+1 1+4"]⟩,
  ⟨["gong", "gunjalagondi"],
    ["11d60+5 1+1 1+24 1+1 1+5 7+9"]⟩,
  ⟨["gonm", "masaramgondi"],
    ["11d00+6 1+1 1+2b 3 1+1 1+8 8+9"]⟩,
  ⟨["goth", "gothic"],
    ["10330+1a"]⟩,
  ⟨["gran", "grantha"],
    ["11300+3 1+7 2+1 2+15 1+6 1+1 1+4 2+8 2+1 2+2 2 6 5+6 2+6 3+4"]⟩,
  ⟨["grek", "greek"],
    ["370+3 1+2 2+3 1 4 1 1+2 1 1+13 1+3e e+f 1926+4 32+4 4+4 54 140+15 2+5 2+25 2+5 2+7 1 1 1",
     "1+1e 2+34 1+e 1+d 2+5 1+12 2+2 1+8 127 8a3e 55da+4e 11 d05f+45"]⟩,
  ⟨["gujr", "gujarati"],
    ["a81+2 1+8 1+2 1+15 1+6 1+1 1+4 2+9 1+2 1+2 2 f+3 2+b 7+6"]⟩,
  ⟨["gukh", "gurungkhema"],
    ["16100+39"]⟩,
  ⟨["guru", "gurmukhi"],
    ["a01+2 1+5 4+1 2+15 1+6 1+1 1+1 1+1 2 1+4 4+1 2+2 3 7+3 1 7+10"]⟩,
  ⟨["hang", "hangul"],
    ["1100+ff 1e2e+1 101+5d 71+1e 41+1e 76e1+1c 283+2ba3 c+16 4+30 27a4+1e 3+5 2+5 2+5 2+2"]⟩,
  ⟨["hani", "han"],
    ["2e80+19 1+58 c+d5 2f 1 19+8 e+3 3c4+19bf 40+51ff 5900+16d 2+69 7508+1 c+6 9009+a6df",
     "20+111d 2+168d 2+1d30 f+26d 9a2+21d 5e2+134a 5+2129"]⟩,
  ⟨["hano", "hanunoo"],
    ["1720+14"]⟩,
  ⟨["hatr", "hatran"],
    ["108e0+12 1+1 5+4"]⟩,
  ⟨["hebr", "hebrew"],
    ["591+36 8+1a 4+5 f528+19 1+4 1 1+1 1+1 1+9"]⟩,
  ⟨["hira", "hiragana"],
    ["3041+55 6+2 17f61+11e 12 1d+2 40ad"]⟩,
  ⟨["hluw", "anatolianhieroglyphs"],
    ["14400+246"]⟩,
  ⟨["hmng", "pahawhhmong"],
    ["16b00+45 a+9 1+6 1+14 5+12"]⟩,
  ⟨["hmnp", "nyiakengpuachuehmong"],
    ["1e100+2c 3+d 2+9 4+1"]⟩,
  ⟨["hung", "oldhungarian"],
    ["10c80+32 d+32 7+5"]⟩,
  ⟨["ital", "olditalic"],
    ["10300+23 9+2"]⟩,
  ⟨["java", "javanese"],
    ["a980+4d 2+9 4+1"]⟩,
  ⟨["kali", "kayahli"],
    ["a900+2d 1"]⟩,
  ⟨["kana", "katakana"],
    ["30a1+59 2+2 f0+f d0+2e 1+57 cc0e+9 1+2c b052+3 1+6 1+1 1 11f+2 32 e+3"]⟩,
  ⟨["kawi"],
    ["11f00+10 1+28 3+1c"]⟩,
  ⟨["khar", "kharoshthi"],
    ["10a00+3 1+1 5+7 1+2 1+1c 2+2 4+9 7+8"]⟩,
  ⟨["khmr", "khmer"],
    ["1780+5d 2+9 6+9 1e6+1f"]⟩,
  ⟨["khoj", "khojki"],
    ["11200+11 1+2e"]⟩,
  ⟨["kits", "khitansmallscript"],
    ["16fe4 1b1b+1d5 29"]⟩,
  ⟨["knda", "kannada"],
    ["c80+c 1+2 1+16 1+9 1+4 2+8 1+2 1+3 7+1 5+2 1+3 2+9 1+2"]⟩,
  ⟨["krai", "kiratrai"],
    ["16d40+39"]⟩,
  ⟨["kthi", "kaithi"],
    ["11080+42 a"]⟩,
  ⟨["lana", "taitham"],
    ["1a20+3e 1+1c 2+a 6+9 6+d"]⟩,
  ⟨["laoo", "lao"],
    ["e81+1 1 1+4 1+17 1 1+16 2+4 1 1+6 1+9 2+3"]⟩,
  ⟨["latn", "latin"],
    ["41+19 6+19 2f f 5+16 1+1e 1+1c0 27+4 1a1b+25 6+30 5+3 5+c 1+45 41+ff 171 d 10+c 8d+1 6",
     "1b 11+28 ad7+1f 7aa2+65 3+51 14+e 330+2a 1+8 1+3 4f96+6 41a+19 6+19 825+5 1+29 1+8",
     "d745+1e 6+5"]⟩,
  ⟨["lepc", "lepcha"],
    ["1c00+37 3+e 3+2"]⟩,
  ⟨["limb", "limbu"],
    ["1900+1e 1+b 4+b 4 3+b"]⟩,
  ⟨["lina", "lineara"],
    ["10600+136 9+15 a+7"]⟩,
  ⟨["linb", "linearb"],
    ["10000+b 1+19 1+12 1+1 1+e 2+d 22+7a"]⟩,
  ⟨["lisu"],
    ["a4d0+2f 7ab0"]⟩,
  ⟨["lyci", "lycian"],
    ["10280+1c"]⟩,
  ⟨["lydi", "lydian"],
    ["10920+19 5"]⟩,
  ⟨["mahj", "mahajani"],
    ["11150+26"]⟩,
  ⟨["maka", "makasar"],
    ["11ee0+18"]⟩,
  ⟨["mand", "mandaic"],
    ["840+1b 2"]⟩,
  ⟨["mani", "manichaean"],
    ["10ac0+26 4+b"]⟩,
  ⟨["marc", "marchen"],
    ["11c70+1f 2+15 1+d"]⟩,
  ⟨["medf", "medefaidrin"],
    ["16e40+5a"]⟩,
  ⟨["mend", "mendekikakui"],
    ["1e800+c4 2+f"]⟩,
  ⟨["merc", "meroiticcursive"],
    ["109a0+17 4+13 2+2d"]⟩,
  ⟨["mero", "meroitichieroglyphs"],
    ["10980+1f"]⟩,
  ⟨["mlym", "malayalam"],
    ["d00+c 1+2 1+32 1+2 1+5 4+f 2+19"]⟩,
  ⟨["modi"],
    ["11600+44 b+9"]⟩,
  ⟨["mong", "mongolian"],
    ["1800+1 2 1+13 6+58 7+2a fdb5+c"]⟩,
  ⟨["mroo", "mro"],
    ["16a40+1e 1+9 4+1"]⟩,
  ⟨["mtei", "meeteimayek"],
    ["aae0+16 c9+2d 2+9"]⟩,
  ⟨["mult", "multani"],
    ["11280+6 1 1+3 1+e 1+a"]⟩,
  ⟨["mymr", "myanmar"],
    ["1000+9f 9940+1e 61+1f 6c50+13"]⟩,
  ⟨["nagm", "nagmundari"],
    ["1e4d0+29"]⟩,
  ⟨["nand", "nandinagari"],
    ["119a0+7 2+2d 2+a"]⟩,
  ⟨["narb", "oldnortharabian"],
    ["10a80+1f"]⟩,
  ⟨["nbat", "nabataean"],
    ["10880+1e 8+8"]⟩,
  ⟨["newa"],
    ["11400+5b 1+4"]⟩,
  ⟨["nkoo", "nko"],
    ["7c0+3a 2+2"]⟩,
  ⟨["nshu", "nushu"],
    ["16fe1 418e+18b"]⟩,
  ⟨["ogam", "ogham"],
    ["1680+1c"]⟩,
  ⟨["olck", "olchiki"],
    ["1c50+2f"]⟩,
  ⟨["onao", "olonal"],
    ["1e5d0+2a 4"]⟩,
  ⟨["orkh", "oldturkic"],
    ["10c00+48"]⟩,
  ⟨["orya", "oriya"],
    ["b01+2 1+7 2+1 2+15 1+6 1+1 1+4 2+8 2+1 2+2 7+2 4+1 1+4 2+11"]⟩,
  ⟨["osge", "osage"],
    ["104b0+23 4+23"]⟩,
  ⟨["osma", "osmanya"],
    ["10480+1d 2+9"]⟩,
  ⟨["ougr", "olduyghur"],
    ["10f70+19"]⟩,
  ⟨["palm", "palmyrene"],
    ["10860+1f"]⟩,
  ⟨["pauc", "paucinhau"],
    ["11ac0+38"]⟩,
  ⟨["perm", "oldpermic"],
    ["10350+2a"]⟩,
  ⟨["phag", "phagspa"],
    ["a840+37"]⟩,
  ⟨["phli", "inscriptionalpahlavi"],
    ["10b60+12 5+7"]⟩,
  ⟨["phlp", "psalterpahlavi"],
    ["10b80+11 7+3 c+6"]⟩,
  ⟨["phnx", "phoenician"],
    ["10900+1b 3"]⟩,
  ⟨["plrd", "miao"],
    ["16f00+4a 4+38 7+10"]⟩,
  ⟨["prti", "inscriptionalparthian"],
    ["10b40+15 2+7"]⟩,
  ⟨["rjng", "rejang"],
    ["a930+23 b"]⟩,
  ⟨["rohg", "hanifirohingya"],
    ["10d00+27 8+9"]⟩,
  ⟨["runr", "runic"],
    ["16a0+4a 3+a"]⟩,
  ⟨["samr", "samaritan"],
    ["800+2d 2+e"]⟩,
  ⟨["sarb", "oldsoutharabian"],
    ["10a60+1f"]⟩,
  ⟨["saur", "saurashtra"],
    ["a880+45 8+b"]⟩,
  ⟨["sgnw", "signwriting"],
    ["1d800+28b f+4 1+e"]⟩,
  ⟨["shaw", "shavian"],
    ["10450+2f"]⟩,
  ⟨["shrd", "sharada"],
    ["11180+5f 980+7"]⟩,
  ⟨["sidd", "siddham"],
    ["11580+35 2+25"]⟩,
  ⟨["sidt", "sidetic"],
    ["10940+19"]⟩,
  ⟨["sind", "khudawadi"],
    ["112b0+3a 5+9"]⟩,
  ⟨["sinh", "sinhala"],
    ["d81+2 1+11 3+17 1+8 1 2+6 3 4+5 1 1+7 6+9 2+2 103ec+13"]⟩,
  ⟨["sogd", "sogdian"],
    ["10f30+29"]⟩,
  ⟨["sogo", "oldsogdian"],
    ["10f00+27"]⟩,
  ⟨["sora", "sorasompeng"],
    ["110d0+18 7+9"]⟩,
  ⟨["soyo", "soyombo"],
    ["11a50+52"]⟩,
  ⟨["sund", "sundanese"],
    ["1b80+3f 100+7"]⟩,
  ⟨["sunu", "sunuwar"],
    ["11bc0+21 e+9"]⟩,
  ⟨["sylo", "sylotinagri"],
    ["a800+2c"]⟩,
  ⟨["syrc", "syriac"],
    ["700+d 1+3b 2+2 110+a"]⟩,
  ⟨["tagb", "tagbanwa"],
    ["1760+c 1+2 1+1"]⟩,
  ⟨["takr", "takri"],
    ["11680+39 6+9"]⟩,
  ⟨["tale", "taile"],
    ["1950+1d 2+4"]⟩,
  ⟨["talu", "newtailue"],
    ["1980+2b 4+19 6+a 3+1"]⟩,
  ⟨["taml", "tamil"],
    ["b82+1 1+5 3+2 1+3 3+1 1 1+1 3+1 3+2 3+b 4+4 3+2 1+3 2 6 e+14 113c5+31 d"]⟩,
  ⟨["tang", "tangut"],
    ["16fe0 1f+1aff 200+1e 61+72"]⟩,
  ⟨["tavt", "taiviet"],
    ["aa80+42 18+4"]⟩,
  ⟨["tayo", "taiyo"],
    ["1e6c0+1e 1+15 8+1"]⟩,
  ⟨["telu", "telugu"],
    ["c00+c 1+2 1+16 1+f 2+8 1+2 1+3 7+1 1+2 1+1 2+3 2+9 7+8"]⟩,
  ⟨["tfng", "tifinagh"],
    ["2d30+37 7+1 e"]⟩,
  ⟨["tglg", "tagalog"],
    ["1700+15 9"]⟩,
  ⟨["thaa", "thaana"],
    ["780+31"]⟩,
  ⟨["thai"],
    ["e01+39 5+1b"]⟩,
  ⟨["tibt", "tibetan"],
    ["f00+47 1+23 4+26 1+23 1+e 1+6 4+1"]⟩,
  ⟨["tirh", "tirhuta"],
    ["11480+47 8+9"]⟩,
  ⟨["tnsa", "tangsa"],
    ["16a70+4e 1+9"]⟩,
  ⟨["todr", "todhri"],
    ["105c0+33"]⟩,
  ⟨["tols", "tolongsiki"],
    ["11db0+2b 4+9"]⟩,
  ⟨["toto"],
    ["1e290+1e"]⟩,
  ⟨["tutg", "tulutigalari"],
    ["11380+9 1 2 1+25 1+9 1 2 1+3 1+9 1+1 8+1"]⟩,
  ⟨["ugar", "ugaritic"],
    ["10380+1d 1"]⟩,
  ⟨["vaii", "vai"],
    ["a500+12b"]⟩,
  ⟨["vith", "vithkuqi"],
    ["10570+a 1+e 1+6 1+1 1+a 1+e 1+6 1+1"]⟩,
  ⟨["wara", "warangciti"],
    ["118a0+52 c"]⟩,
  ⟨["wcho", "wancho"],
    ["1e2c0+39 5"]⟩,
  ⟨["xpeo", "oldpersian"],
    ["103a0+23 4+d"]⟩,
  ⟨["xsux", "cuneiform"],
    ["12000+399 66+6e 1+4 b+c3"]⟩,
  ⟨["yezi", "yezidi"],
    ["10e80+29 1+2 2+1"]⟩,
  ⟨["yiii", "yi"],
    ["a000+48c 3+36"]⟩,
  ⟨["zanb", "zanabazarsquare"],
    ["11a00+47"]⟩,
  ⟨["zinh", "inherited", "qaai"],
    ["300+6f 115+1 1c4+a 1a 2e0+3 115b+2d 2+b 1e4+2 1+c 1+6 4 6 3+1 c6+3f 20c+1 c2+20 f39+3",
     "6b+1 cd65+f 10+d 3cf e2 105a bbc4+2d 2+16 220+2 11+7 2+6 1e+3 c2f52+ef"]⟩,
  ⟨["zyyy", "common"],
    ["0+40 1a+5 1a+2e 1+e 1+4 17 1f 1c1+26 5+4 2+13 74 9 6 1 27d 6 e 3 20 9c 204 81+1 4d9",
     "195+3 122 5ef+2 47+1 cb+1 1 4cd d 7+3 1+5 1+2 2 305+b 2+56 1+a 3+a 1+e 11+21 3e+25 1+2",
     "2+5 1+1a 1+10 29+2 4+299 16+a 15+39f 100+273 2+89 200+5d 192+14 1 1+18 f+7 4+3 5b+1 3",
     "5a+1 93+f 20+25 9 30+3f 1f+50 2f 58+a7 19c0+3f 5900+21 66+2 a5+9 f4 a0 18b e+1 51d2+1",
     "d0+9 16+22 1+12 1+3 93 1+1f 1a+5 1a+a a 2d+1 40+6 1+6 a+4 102+2 4+2c 3+8 50+c 33+2c",
     "e4+1a b9a4+3 f5c+fc 3+1b3 6+16 f+10 5f+73 3c+f5 a+26 2+3d 3+10 8+1 7+1d 4+3c d5+13 c+13",
     "c+56 9+18 87+54 1+46 1+1 2 2+1 2+3 1+b 1 1+6 1+40 1+3 2+7 1+6 1+1b 1+3 1+4 1 3+6 1+153",
     "2+123 2+31 1471+43 4c+3c 2c2+2b 4+63 c+e 2+e 1+e 1+24 a+ad 38+19 1+1 d+2b 4+8 7+1 e+5",
     "9a+3d8 3+10 3+c 3+d9 6+b 4 f+b 4+37 8+9 6+27 8+1d 2+b 4+1 e+8 27+157 8+d 2+c 3+a 3+38 1",
     "4+f 2+b 4+9 7+92 1+66 c0406 1e+5f"]⟩,
  ⟨["zzzz", "unknown"],
    ["378+1 6+3 7 1 14 18d 26+1 32+1 3 37+7 1b+3 6+a 10e 3c+1 65+d 3b+1 31+1 f 1c+1 1 b+4 22+4",
     "ed 8+1 2+1 16 7 1+2 4+1 9+1 2+1 4+7 1+3 2 5+1 19+1 3 6+3 2+1 16 7 2 2 2+1 1 5+3 2+1 3+2",
     "1+6 4 1+6 11+9 3 9 3 16 7 2 5+1 a 3 3+1 1+e 4+1 c+6 7 3 8+1 2+1 16 7 2 5+1 9+1 2+1 3+6",
     "3+3 2 5+1 12+9 2 6+2 3 4+2 2 1 2+2 2+2 3+2 c+3 5+2 3 4+1 1+5 1+d 15+4 d 3 17 10+1 9 3",
     "4+6 2 3 2+1 4+1 a+6 16 3 17 a 5+1 9 3 4+6 2+4 3 4+1 a 3+b d 3 33 3 6+3 10+1 1a 3 12+2 18",
     "9 1+1 7+2 1+3 6 1 8+5 a+1 3+b 3a+3 1d+24 2 1 5 18 1 17+1 5 1 7 a+1 4+1f 48 24+3 27 24 f",
     "d+24 c6 1+4 1+1 179 4+1 7 1 4+1 29 4+1 21 4+1 7 1 4+1 f 39 4+1 43+1 20+2 1a+5 56+1 6+1",
     "29d+2 59+6 16+8 18+8 14+b d 3 2+b 5e+1 a+5 a+5 1a+5 59+6 2b+4 46+9 1f c+3 c+3 1+2 2a+1",
     "5+a 2c+3 1a+5 b+2 3e+1 41 1d+1 b+5 a+5 e+1 2e+1 c+13 4d a6+7 3c+2 f+2 3e+4 2b+1 b+7 2b+4",
     "216+1 6+1 26+1 6+1 8 1 1 1 1f+1 35 f e+1 6 13+1 3 9 65 c+1 1b d+2 22+d 21+e 8c+3 29a+15",
     "b+14 714+1 17e+4 2d 1+4 1+1 38+6 2+d 18+8 7 7 7 7 7 7 7 7 7e+21 1a 59+b d6+19 50 56+1",
     "67+4 2b 5e 56+8 30 726d+2 37+8 15c+13 b8+7 dd+13 3c+2 a+5 38+7 46+7 c+5 74+a 1e+2 4e b+3",
     "21 37+8 e+1 a+1 67+17 1c+9 6+1 6+1 6+8 7 7 3c+3 7e+1 a+5 2ba4+b 17+3 31+2103 16e+1 6a+25",
     "7+b 5+4 1a 5 1 2 2 28a+1f 2a+5 33 13 4+3 5 87+1 1 be+2 6+1 6+1 6+1 3+2 7 7+9 5+1 c 1a 13",
     "2 f+1 e+21 7b+4 3+3 2d+2 58 d+2 1+2e 2e+81 1d+2 31+e 1c+3 24+8 1e+4 2b+4 1e 25+3 e+29",
     "9e+1 a+5 24+3 24+3 28+7 34+a c f 7 2 b f 7 2+2 34+b 137+8 16+9 8+17 6 2a 9+44 6+1 1 2c",
     "2+2 1+1 17 48+7 9+2f 13 2+4 21+2 1b+4 1b+25 38+3 14+1 32 2+4 8 3 1d+1 3+3 a+6 9+6 40+1f",
     "27+3 c+8 36+2 1d+1 1b+4 1a+6 4+b 7+4f 49+36 33+c 33+6 2e+7 a+5 26+2 1d+7 2+cf 1f 2a 3+1",
     "2+f 6+7 9+20 2e+7 2a+15 1a+25 1c+13 17+8 4e+3 24+8 44+9 1+1 19+6 a+5 35 12+7 27+8 60",
     "14+a 12 2f+3d 7 1 4 f b+5 3b+4 a+5 4 8+1 2+1 16 7 2 5 a+1 2+1 3+1 1+5 1+4 7+1 7+2 5+a a",
     "1+1 1 26 a 1+1 1 4 a 2+7 2+1c 5c 5+1d 48+7 a+a5 36+1 26+21 45+a a+5 d+12 3a+5 a+5 14+1b",
     "1b+1 f+3 17+b8 3c+63 53+b 8+1 1+1 8 2 1e 2+1 c+8 a+45 8+1 2e+1 b+1a 48+7 53+c 49+6 a+55",
     "8+57 22+d a+5 9 2d e+9 1d+2 20+1 16 e+48 7 2 2c+2 1 2 9+7 a+5 6 2 25 2 6+6 a+5 2c+3 a+f5",
     "19+6 11 29+2 1d+54 1+e 32+c 39b+65 6f 5+a c4+a4b 63+c 456+9 f9b+4 247+1ab8 3a+6c5 239+6",
     "1f a+3 51 a+5 1e+1 6+9 46+9 a 7 15+4 13+1af 3a+c5 5b+4 19+1 19+2b 4b+3 39+6 11+3f 5+a",
     "7+8 1cd6+28 20+60 73+21fc 4 7 2 123+e 1+1c 3+1 1+d 4+7 18c+903 6b+4 d+2 9+6 a+1 8+f5b",
     "fd+2 1b4+5 17+e 11+e 2e+1 17+8 74+3b f6+9 27+1 c2+14 46+79 14+b 14+b 57+8 19+86 55 47",
     "2+1 1+1 2+1 4 c 1 7 41 4+1 8 7 1c 4 5 1+2 7 154+1 124+1 2be+e 5 f+44f 1f+5 6+d4 7 11+1 7",
     "2 5+4 3e+20 1+6f 2d+2 e+1 a+3 2+13f 1f+10 3a+4 1+1cf 2a+d5 2b+3 1+bf 1f 16+7 2+df 7 4 2",
     "f c5+1 10+28 4c+3 a+3 2+310 44+4b 3d+c1 4 1b 2 1+1 1 a 4 1 1+5 1+3 1 1 1 3 2 1+1 1 1 1 1",
     "1 2 1+1 4 7 4 4 1 a 11+4 3 5 11+33 2+10d 2c+3 64+b f+1 f f 25+9 ae+37 1d+c 2c+3 9+6 2+d",
     "6+99 3d9+2 11+2 d+2 da+5 c+3 1+e c+3 38+7 a+5 28+7 1e+1 c+3 2+d 9+26 158+7 e+1 d+2 b+2",
     "39 1+3 10+1 c+3 a+6 93 67+404 a6e0+1f 111e+1 168e+1 1d31+e 26e+9a1 21e+5e1 134b+4",
     "212a+acb86 1+1d 60+7f f0+2fe0f"]⟩]

end Phrasebook.Unicode
