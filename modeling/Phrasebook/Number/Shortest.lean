import Phrasebook.Number.Binary64
import Phrasebook.Text.Basic

/-!
The shortest decimal text of a magnitude: of the decimals that round to it those with the
fewest digits, and of these the nearest one. Numbers from `0.00001` to below `10 ^ 16` are
written positionally with at least one digit behind the point, others with an exponent.
-/

namespace Phrasebook.Binary64

structure Decimal where
  digits : Nat
  exponent : Int
deriving DecidableEq, Repr

def scaledTen (n d : Nat) (k : Int) : Nat × Nat :=
  if 0 ≤ k then (n * Nat.pow 10 k.toNat, d) else (n, d * Nat.pow 10 (-k).toNat)

/-- The exponent of the first digit of a quotient; `tries` bounds the search for quotients
below one. -/
def firstExponent (n d : Nat) : Nat → Int
  | 0 => 0
  | tries + 1 =>
    if d ≤ n then (Nat.toDigits 10 (n / d)).length - 1
    else firstExponent (n * 10) d tries - 1

/-- Whether the decimal lies between the midpoints to the neighbours. A midpoint itself rounds
to the magnitude if the mantissa is even. -/
def roundsTo (x : Binary64) (dec : Decimal) : Bool :=
  let below := if x.mantissa = hiddenBit ∧ leastExponent < x.exponent then 1 else 2
  let (lowN, lowD) := scaled (4 * x.mantissa - below) 1 (x.exponent - 2)
  let (highN, highD) := scaled (4 * x.mantissa + 2) 1 (x.exponent - 2)
  let (n, d) := scaledTen dec.digits 1 dec.exponent
  if x.mantissa % 2 = 0 then lowN * d ≤ n * lowD && n * highD ≤ highN * d
  else lowN * d < n * lowD && n * highD < highN * d

def candidates (x : Binary64) (exponent : Int) : List Decimal :=
  let (n, d) := scaledTen x.quotient.1 x.quotient.2 (-exponent)
  let near := roundQuotient n d
  let other := if near = n / d then near + 1 else near - 1
  [⟨near, exponent⟩, ⟨other, exponent⟩]

def shortestFrom (x : Binary64) (exponent : Int) : Nat → Decimal
  | 0 => ⟨0, 0⟩
  | count + 1 =>
    match (x.candidates exponent).find? x.roundsTo with
    | some dec => dec
    | none => x.shortestFrom (exponent - 1) count

def Decimal.trim (dec : Decimal) : Nat → Decimal
  | 0 => dec
  | count + 1 =>
    if dec.digits ≠ 0 ∧ dec.digits % 10 = 0 then
      trim ⟨dec.digits / 10, dec.exponent + 1⟩ count
    else dec

/-- The shortest decimal; seventeen digits are always enough. -/
def shortest (x : Binary64) : Decimal :=
  let first := firstExponent x.quotient.1 x.quotient.2 400
  (x.shortestFrom first 18).trim 20

def zeros (n : Nat) : Text := List.replicate n '0'

def Decimal.toText (dec : Decimal) : Text :=
  let digits := Nat.toDigits 10 dec.digits
  let first := dec.exponent + (digits.length : Int) - 1
  if -5 ≤ first ∧ first ≤ 15 then
    if 0 ≤ dec.exponent then digits ++ zeros dec.exponent.toNat ++ ['.', '0']
    else if 0 ≤ first then
      digits.take (first.toNat + 1) ++ '.' :: digits.drop (first.toNat + 1)
    else ['0', '.'] ++ zeros (-first - 1).toNat ++ digits
  else
    let fraction := if digits.length = 1 then [] else '.' :: digits.drop 1
    let sign := if first < 0 then '-' else '+'
    digits.take 1 ++ fraction ++ 'e' :: sign :: Nat.toDigits 10 first.natAbs

def toText (x : Binary64) : Text :=
  if x.isZero then ['0', '.', '0'] else x.shortest.toText

end Phrasebook.Binary64
