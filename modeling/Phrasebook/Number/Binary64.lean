/-!
Magnitudes of binary floating-point numbers of double precision. Each operation rounds the
exact result to the nearest such magnitude, of two equally near ones to that with the even
mantissa.
-/

namespace Phrasebook

/-- The value `mantissa · 2 ^ exponent`. In normal form the mantissa is below `2 ^ 53`, and at
least `2 ^ 52` unless the exponent is the least one, `-1074`. -/
structure Binary64 where
  mantissa : Nat
  exponent : Int
deriving DecidableEq, Repr

namespace Binary64

def leastExponent : Int := -1074

def greatestExponent : Int := 971

def hiddenBit : Nat := 1 <<< 52

def zero : Binary64 := ⟨0, leastExponent⟩

def isZero (x : Binary64) : Bool := x.mantissa == 0

/-- The greatest integer not above `n / d`, or the one after it if that is nearer; of two
equally near ones the even one. -/
def roundQuotient (n d : Nat) : Nat :=
  let q := n / d
  let twice := 2 * (n % d)
  if twice < d then q
  else if d < twice then q + 1
  else if q % 2 = 0 then q else q + 1

def scaled (n d : Nat) (k : Int) : Nat × Nat :=
  if 0 ≤ k then (n <<< k.toNat, d) else (n, d <<< (-k).toNat)

/-- The greatest `k` with `2 ^ k ≤ n / d`, for positive `n` and `d`. -/
def floorLog (n d : Nat) : Int :=
  let k := (Nat.log2 n : Int) - Nat.log2 d
  let (a, b) := scaled n d (-k)
  if b ≤ a then k else k - 1

def ofQuotient? (n d : Nat) : Option Binary64 :=
  if n = 0 then some zero
  else
    let e := max leastExponent (floorLog n d - 52)
    let (a, b) := scaled n d (-e)
    let m := roundQuotient a b
    let x : Binary64 := if m = 2 * hiddenBit then ⟨hiddenBit, e + 1⟩ else ⟨m, e⟩
    if greatestExponent < x.exponent then none else some x

def ofNat? (n : Nat) : Option Binary64 := ofQuotient? n 1

def quotient (x : Binary64) : Nat × Nat := scaled x.mantissa 1 x.exponent

def mul? (x y : Binary64) : Option Binary64 :=
  ofQuotient? (x.quotient.1 * y.quotient.1) (x.quotient.2 * y.quotient.2)

def div? (x y : Binary64) : Option Binary64 :=
  ofQuotient? (x.quotient.1 * y.quotient.2) (x.quotient.2 * y.quotient.1)

def powerOfTen? (k : Nat) : Option Binary64 := ofNat? (Nat.pow 10 k)

/-- The greatest power of ten that is taken in one step. -/
def greatestPower : Nat := 308

def shrink? (x : Binary64) (k : Nat) : Option Binary64 :=
  if x.isZero then some x
  else if k ≤ greatestPower then do x.div? (← powerOfTen? k)
  else do (← x.div? (← powerOfTen? greatestPower)).shrink? (k - greatestPower)
termination_by k
decreasing_by simp only [greatestPower] at *; omega

def grow? (x : Binary64) (k : Nat) : Option Binary64 :=
  if k ≤ greatestPower then do x.mul? (← powerOfTen? k)
  else if x.isZero then some x
  else none

/-- The magnitude of `significand · 10 ^ exponent`. The significand is rounded first and the
product again. -/
def ofDecimal? (significand : Nat) (exponent : Int) : Option Binary64 := do
  let x ← ofNat? significand
  if 0 ≤ exponent then x.grow? exponent.toNat else x.shrink? (-exponent).toNat

end Binary64

end Phrasebook
