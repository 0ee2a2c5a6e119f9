/-!
Texts are lists of characters. Positions in a text are counted in the bytes of its UTF-8
form, so the width of a text is the sum of the widths of its characters, and a position
that falls inside a character is not a place where the text can be cut.

White space is what Unicode takes for it. Unsigned numerals are read with an optional plus sign and
at least one digit, and must stay below a bound; they are written without sign and without leading
zeros.
-/

namespace Phrasebook

abbrev Text := List Char

namespace Text

/-- Number of bytes of the UTF-8 form. -/
def width : Text → Nat
  | [] => 0
  | c :: rest => c.utf8Size + width rest

@[simp] theorem width_nil : width [] = 0 := rfl

@[simp] theorem width_cons (c : Char) (t : Text) : width (c :: t) = c.utf8Size + width t := rfl

@[simp] theorem width_append (s t : Text) : width (s ++ t) = width s + width t := by
  induction s with
  | nil => simp
  | cons c s ih => simp [ih, Nat.add_assoc]

theorem width_eq_zero_iff {t : Text} : width t = 0 ↔ t = [] := by
  cases t with
  | nil => simp
  | cons c t => simp [Nat.ne_of_gt (Char.utf8Size_pos c)]

/-- Cuts a text after the given number of bytes; none where that falls inside a character
or behind the end. -/
def splitAt? : Text → Nat → Option (Text × Text)
  | t, 0 => some ([], t)
  | [], _ + 1 => none
  | c :: rest, n + 1 =>
    if n + 1 < c.utf8Size then none
    else (splitAt? rest (n + 1 - c.utf8Size)).map fun (front, back) => (c :: front, back)

theorem splitAt?_append (front back : Text) :
    splitAt? (front ++ back) (width front) = some (front, back) := by
  induction front with
  | nil => cases back <;> rfl
  | cons c front ih =>
    have hpos := Char.utf8Size_pos c
    obtain ⟨n, hn⟩ : ∃ n, width (c :: front) = n + 1 :=
      ⟨width (c :: front) - 1, by simp only [width_cons]; omega⟩
    rw [hn, List.cons_append, splitAt?]
    simp only [width_cons] at hn
    rw [if_neg (by omega), show n + 1 - c.utf8Size = width front by omega, ih]
    rfl

theorem eq_append_of_splitAt? {t front back : Text} {n : Nat}
    (h : splitAt? t n = some (front, back)) : t = front ++ back ∧ width front = n := by
  induction t generalizing n front back with
  | nil => cases n <;> simp [splitAt?] at h; simp [h]
  | cons c t ih =>
    cases n with
    | zero =>
      simp only [splitAt?, Option.some.injEq, Prod.mk.injEq] at h
      simp [← h.1, ← h.2]
    | succ n =>
      simp only [splitAt?] at h
      split at h
      · simp at h
      · rename_i hle
        obtain ⟨⟨front', back'⟩, hrest, heq⟩ := Option.map_eq_some_iff.mp h
        obtain ⟨rfl, hwidth⟩ := ih hrest
        simp only [Prod.mk.injEq] at heq
        obtain ⟨rfl, rfl⟩ := heq
        simp only [List.cons_append, width_cons, true_and]
        omega

/-- Whether one text comes before another by code points, a beginning before what it begins.
The bytes of the UTF-8 forms give the same order. -/
def precedes : Text → Text → Bool
  | _, [] => false
  | [], _ :: _ => true
  | a :: s, b :: t => a.toNat < b.toNat || (a == b && precedes s t)

theorem precedes_irrefl (s : Text) : precedes s s = false := by
  induction s with
  | nil => rfl
  | cons a s ih => simp [precedes, ih]

theorem precedes_trans {s t u : Text} (hst : precedes s t = true) (htu : precedes t u = true) :
    precedes s u = true := by
  induction s generalizing t u with
  | nil => cases u <;> cases t <;> simp_all [precedes]
  | cons a s ih =>
    cases t with
    | nil => simp [precedes] at hst
    | cons b t =>
      cases u with
      | nil => simp [precedes] at htu
      | cons c u =>
        simp only [precedes, Bool.or_eq_true, decide_eq_true_eq, Bool.and_eq_true,
          beq_iff_eq] at hst htu ⊢
        rcases hst with hst | ⟨rfl, hst⟩ <;> rcases htu with htu | ⟨rfl, htu⟩
        · exact Or.inl (Nat.lt_trans hst htu)
        · exact Or.inl hst
        · exact Or.inl htu
        · exact Or.inr ⟨rfl, ih hst htu⟩

theorem eq_of_not_precedes {s t : Text} (hst : precedes s t = false)
    (hts : precedes t s = false) : s = t := by
  induction s generalizing t with
  | nil => cases t <;> simp_all [precedes]
  | cons a s ih =>
    cases t with
    | nil => simp [precedes] at hts
    | cons b t =>
      simp only [precedes, Bool.or_eq_false_iff, decide_eq_false_iff_not, Nat.not_lt] at hst hts
      have hab : a = b := Char.toNat_inj.mp (Nat.le_antisymm hts.1 hst.1)
      subst hab
      simp only [BEq.rfl, Bool.true_and] at hst hts
      rw [ih hst.2 hts.2]

/-- Only the 52 ASCII letters count as letters of a word. -/
def isLetter (c : Char) : Bool := c.isAlpha

/-- Whether an ASCII letter begins at this byte. -/
def letterAt : Text → Nat → Bool
  | [], _ => false
  | c :: _, 0 => isLetter c
  | c :: rest, n + 1 => if n + 1 < c.utf8Size then false else letterAt rest (n + 1 - c.utf8Size)

/-- Lower case for the ASCII letters only; every other character stays. -/
def toLowerAscii (t : Text) : Text := t.map Char.toLower

def holds (needle : Text) : Text → Bool
  | [] => needle.isEmpty
  | c :: rest => needle.isPrefixOf (c :: rest) || holds needle rest

theorem holds_iff {needle t : Text} :
    holds needle t = true ↔ ∃ front back, t = front ++ needle ++ back := by
  induction t with
  | nil => simp [holds]
  | cons c t ih =>
    simp only [holds, Bool.or_eq_true, List.isPrefixOf_iff_prefix, ih]
    constructor
    · rintro (⟨back, hback⟩ | ⟨front, back, rfl⟩)
      · exact ⟨[], back, by simpa using hback.symm⟩
      · exact ⟨c :: front, back, by simp⟩
    · rintro ⟨front, back, h⟩
      cases front with
      | nil => exact Or.inl ⟨back, by simpa using h.symm⟩
      | cons d front =>
        simp only [List.cons_append, List.cons.injEq] at h
        exact Or.inr ⟨front, back, h.2⟩

/-! White space -/

/-- The characters with the Unicode property White_Space. -/
def isBlank (c : Char) : Bool :=
  let n := c.toNat
  (9 ≤ n && n ≤ 13) || n == 0x20 || n == 0x85 || n == 0xA0 || n == 0x1680 ||
    (0x2000 ≤ n && n ≤ 0x200A) || n == 0x2028 || n == 0x2029 || n == 0x202F ||
    n == 0x205F || n == 0x3000

def trimStart (t : Text) : Text := t.dropWhile isBlank

def trimEnd (t : Text) : Text := (t.reverse.dropWhile isBlank).reverse

def trim (t : Text) : Text := trimEnd (trimStart t)

/-- The byte order mark, which is not white space. -/
def byteOrderMark : Char := '\uFEFF'

/-! Numerals -/

def limit32 : Nat := 0x100000000

def limit64 : Nat := 0x10000000000000000

def digitValue? (c : Char) : Option Nat :=
  if '0' ≤ c ∧ c ≤ '9' then some (c.toNat - '0'.toNat)
  else if 'a' ≤ c ∧ c ≤ 'f' then some (c.toNat - 'a'.toNat + 10)
  else if 'A' ≤ c ∧ c ≤ 'F' then some (c.toNat - 'A'.toNat + 10)
  else none

def readDigitsFrom (base value : Nat) : Text → Option Nat
  | [] => some value
  | c :: rest =>
    match digitValue? c with
    | none => none
    | some d => if d < base then readDigitsFrom base (value * base + d) rest else none

def readNumeral? (base bound : Nat) (t : Text) : Option Nat :=
  let digits := match t with
    | '+' :: rest => rest
    | t => t
  if digits.isEmpty then none
  else (readDigitsFrom base 0 digits).filter (· < bound)

def decimal (n : Nat) : Text := Nat.toDigits 10 n

def hexadecimal (n : Nat) : Text := Nat.toDigits 16 n

end Text

end Phrasebook
