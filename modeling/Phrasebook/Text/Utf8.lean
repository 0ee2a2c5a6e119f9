import Phrasebook.Text.Basic

/-!
The UTF-8 form of texts. Writing never fails. Reading goes byte by byte through a small
machine; each maximal beginning of a character that cannot be completed counts as one
malformed place. Lenient reading puts U+FFFD there, strict reading refuses the whole.
-/

namespace Phrasebook

abbrev Bytes := List UInt8

namespace Utf8

def encodeChar (c : Char) : Bytes :=
  let n := c.toNat
  if n < 0x80 then [n.toUInt8]
  else if n < 0x800 then [(0xC0 + n / 64).toUInt8, (0x80 + n % 64).toUInt8]
  else if n < 0x10000 then
    [(0xE0 + n / 4096).toUInt8, (0x80 + n / 64 % 64).toUInt8, (0x80 + n % 64).toUInt8]
  else
    [(0xF0 + n / 262144).toUInt8, (0x80 + n / 4096 % 64).toUInt8,
      (0x80 + n / 64 % 64).toUInt8, (0x80 + n % 64).toUInt8]

def encode (t : Text) : Bytes := t.flatMap encodeChar

@[simp] theorem encode_nil : encode [] = [] := rfl

@[simp] theorem encode_cons (c : Char) (t : Text) : encode (c :: t) = encodeChar c ++ encode t :=
  rfl

@[simp] theorem encode_append (s t : Text) : encode (s ++ t) = encode s ++ encode t := by
  simp [encode]

/-- A character of which `value` has been read: `missing + 1` more bytes are due, and the next
of them lies between `low` and `high`. -/
structure Pending where
  missing : Nat
  low : Nat
  high : Nat
  value : Nat
deriving DecidableEq, Repr

inductive Lead where
  | whole (c : Char)
  | opens (p : Pending)
  | malformed
deriving DecidableEq, Repr

def lead (b : Nat) : Lead :=
  if b < 0x80 then .whole (Char.ofNat b)
  else if b < 0xC2 then .malformed
  else if b < 0xE0 then .opens ⟨0, 0x80, 0xBF, b - 0xC0⟩
  else if b = 0xE0 then .opens ⟨1, 0xA0, 0xBF, 0⟩
  else if b = 0xED then .opens ⟨1, 0x80, 0x9F, 0xD⟩
  else if b < 0xF0 then .opens ⟨1, 0x80, 0xBF, b - 0xE0⟩
  else if b = 0xF0 then .opens ⟨2, 0x90, 0xBF, 0⟩
  else if b < 0xF4 then .opens ⟨2, 0x80, 0xBF, b - 0xF0⟩
  else if b = 0xF4 then .opens ⟨2, 0x80, 0x8F, 4⟩
  else .malformed

/-- Reads on after the bytes in `pending`; none stands for a malformed place. -/
def readFrom : Option Pending → Bytes → List (Option Char)
  | none, [] => []
  | some _, [] => [none]
  | none, b :: rest =>
    match lead b.toNat with
    | .whole c => some c :: readFrom none rest
    | .opens p => readFrom (some p) rest
    | .malformed => none :: readFrom none rest
  | some p, b :: rest =>
    if p.low ≤ b.toNat ∧ b.toNat ≤ p.high then
      let value := p.value * 64 + (b.toNat - 0x80)
      match p.missing with
      | 0 => some (Char.ofNat value) :: readFrom none rest
      | missing + 1 => readFrom (some ⟨missing, 0x80, 0xBF, value⟩) rest
    else
      match lead b.toNat with
      | .whole c => none :: some c :: readFrom none rest
      | .opens p => none :: readFrom (some p) rest
      | .malformed => none :: none :: readFrom none rest

def replacement : Char := '\uFFFD'

/-- Lenient reading: U+FFFD for each malformed place. -/
def decodeLossy (bytes : Bytes) : Text :=
  (readFrom none bytes).map (·.getD replacement)

/-- Strict reading: nothing if there is a malformed place. -/
def decode? (bytes : Bytes) : Option Text :=
  (readFrom none bytes).mapM id

theorem toNat_toUInt8_of_lt {n : Nat} (h : n < 256) : n.toUInt8.toNat = n := by
  simp [Nat.toUInt8, Nat.mod_eq_of_lt h]

theorem char_range (c : Char) :
    c.toNat < 0xD800 ∨ (0xDFFF < c.toNat ∧ c.toNat < 0x110000) := c.valid

/-- A character is read back from its bytes, whatever follows. -/
theorem readFrom_encodeChar (c : Char) (rest : Bytes) :
    readFrom none (encodeChar c ++ rest) = some c :: readFrom none rest := by
  have hrange := char_range c
  have hback : Char.ofNat c.toNat = c := Char.ofNat_toNat c
  generalize hn : c.toNat = n at hrange hback
  simp only [encodeChar, hn]
  split
  · rw [List.singleton_append, readFrom, toNat_toUInt8_of_lt (by omega)]
    simp only [lead, if_pos ‹n < 0x80›, hback]
  split
  · rw [List.cons_append, List.singleton_append, readFrom, toNat_toUInt8_of_lt (by omega)]
    have hlead : lead (0xC0 + n / 64) = .opens ⟨0, 0x80, 0xBF, n / 64⟩ := by
      simp only [lead]
      rw [if_neg (by omega), if_neg (by omega), if_pos (by omega)]
      simp
    rw [hlead]
    simp only [readFrom]
    rw [toNat_toUInt8_of_lt (by omega), if_pos (by omega)]
    simp only [show n / 64 * 64 + (0x80 + n % 64 - 0x80) = n by omega, hback]
  split
  · rw [List.cons_append, List.cons_append, List.singleton_append, readFrom,
      toNat_toUInt8_of_lt (by omega)]
    have hlead : ∃ low high, lead (0xE0 + n / 4096) = .opens ⟨1, low, high, n / 4096⟩ ∧
        low ≤ 0x80 + n / 64 % 64 ∧ 0x80 + n / 64 % 64 ≤ high := by
      simp only [lead]
      rw [if_neg (by omega), if_neg (by omega), if_neg (by omega)]
      split
      · exact ⟨0xA0, 0xBF, by simp; omega, by omega, by omega⟩
      split
      · exact ⟨0x80, 0x9F, by simp; omega, by omega, by omega⟩
      · rw [if_pos (by omega)]
        exact ⟨0x80, 0xBF, by simp, by omega, by omega⟩
    obtain ⟨low, high, hlead, hlow, hhigh⟩ := hlead
    rw [hlead]
    simp only [readFrom]
    rw [toNat_toUInt8_of_lt (by omega), if_pos ⟨hlow, hhigh⟩]
    rw [toNat_toUInt8_of_lt (by omega), if_pos (by omega)]
    simp only [show (n / 4096 * 64 + (0x80 + n / 64 % 64 - 0x80)) * 64 +
      (0x80 + n % 64 - 0x80) = n by omega, hback]
  · rw [List.cons_append, List.cons_append, List.cons_append, List.singleton_append, readFrom,
      toNat_toUInt8_of_lt (by omega)]
    have hlead : ∃ low high, lead (0xF0 + n / 262144) = .opens ⟨2, low, high, n / 262144⟩ ∧
        low ≤ 0x80 + n / 4096 % 64 ∧ 0x80 + n / 4096 % 64 ≤ high := by
      simp only [lead]
      rw [if_neg (by omega), if_neg (by omega), if_neg (by omega), if_neg (by omega),
        if_neg (by omega), if_neg (by omega)]
      split
      · exact ⟨0x90, 0xBF, by simp; omega, by omega, by omega⟩
      split
      · exact ⟨0x80, 0xBF, by simp, by omega, by omega⟩
      · rw [if_pos (by omega)]
        exact ⟨0x80, 0x8F, by simp; omega, by omega, by omega⟩
    obtain ⟨low, high, hlead, hlow, hhigh⟩ := hlead
    rw [hlead]
    simp only [readFrom]
    rw [toNat_toUInt8_of_lt (by omega), if_pos ⟨hlow, hhigh⟩]
    rw [toNat_toUInt8_of_lt (by omega), if_pos (by omega)]
    rw [toNat_toUInt8_of_lt (by omega), if_pos (by omega)]
    simp only [show ((n / 262144 * 64 + (0x80 + n / 4096 % 64 - 0x80)) * 64 +
      (0x80 + n / 64 % 64 - 0x80)) * 64 + (0x80 + n % 64 - 0x80) = n by omega, hback]

theorem readFrom_encode (t : Text) (rest : Bytes) :
    readFrom none (encode t ++ rest) = t.map some ++ readFrom none rest := by
  induction t with
  | nil => rfl
  | cons c t ih => simp [readFrom_encodeChar, ih]

@[simp] theorem decodeLossy_encode (t : Text) : decodeLossy (encode t) = t := by
  have h := readFrom_encode t []
  simp only [List.append_nil] at h
  rw [decodeLossy, h]
  simp [readFrom, Function.comp_def]

end Utf8

end Phrasebook
