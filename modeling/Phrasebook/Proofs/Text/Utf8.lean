import Mathlib.Data.List.Basic
import Phrasebook.Text.Utf8

/-!
Texts among bytes. Whatever stands before a text, even the beginning of a character that is never
completed, the bytes of the text are read as the text. And texts are in the order of their bytes:
the first byte of a character tells how many there are, and bytes of equally long characters are
the digits of their codes.
-/

namespace Phrasebook.Utf8

open Text

/-- The first byte of a character is no byte that continues one. -/
theorem exists_encodeChar_lead (c : Char) : ∃ b rest, encodeChar c = b :: rest ∧
    (b.toNat < 0x80 ∨ 0xBF < b.toNat) := by
  have hrange := char_range c
  simp only [encodeChar]
  split
  · exact ⟨_, _, rfl, Or.inl (by rw [toNat_toUInt8_of_lt (by omega)]; omega)⟩
  split
  · exact ⟨_, _, rfl, Or.inr (by rw [toNat_toUInt8_of_lt (by omega)]; omega)⟩
  split
  · exact ⟨_, _, rfl, Or.inr (by rw [toNat_toUInt8_of_lt (by omega)]; omega)⟩
  · exact ⟨_, _, rfl, Or.inr (by rw [toNat_toUInt8_of_lt (by omega)]; omega)⟩

def Pending.Continues (p : Pending) : Prop := 0x80 ≤ p.low ∧ p.high ≤ 0xBF

theorem continues_of_lead {b : Nat} {p : Pending} (h : lead b = .opens p) : p.Continues := by
  unfold lead at h
  unfold Pending.Continues
  repeat' split at h
  all_goals cases h
  all_goals simp

/-- A byte that cannot come next is read as if nothing had been begun, behind a malformed
place. -/
theorem readFrom_some_of_outside {p : Pending} {b : UInt8} (rest : Bytes)
    (h : ¬ (p.low ≤ b.toNat ∧ b.toNat ≤ p.high)) :
    readFrom (some p) (b :: rest) = none :: readFrom none (b :: rest) := by
  simp only [readFrom, if_neg h]
  cases lead b.toNat <;> rfl

theorem readFrom_pending_encode {p : Pending} (hp : p.Continues) (t : Text) :
    readFrom (some p) (encode t) = none :: t.map some := by
  cases t with
  | nil => rfl
  | cons c t =>
    have hread := readFrom_encode (c :: t) []
    obtain ⟨b, rest, hbytes, hb⟩ := exists_encodeChar_lead c
    obtain ⟨hlow, hhigh⟩ := hp
    rw [List.append_nil, encode_cons, hbytes, List.cons_append] at hread
    rw [encode_cons, hbytes, List.cons_append, readFrom_some_of_outside _ (by omega), hread,
      readFrom, List.append_nil]

/-- The bytes of a text are read as the text, whatever stands before them and whatever is due. -/
theorem readFrom_append_encode {p : Option Pending} (hp : ∀ q ∈ p, q.Continues) (bytes : Bytes)
    (t : Text) : readFrom p (bytes ++ encode t) = readFrom p bytes ++ t.map some := by
  induction bytes generalizing p with
  | nil =>
    cases p with
    | none =>
      have hread := readFrom_encode t []
      rw [List.append_nil, readFrom, List.append_nil] at hread
      rw [List.nil_append, hread, readFrom, List.nil_append]
    | some q => exact readFrom_pending_encode (hp q rfl) t
  | cons b bytes ih =>
    have hfresh : readFrom none (b :: (bytes ++ encode t)) =
        readFrom none (b :: bytes) ++ t.map some := by
      simp only [readFrom]
      split
      · rw [ih (by simp)]
        rfl
      · rename_i q hq
        exact ih (by simpa using continues_of_lead hq)
      · rw [ih (by simp)]
        rfl
    cases p with
    | none => exact hfresh
    | some q =>
      by_cases hb : q.low ≤ b.toNat ∧ b.toNat ≤ q.high
      · simp only [List.cons_append, readFrom, if_pos hb]
        split
        · rw [ih (by simp)]
          rfl
        · exact ih (by simp [Pending.Continues])
      · rw [List.cons_append, readFrom_some_of_outside _ hb, readFrom_some_of_outside _ hb, hfresh]
        rfl

theorem decodeLossy_append_encode (bytes : Bytes) (t : Text) :
    decodeLossy (bytes ++ encode t) = decodeLossy bytes ++ t := by
  rw [decodeLossy, readFrom_append_encode (by simp), List.map_append, List.map_map]
  simp [decodeLossy, Function.comp_def]

theorem cons_lt_cons_iff_toNat {x y : UInt8} {s t : Bytes} :
    x :: s < y :: t ↔ x.toNat < y.toNat ∨ x.toNat = y.toNat ∧ s < t := by
  rw [List.cons_lt_cons_iff, UInt8.lt_iff_toNat_lt, ← UInt8.toNat_inj]

/-- Of two characters the one with the smaller code has the smaller bytes, whatever follows. -/
theorem encodeChar_append_lt {a b : Char} (h : a.toNat < b.toNat) (s t : Bytes) :
    encodeChar a ++ s < encodeChar b ++ t := by
  have hb := char_range b
  generalize hm : a.toNat = m at h
  generalize hn : b.toNat = n at h hb
  simp only [encodeChar, hm, hn]
  -- One case for each pair of lengths. Those in which the greater code has fewer bytes are void.
  repeat' split
  all_goals
    simp (disch := omega) only [List.cons_append, List.nil_append, cons_lt_cons_iff_toNat,
      toNat_toUInt8_of_lt]
    omega

theorem encode_lt_of_precedes {s t : Text} (h : precedes s t = true) : encode s < encode t := by
  induction s generalizing t with
  | nil =>
    cases t with
    | nil => simp [precedes] at h
    | cons c t =>
      obtain ⟨b, rest, hbytes, -⟩ := exists_encodeChar_lead c
      simp [hbytes]
  | cons a s ih =>
    cases t with
    | nil => simp [precedes] at h
    | cons b t =>
      simp only [precedes, Bool.or_eq_true, decide_eq_true_eq, Bool.and_eq_true,
        beq_iff_eq] at h
      rcases h with hlt | ⟨rfl, hst⟩
      · exact encodeChar_append_lt hlt _ _
      · exact List.append_left_lt (ih hst)

end Phrasebook.Utf8
