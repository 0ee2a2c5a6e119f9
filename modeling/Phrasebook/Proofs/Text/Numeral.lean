import Phrasebook.Text.Basic

/-!
Numerals are read back. Reading goes over the digits from the left, writing puts the last digit
behind the numeral of the quotient, so the two meet in the value of a numeral with one more
digit at its end.
-/

namespace Phrasebook.Text

theorem digitValue?_digitChar {n : Nat} (h : n < 16) : digitValue? n.digitChar = some n := by
  have hall : ∀ m < 16, digitValue? (Nat.digitChar m) = some m := by decide
  exact hall n h

theorem readDigitsFrom_append (base value : Nat) (s t : Text) :
    readDigitsFrom base value (s ++ t) =
      (readDigitsFrom base value s).bind fun v => readDigitsFrom base v t := by
  induction s generalizing value with
  | nil => rfl
  | cons c s ih =>
    simp only [List.cons_append, readDigitsFrom]
    split
    · rfl
    · split
      · exact ih _
      · rfl

section Base

variable {base : Nat} (hlow : 1 < base) (hhigh : base ≤ 16)

include hlow hhigh

theorem readDigitsFrom_toDigits (n : Nat) :
    readDigitsFrom base 0 (Nat.toDigits base n) = some n := by
  induction n using Nat.strongRecOn with
  | ind n ih =>
    by_cases hn : n < base
    · rw [Nat.toDigits_of_lt_base hn]
      simp only [readDigitsFrom, digitValue?_digitChar (Nat.lt_of_lt_of_le hn hhigh), if_pos hn,
        Nat.zero_mul, Nat.zero_add]
    · have hle : base ≤ n := Nat.le_of_not_lt hn
      have hquotient : n / base < n := Nat.div_lt_self (by omega) hlow
      have hdigit : n % base < base := Nat.mod_lt n (by omega)
      rw [Nat.toDigits_of_base_le hlow hle, readDigitsFrom_append, ih _ hquotient]
      simp only [Option.bind_some, readDigitsFrom,
        digitValue?_digitChar (Nat.lt_of_lt_of_le hdigit hhigh), if_pos hdigit]
      rw [Nat.mul_comm, Nat.div_add_mod]

omit hhigh in
theorem exists_digit_of_mem_toDigits {n : Nat} {c : Char} (h : c ∈ Nat.toDigits base n) :
    ∃ m < base, c = m.digitChar := by
  induction n using Nat.strongRecOn with
  | ind n ih =>
    by_cases hn : n < base
    · rw [Nat.toDigits_of_lt_base hn] at h
      exact ⟨n, hn, List.mem_singleton.mp h⟩
    · rw [Nat.toDigits_of_base_le hlow (Nat.le_of_not_lt hn)] at h
      rcases List.mem_append.mp h with hc | hc
      · exact ih _ (Nat.div_lt_self (by omega) hlow) hc
      · exact ⟨n % base, Nat.mod_lt n (by omega), List.mem_singleton.mp hc⟩

/-- A numeral below the bound is read as its number. -/
theorem readNumeral?_toDigits {bound n : Nat} (hn : n < bound) :
    readNumeral? base bound (Nat.toDigits base n) = some n := by
  have hread := readDigitsFrom_toDigits hlow hhigh n
  cases hdigits : Nat.toDigits base n with
  | nil => exact absurd hdigits Nat.toDigits_ne_nil
  | cons c rest =>
    have hplus : c ≠ '+' := by
      have hmem : c ∈ Nat.toDigits base n := hdigits ▸ List.mem_cons_self
      obtain ⟨m, hm, rfl⟩ := exists_digit_of_mem_toDigits hlow hmem
      have hall : ∀ m < 16, Nat.digitChar m ≠ '+' := by decide
      exact hall m (Nat.lt_of_lt_of_le hm hhigh)
    rw [hdigits] at hread
    unfold readNumeral?
    split
    · rename_i heq
      exact absurd (List.cons.inj heq).1 hplus
    · simp only [List.isEmpty_cons, Bool.false_eq_true, if_false, hread]
      simp [hn]

end Base

theorem digitValue?_of_readDigitsFrom {base value n : Nat} {t : Text}
    (h : readDigitsFrom base value t = some n) : ∀ c ∈ t, (digitValue? c).isSome := by
  induction t generalizing value with
  | nil => simp
  | cons c t ih =>
    simp only [readDigitsFrom] at h
    split at h
    · cases h
    · rename_i d hdigit
      split at h
      · exact List.forall_mem_cons.mpr ⟨Option.isSome_of_eq_some hdigit, ih h⟩
      · cases h

/-- A numeral is made of digits, but for a plus sign. -/
theorem digitValue?_of_readNumeral? {base bound n : Nat} {t : Text}
    (h : readNumeral? base bound t = some n) : ∀ c ∈ t, c = '+' ∨ (digitValue? c).isSome := by
  have hdigits : ∀ digits : Text, (if digits.isEmpty then none
      else (readDigitsFrom base 0 digits).filter (· < bound)) = some n →
        ∀ c ∈ digits, (digitValue? c).isSome := by
    intro digits hread
    split at hread
    · cases hread
    · exact digitValue?_of_readDigitsFrom (Option.filter_eq_some_iff.mp hread).1
  unfold readNumeral? at h
  intro c hc
  split at h
  · rcases List.mem_cons.mp hc with rfl | hc
    · exact Or.inl rfl
    · exact Or.inr (hdigits _ h c hc)
  · exact Or.inr (hdigits _ h c hc)

/-- No digit in base sixteen is one of these. -/
theorem not_mem_hexadecimal {n : Nat} {c : Char}
    (h : ∀ m < 16, Nat.digitChar m ≠ c) : c ∉ hexadecimal n := by
  intro hmem
  obtain ⟨m, hm, rfl⟩ := exists_digit_of_mem_toDigits (by decide) hmem
  exact h m hm rfl

end Phrasebook.Text
