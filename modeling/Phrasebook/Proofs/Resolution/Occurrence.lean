import Mathlib.Data.List.Nodup
import Phrasebook.Resolution.Candidate

/-!
Whole words told as decompositions of the text: the needle stands between two flanks, and no
letter of a flank touches it. The search finds the places of all such decompositions, each once
and from left to right. Shields and candidates are what stands at these places.
-/

namespace Phrasebook

open Text

theorem isPrefixOf_iff_append {needle t : Text} :
    needle.isPrefixOf t = true ↔ ∃ back, t = needle ++ back := by
  rw [List.isPrefixOf_iff_prefix]
  constructor
  · intro hprefix
    obtain ⟨back, hback⟩ := hprefix
    exact ⟨back, hback.symm⟩
  · intro happend
    obtain ⟨back, hback⟩ := happend
    exact ⟨back, hback.symm⟩

theorem width_pos {t : Text} (h : t ≠ []) : 0 < width t :=
  Nat.pos_of_ne_zero fun hzero => h (width_eq_zero_iff.mp hzero)

/-- What is asked of any member does not depend on order and repetition. -/
theorem any_eq_of_mem_iff {α : Type} {as bs : List α} (h : ∀ a, a ∈ as ↔ a ∈ bs)
    (p : α → Bool) : as.any p = bs.any p := by
  rw [Bool.eq_iff_iff, List.any_eq_true, List.any_eq_true]
  simp only [h]

/-- The needle stands as a whole word at a byte of the text: it is not empty, and no letter comes
just before it or just behind it. -/
structure WholeWordAt (t needle : Text) (index : Nat) : Prop where
  needle_ne : needle ≠ []
  place : ∃ front back, t = front ++ needle ++ back ∧ width front = index ∧
    isLetter? front.getLast? = false ∧ isLetter? back.head? = false

/-- The test of the search: the needle stands at the front, and no letter touches it. -/
theorem front_test_iff {needle t : Text} {before : Option Char} :
    (needle.isPrefixOf t && !isLetter? before && !isLetter? (t.drop needle.length).head?) = true ↔
      ∃ back, t = needle ++ back ∧ isLetter? before = false ∧ isLetter? back.head? = false := by
  simp only [Bool.and_eq_true, Bool.not_eq_true', isPrefixOf_iff_append]
  constructor
  · intro hfound
    obtain ⟨⟨⟨back, rfl⟩, hbefore⟩, hafter⟩ := hfound
    rw [List.drop_left] at hafter
    exact ⟨back, rfl, hbefore, hafter⟩
  · intro hfound
    obtain ⟨back, rfl, hbefore, hafter⟩ := hfound
    rw [List.drop_left]
    exact ⟨⟨⟨back, rfl⟩, hbefore⟩, hafter⟩

theorem mem_occurrencesFrom_cons {needle rest : Text} {before : Option Char} {c : Char}
    {offset index : Nat} :
    index ∈ occurrencesFrom needle before offset (c :: rest) ↔
      (index = offset ∧ ∃ back, c :: rest = needle ++ back ∧ isLetter? before = false ∧
        isLetter? back.head? = false) ∨
      index ∈ occurrencesFrom needle (some c) (offset + c.utf8Size) rest := by
  rw [← front_test_iff]
  simp only [occurrencesFrom]
  split
  · rename_i hfound
    simp only [hfound, List.mem_cons, and_true]
  · rename_i hfound
    simp only [hfound, Bool.false_eq_true, and_false, false_or]

/-- Occurrences in what is left of a text: the character before the needle is the last one of
the flank or, if the flank is empty, the one that was read before. -/
theorem mem_occurrencesFrom_iff {needle t : Text} {before : Option Char} {offset index : Nat}
    (hneedle : needle ≠ []) :
    index ∈ occurrencesFrom needle before offset t ↔
      ∃ front back, t = front ++ needle ++ back ∧ offset + width front = index ∧
        isLetter? (front.getLast?.or before) = false ∧ isLetter? back.head? = false := by
  induction t generalizing before offset with
  | nil =>
    simp only [occurrencesFrom, List.not_mem_nil, false_iff]
    intro hplace
    obtain ⟨front, back, hnil, -⟩ := hplace
    simp [hneedle] at hnil
  | cons c rest ih =>
    have hlast : ∀ front : Text,
        ((c :: front).getLast?).or before = front.getLast?.or (some c) := by
      intro front
      cases h : front.getLast? with
      | none => simp [List.getLast?_cons, h]
      | some a => simp [List.getLast?_cons, h]
    rw [mem_occurrencesFrom_cons, ih]
    constructor
    · intro hplace
      rcases hplace with ⟨rfl, back, hback, hbefore, hafter⟩ |
        ⟨front, back, hrest, hindex, hbefore, hafter⟩
      · exact ⟨[], back, hback, rfl, by simpa using hbefore, hafter⟩
      · refine ⟨c :: front, back, by simp [hrest], by rw [width_cons]; omega, ?_, hafter⟩
        rw [hlast]
        exact hbefore
    · intro hplace
      obtain ⟨front, back, htext, hindex, hbefore, hafter⟩ := hplace
      cases front with
      | nil =>
        exact Or.inl ⟨by simpa using hindex.symm, back, htext, by simpa using hbefore, hafter⟩
      | cons a front =>
        obtain ⟨rfl, hrest⟩ := List.cons.inj htext
        rw [hlast] at hbefore
        exact Or.inr ⟨front, back, hrest, by rw [width_cons] at hindex; omega, hbefore, hafter⟩

theorem mem_occurrences_iff {t needle : Text} {index : Nat} :
    index ∈ occurrences t needle ↔ WholeWordAt t needle index := by
  unfold occurrences
  split
  · rename_i hempty
    simp only [List.not_mem_nil, false_iff]
    intro hword
    exact hword.needle_ne (by simpa using hempty)
  · rename_i hneedle
    have hne : needle ≠ [] := by simpa using hneedle
    rw [mem_occurrencesFrom_iff hne]
    simp only [Nat.zero_add, Option.or_none]
    exact ⟨fun hplace => ⟨hne, hplace⟩, fun hword => hword.place⟩

theorem occurrencesFrom_ascending (needle : Text) (before : Option Char) (offset : Nat)
    (t : Text) : (occurrencesFrom needle before offset t).Pairwise (· < ·) ∧
      ∀ index ∈ occurrencesFrom needle before offset t, offset ≤ index := by
  induction t generalizing before offset with
  | nil => simp [occurrencesFrom]
  | cons c rest ih =>
    obtain ⟨hpairwise, hle⟩ := ih (some c) (offset + c.utf8Size)
    have hpos := Char.utf8Size_pos c
    simp only [occurrencesFrom]
    split
    · refine ⟨List.pairwise_cons.mpr ⟨fun index hindex => ?_, hpairwise⟩, fun index hindex => ?_⟩
      · have hlater := hle index hindex
        omega
      · rcases List.mem_cons.mp hindex with rfl | hindex
        · exact Nat.le_refl _
        · have hlater := hle index hindex
          omega
    · refine ⟨hpairwise, fun index hindex => ?_⟩
      have hlater := hle index hindex
      omega

theorem occurrences_ascending (t needle : Text) : (occurrences t needle).Pairwise (· < ·) := by
  unfold occurrences
  split
  · exact List.Pairwise.nil
  · exact (occurrencesFrom_ascending needle none 0 t).1

/-- A text that is not empty is a whole word of itself. -/
theorem wholeWordAt_self {t : Text} (h : t ≠ []) : WholeWordAt t t 0 :=
  ⟨h, [], [], by simp, rfl, rfl, rfl⟩

theorem mem_shields_iff {ignores : List Text} {t : Text} {s : Shield} :
    s ∈ shields ignores t ↔ ∃ literal ∈ ignores, ∃ index, WholeWordAt t literal index ∧
      s = ⟨literal, index, width literal⟩ := by
  simp only [shields, List.mem_flatMap, List.mem_map, mem_occurrences_iff]
  constructor
  · intro hmem
    obtain ⟨literal, hliteral, index, hword, rfl⟩ := hmem
    exact ⟨literal, hliteral, index, hword, rfl⟩
  · intro hmem
    obtain ⟨literal, hliteral, index, hword, rfl⟩ := hmem
    exact ⟨literal, hliteral, index, hword, rfl⟩

theorem mem_candidates_iff {words : List Word} {cover : List Shield} {t : Text} {c : Candidate} :
    c ∈ candidates words cover t ↔ ∃ w ∈ words, ∃ index, WholeWordAt t w.key index ∧
      cover.any (·.covers index) = false ∧ c = Candidate.ofWord w t index := by
  simp only [candidates, List.mem_flatMap, List.mem_map, List.mem_filter, mem_occurrences_iff,
    Bool.not_eq_true']
  constructor
  · intro hmem
    obtain ⟨w, hw, index, ⟨hword, hopen⟩, rfl⟩ := hmem
    exact ⟨w, hw, index, hword, hopen, rfl⟩
  · intro hmem
    obtain ⟨w, hw, index, hword, hopen, rfl⟩ := hmem
    exact ⟨w, hw, index, ⟨hword, hopen⟩, rfl⟩

/-- Words with distinct keys give no candidate twice. -/
theorem nodup_candidates {words : List Word} (h : (words.map Word.key).Nodup)
    (cover : List Shield) (t : Text) : (candidates words cover t).Nodup := by
  unfold candidates
  refine List.nodup_flatMap.mpr ⟨fun w _ => ?_, ?_⟩
  · have hdistinct : ((occurrences t w.key).filter fun index =>
        !cover.any (·.covers index)).Nodup :=
      ((occurrences_ascending t w.key).imp fun hlt => Nat.ne_of_lt hlt).filter _
    refine hdistinct.map fun i j hij => ?_
    exact congrArg Candidate.index hij
  · refine (List.pairwise_map.mp h).imp fun {v w} hne => ?_
    intro c hv hw
    obtain ⟨i, -, rfl⟩ := List.mem_map.mp hv
    obtain ⟨j, -, hkey⟩ := List.mem_map.mp hw
    exact hne (congrArg Candidate.key hkey).symm

end Phrasebook
