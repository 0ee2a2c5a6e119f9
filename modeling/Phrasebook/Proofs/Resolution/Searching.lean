import Phrasebook.Proofs.Resolution.Occurrence

/-!
The search for whole words by byte positions. The text is cut at a position, the first place of
the needle behind the cut is judged by the bytes that touch it, and the search goes on one
character behind this place, so that occurrences may overlap. Nothing is found if a cut falls
inside a character or behind the end. What carries the search is that it always stands between two
characters: it then finds what a walk over the characters finds behind the one that was read last.
-/

namespace Phrasebook

open Text

namespace Text

def find? (needle : Text) : Text → Option Nat
  | [] => if needle.isEmpty then some 0 else none
  | c :: rest =>
    if needle.isPrefixOf (c :: rest) then some 0
    else (find? needle rest).map fun index => c.utf8Size + index

theorem le_width_of_splitAt? {t : Text} {n : Nat} {parts : Text × Text}
    (h : splitAt? t n = some parts) : n ≤ width t := by
  obtain ⟨rfl, rfl⟩ := eq_append_of_splitAt? h
  rw [width_append]
  omega

/-- The letters are characters of one byte. -/
theorem utf8Size_of_isLetter {c : Char} (h : isLetter c = true) : c.utf8Size = 1 := by
  have hranges : (decide ('A'.val ≤ c.val ∧ c.val ≤ 'Z'.val) ||
      ('a'.val ≤ c.val && c.val ≤ 'z'.val)) = true := h
  simp only [Bool.or_eq_true, Bool.and_eq_true, decide_eq_true_eq] at hranges
  have hascii : c.val ≤ 'z'.val := by
    rcases hranges with ⟨-, hle⟩ | ⟨-, hle⟩
    · exact UInt32.le_trans hle (by decide)
    · exact hle
  exact if_pos (UInt32.le_trans hascii (by decide))

theorem letterAt_zero (t : Text) : letterAt t 0 = isLetter? t.head? := by
  cases t with
  | nil => rfl
  | cons c t => rfl

/-- Behind a front, bytes count from its end. -/
theorem letterAt_append (front back : Text) (n : Nat) :
    letterAt (front ++ back) (width front + n) = letterAt back n := by
  induction front with
  | nil => rw [List.nil_append, width_nil, Nat.zero_add]
  | cons c front ih =>
    have hpos := Char.utf8Size_pos c
    obtain ⟨m, hm⟩ : ∃ m, width (c :: front) + n = m + 1 :=
      ⟨width (c :: front) + n - 1, by rw [width_cons]; omega⟩
    rw [hm, List.cons_append, letterAt]
    rw [width_cons] at hm
    rw [if_neg (by omega), show m + 1 - c.utf8Size = width front + n by omega, ih]

/-- No letter begins within a character. -/
theorem letterAt_within {c : Char} (rest : Text) {n : Nat} (hpos : 0 < n)
    (h : n < c.utf8Size) : letterAt (c :: rest) n = false := by
  obtain ⟨m, rfl⟩ : ∃ m, n = m + 1 := ⟨n - 1, by omega⟩
  rw [letterAt, if_pos h]

/-- The byte before a place is a letter exactly if the character before it is one. -/
theorem letterAt_last (front back : Text) (h : front ≠ []) :
    letterAt (front ++ back) (width front - 1) = isLetter? front.getLast? := by
  obtain ⟨init, c, rfl⟩ := List.eq_nil_or_concat front |>.resolve_left h
  have hpos := Char.utf8Size_pos c
  have hbyte : width (init.concat c) - 1 = width init + (c.utf8Size - 1) := by
    rw [List.concat_eq_append, width_append, width_cons, width_nil]
    omega
  rw [hbyte, List.concat_eq_append, List.append_assoc, letterAt_append, List.getLast?_concat]
  by_cases hsize : c.utf8Size = 1
  · rw [hsize]
    rfl
  · have hletter : isLetter c = false := by
      rw [Bool.eq_false_iff]
      exact fun hletter => hsize (utf8Size_of_isLetter hletter)
    rw [List.singleton_append, letterAt_within back (by omega) (by omega)]
    exact hletter.symm

end Text

/-- Whether a stretch is a whole word can be told from the bytes that touch it, whatever the widths
of the characters. -/
theorem isWholeWord_between (front needle back : Text) :
    isWholeWord (front ++ (needle ++ back)) (width front) (width front + width needle) =
      (!isLetter? front.getLast? && !isLetter? back.head?) := by
  have hbehind : letterAt (front ++ (needle ++ back)) (width front + width needle) =
      isLetter? back.head? := by
    rw [← List.append_assoc, ← width_append, ← Nat.add_zero (width (front ++ needle)),
      letterAt_append, letterAt_zero]
  rw [isWholeWord, hbehind]
  by_cases hfront : front = []
  · subst hfront
    rfl
  · have hwidth : (width front == 0) = false :=
      beq_false_of_ne fun hzero => hfront (width_eq_zero_iff.mp hzero)
    rw [hwidth, Bool.false_or, letterAt_last front _ hfront]

/-- The whole words from byte `start` on, from one place of the needle to the next. There is no
answer if the text is cut where it cannot be cut. -/
def searchFrom? (t needle : Text) (start : Nat) : Option (List Nat) :=
  match h : splitAt? t start with
  | none => none
  | some (_, rest) =>
    have := le_width_of_splitAt? h
    match find? needle rest with
    | none => some []
    | some skipped =>
      let hit := start + skipped
      match splitAt? t hit with
      | none => none
      | some (_, found) =>
        let step := found.head?.elim 1 Char.utf8Size
        (searchFrom? t needle (hit + step)).map fun later =>
          if isWholeWord t hit (hit + width needle) then hit :: later else later
termination_by width t + 1 - start
decreasing_by
  have hstep : 0 < found.head?.elim 1 Char.utf8Size := by
    cases found.head? with
    | none => exact Nat.one_pos
    | some c => exact Char.utf8Size_pos c
  omega

section Search

variable {t needle front rest : Text} {start : Nat}

/-- Where the needle does not come again, the search ends. -/
theorem searchFrom?_of_no_place (hcut : splitAt? t start = some (front, rest))
    (hfind : find? needle rest = none) : searchFrom? t needle start = some [] := by
  rw [searchFrom?]
  split
  · rename_i hnone
    rw [hcut] at hnone
    cases hnone
  · rename_i hsome
    rw [hcut] at hsome
    cases hsome
    simp only [hfind]

/-- Where it does, the search goes on behind the first character of the place. -/
theorem searchFrom?_of_place {skipped : Nat} {before : Text} {c : Char} {found : Text}
    (hcut : splitAt? t start = some (front, rest)) (hfind : find? needle rest = some skipped)
    (hplace : splitAt? t (start + skipped) = some (before, c :: found)) :
    searchFrom? t needle start =
      (searchFrom? t needle (start + skipped + c.utf8Size)).map fun later =>
        if isWholeWord t (start + skipped) (start + skipped + width needle) then
          (start + skipped) :: later
        else later := by
  rw [searchFrom?]
  split
  · rename_i hnone
    rw [hcut] at hnone
    cases hnone
  · rename_i hsome
    rw [hcut] at hsome
    cases hsome
    simp only [hfind, hplace, List.head?_cons, Option.elim_some]

end Search

/-- Up to the first place of a needle, a walk over the characters finds nothing. -/
theorem find?_cases {needle : Text} (hneedle : needle ≠ []) (t : Text) :
    (find? needle t = none ∧ ∀ before offset, occurrencesFrom needle before offset t = []) ∨
    ∃ skipped back, t = skipped ++ (needle ++ back) ∧ find? needle t = some (width skipped) ∧
      ∀ before offset, occurrencesFrom needle before offset t =
        occurrencesFrom needle (skipped.getLast?.or before) (offset + width skipped)
          (needle ++ back) := by
  induction t with
  | nil => exact Or.inl ⟨by simp [find?, hneedle], fun before offset => rfl⟩
  | cons c rest ih =>
    cases hprefix : needle.isPrefixOf (c :: rest) with
    | true =>
      obtain ⟨back, hback⟩ := isPrefixOf_iff_append.mp hprefix
      refine Or.inr ⟨[], back, hback, by simp [find?, hprefix], fun before offset => ?_⟩
      rw [← hback]
      rfl
    | false =>
      have hstep : ∀ before offset, occurrencesFrom needle before offset (c :: rest) =
          occurrencesFrom needle (some c) (offset + c.utf8Size) rest := by
        intro before offset
        simp only [occurrencesFrom, hprefix, Bool.false_and, Bool.false_eq_true, if_false]
      rcases ih with ⟨hnone, hempty⟩ | ⟨skipped, back, rfl, hfind, hskip⟩
      · refine Or.inl ⟨by simp [find?, hprefix, hnone], fun before offset => ?_⟩
        rw [hstep, hempty]
      · refine Or.inr ⟨c :: skipped, back, rfl, by simp [find?, hprefix, hfind], ?_⟩
        intro before offset
        have hlast : (c :: skipped).getLast?.or before = skipped.getLast?.or (some c) := by
          cases h : skipped.getLast? with
          | none => simp [List.getLast?_cons, h]
          | some a => simp [List.getLast?_cons, h]
        rw [hstep, hskip, hlast, width_cons, Nat.add_assoc]

/-- From any place between two characters on, the search finds what the walk finds. -/
theorem searchFrom?_eq {needle : Text} (hneedle : needle ≠ []) (front rest : Text) :
    searchFrom? (front ++ rest) needle (width front) =
      some (occurrencesFrom needle front.getLast? (width front) rest) := by
  induction hlength : rest.length using Nat.strongRecOn generalizing front rest with
  | ind n ih =>
    rcases find?_cases hneedle rest with ⟨hnone, hempty⟩ | ⟨skipped, back, rfl, hfind, hskip⟩
    · rw [searchFrom?_of_no_place (splitAt?_append front rest) hnone, hempty]
    · obtain ⟨c, tail, rfl⟩ := List.exists_cons_of_ne_nil hneedle
      have hplace : splitAt? (front ++ (skipped ++ (c :: tail ++ back)))
          (width front + width skipped) = some (front ++ skipped, c :: (tail ++ back)) := by
        rw [← List.append_assoc, ← width_append, splitAt?_append, List.cons_append]
      -- One character further on, less of the text is left.
      have hlater := ih (tail ++ back).length
        (by simp only [List.length_append, List.length_cons] at hlength ⊢; omega)
        (front ++ skipped ++ [c]) (tail ++ back) rfl
      have htext : front ++ skipped ++ [c] ++ (tail ++ back) =
          front ++ (skipped ++ (c :: tail ++ back)) := by simp
      have hwidth : width (front ++ skipped ++ [c]) =
          width front + width skipped + c.utf8Size := by simp [Nat.add_assoc]
      rw [htext, hwidth, List.getLast?_concat] at hlater
      have hwhole := isWholeWord_between (front ++ skipped) (c :: tail) back
      rw [List.append_assoc, width_append, List.getLast?_append] at hwhole
      have hprefix : (c :: tail).isPrefixOf (c :: (tail ++ back)) = true :=
        isPrefixOf_iff_append.mpr ⟨back, rfl⟩
      have hdrop : (c :: (tail ++ back)).drop (c :: tail).length = back := by simp
      rw [searchFrom?_of_place (splitAt?_append front _) hfind hplace, hlater, Option.map_some,
        hwhole, hskip, List.cons_append, occurrencesFrom, hprefix, hdrop, Bool.true_and]

/-- The search for a needle finds each place once and from left to right where it stands as a whole
word: where no letter comes just before it or just behind it. All cuts on the way are at places
between two characters, or else there would be no answer. -/
theorem whole_words_found {t needle : Text} (hneedle : needle ≠ []) :
    ∃ hits, searchFrom? t needle 0 = some hits ∧ occurrences t needle = hits ∧
      hits.Pairwise (· < ·) ∧
      ∀ index, index ∈ hits ↔ ∃ front back, t = front ++ needle ++ back ∧ width front = index ∧
        (∀ c, front.getLast? = some c → isLetter c = false) ∧
        ∀ c, back.head? = some c → isLetter c = false := by
  have hsearch : searchFrom? t needle 0 = some (occurrences t needle) := by
    rw [occurrences, if_neg (by simpa using hneedle)]
    exact searchFrom?_eq hneedle [] t
  refine ⟨occurrences t needle, hsearch, rfl, occurrences_ascending t needle, fun index => ?_⟩
  have hletter : ∀ c? : Option Char,
      isLetter? c? = false ↔ ∀ c, c? = some c → isLetter c = false := by
    intro c?
    cases c? with
    | none => simp [isLetter?]
    | some c => simp [isLetter?]
  simp only [← hletter, mem_occurrences_iff]
  exact ⟨fun hword => hword.place, fun hplace => ⟨hneedle, hplace⟩⟩

/-- Two occurrences that overlap are found, and one that a letter touches is not. -/
theorem whole_words_found_overlapping :
    searchFrom? "é-é-é猫é-éx".toList "é-é".toList 0 = some [0, 3] := by
  obtain ⟨hits, hsearch, hlist, -⟩ :=
    @whole_words_found "é-é-é猫é-éx".toList "é-é".toList (by decide)
  have hits_eq : occurrences "é-é-é猫é-éx".toList "é-é".toList = [0, 3] := by decide
  rw [hsearch, ← hlist, hits_eq]

end Phrasebook
