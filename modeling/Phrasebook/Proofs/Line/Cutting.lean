import Mathlib.Algebra.Ring.Parity
import Phrasebook.Proofs.Line.Joining

/-!
Where a line is cut, for lines of any origin. The search for the separator passes over a backslash
and the one character behind it; the reading of a side knows longer escapes, with a code in braces,
and keeps what only looks like one. Both agree: a side is read unit by unit, an escape is one
unit, and the separator at which a line is cut is a unit of its own. What carries this is that
the code of an escape is made of digits, so that neither a backslash nor a separator is within it.
-/

namespace Phrasebook.Line

open Text

/-- The digits of a code hold neither a backslash nor a separator. -/
theorem ne_of_charOfCode? {digits : Text} {c : Char} (h : charOfCode? digits = some c) :
    ∀ x ∈ digits, x ≠ '\\' ∧ x ≠ separator := by
  obtain ⟨n, hn, -⟩ := Option.map_eq_some_iff.mp h
  obtain ⟨hread, -⟩ := Option.filter_eq_some_iff.mp hn
  intro x hx
  have hdigit := digitValue?_of_readNumeral? hread x hx
  refine ⟨?_, ?_⟩
  all_goals
    intro heq
    subst heq
    revert hdigit
    decide

theorem spelled?_eq_some_iff {t rest : Text} {c : Char} : spelled? t = some (c, rest) ↔
    ∃ digits, '}' ∉ digits ∧ charOfCode? digits = some c ∧ t = '{' :: (digits ++ '}' :: rest) := by
  constructor
  · intro h
    cases t with
    | nil => cases h
    | cons b body =>
      by_cases hb : b = '{'
      · subst hb
        by_cases hmem : '}' ∈ body
        · obtain ⟨digits, rest', rfl, hdigits⟩ := List.eq_append_cons_of_mem hmem
          rw [spelled?_braced rest' hdigits] at h
          obtain ⟨c', hc, heq⟩ := Option.map_eq_some_iff.mp h
          cases heq
          exact ⟨digits, hdigits, hc, rfl⟩
        · rw [spelled?_unclosed hmem] at h
          cases h
      · rw [spelled?_of_head_ne (by simpa using hb)] at h
        cases h
  · intro hbraced
    obtain ⟨digits, hdigits, hc, rfl⟩ := hbraced
    rw [spelled?_braced rest hdigits, hc, Option.map_some]

/-- What follows a code goes into what is left. -/
theorem spelled?_append_of_some {t rest : Text} {c : Char} (more : Text)
    (h : spelled? t = some (c, rest)) : spelled? (t ++ more) = some (c, rest ++ more) := by
  obtain ⟨digits, hdigits, hc, rfl⟩ := spelled?_eq_some_iff.mp h
  exact spelled?_eq_some_iff.mpr ⟨digits, hdigits, hc, by simp⟩

def closingSlashes (t : Text) : Nat := (t.reverse.takeWhile (· == '\\')).length

theorem closingSlashes_cons (c : Char) (t : Text) : closingSlashes (c :: t) =
    if c = '\\' ∧ closingSlashes t = t.length then closingSlashes t + 1 else closingSlashes t := by
  rw [closingSlashes, List.reverse_cons, List.takeWhile_append]
  by_cases hall : closingSlashes t = t.length
  · have hlength : (t.reverse.takeWhile (· == '\\')).length = t.reverse.length := by
      rw [List.length_reverse]
      exact hall
    rw [if_pos hlength, List.length_append, List.length_reverse, hall]
    by_cases hc : c = '\\'
    · simp [hc]
    · simp [hc]
  · have hlength : ¬ (t.reverse.takeWhile (· == '\\')).length = t.reverse.length := by
      rw [List.length_reverse]
      exact hall
    rw [if_neg hlength, if_neg fun h => hall h.2, closingSlashes]

theorem closingSlashes_le (t : Text) : closingSlashes t ≤ t.length := by
  have hle := (List.takeWhile_sublist (l := t.reverse) (· == '\\')).length_le
  rwa [List.length_reverse] at hle

theorem closingSlashes_cons_of_ne {c : Char} (h : c ≠ '\\') (t : Text) :
    closingSlashes (c :: t) = closingSlashes t := by
  rw [closingSlashes_cons, if_neg fun hc => h hc.1]

/-- A backslash and the character behind it do not change whether the number is odd. -/
theorem odd_closingSlashes_escape (c : Char) (t : Text) :
    Odd (closingSlashes ('\\' :: c :: t)) ↔ Odd (closingSlashes t) := by
  have hle := closingSlashes_le t
  rw [closingSlashes_cons, closingSlashes_cons, List.length_cons]
  by_cases hc : c = '\\' ∧ closingSlashes t = t.length
  · rw [if_pos hc, if_pos ⟨rfl, by omega⟩]
    simp [Nat.odd_add_one]
  · rw [if_neg hc, if_neg (by omega)]

/-- A line is cut at a separator that no backslash escapes. -/
theorem append_of_cut? {line front back : Text} (h : cut? line = some (front, back)) :
    line = front ++ separator :: back ∧ Even (closingSlashes front) := by
  induction line using cut?.induct generalizing front with
  | case1 => cases h
  | case2 => cases h
  | case3 c rest ih =>
    obtain ⟨⟨front', back'⟩, hcut, heq⟩ := Option.map_eq_some_iff.mp h
    cases heq
    obtain ⟨hrest, heven⟩ := ih hcut
    rw [← Nat.not_odd_iff_even, odd_closingSlashes_escape, Nat.not_odd_iff_even]
    exact ⟨by rw [hrest]; rfl, heven⟩
  | case4 rest _ _ =>
    rw [cut?_separator] at h
    cases h
    exact ⟨rfl, by decide⟩
  | case5 c rest hlast hescape hsep ih =>
    have hslash := ne_backslash hlast hescape
    rw [cut?_cons rest hslash hsep] at h
    obtain ⟨⟨front', back'⟩, hcut, heq⟩ := Option.map_eq_some_iff.mp h
    cases heq
    obtain ⟨hrest, heven⟩ := ih hcut
    rw [closingSlashes_cons_of_ne hslash]
    exact ⟨by rw [hrest]; rfl, heven⟩

/-- A separator in front of the cut is escaped, and every separator if there is no cut. -/
theorem odd_closingSlashes_of_before_cut {line front back : Text}
    (hline : line = front ++ separator :: back)
    (hbefore : ∀ key value, cut? line = some (key, value) → front.length < key.length) :
    Odd (closingSlashes front) := by
  induction line using cut?.induct generalizing front with
  | case1 => simp at hline
  | case2 =>
    rcases front with _ | ⟨x, front⟩
    · cases hline
    · simp at hline
  | case3 c rest ih =>
    rcases front with _ | ⟨x, _ | ⟨y, front⟩⟩
    · cases hline
    · cases hline
      decide
    · cases hline
      rw [odd_closingSlashes_escape]
      refine ih rfl fun key value hcut => ?_
      have hlength := hbefore ('\\' :: c :: key) value (by rw [cut?, hcut, Option.map_some])
      simpa using hlength
  | case4 rest _ _ => exact absurd (hbefore [] rest (cut?_separator rest)) (Nat.not_lt_zero _)
  | case5 c rest hlast hescape hsep ih =>
    have hslash := ne_backslash hlast hescape
    rcases front with _ | ⟨x, front⟩
    · cases hline
      exact absurd rfl hsep
    · cases hline
      rw [closingSlashes_cons_of_ne hslash]
      refine ih rfl fun key value hcut => ?_
      have hlength := hbefore (c :: key) value
        (by rw [cut?_cons _ hslash hsep, hcut, Option.map_some])
      simpa using hlength

theorem cut?_eq_none_iff {line : Text} : cut? line = none ↔
    ∀ front back, line = front ++ separator :: back → Odd (closingSlashes front) := by
  constructor
  · intro h front back hline
    refine odd_closingSlashes_of_before_cut hline fun key value hcut => ?_
    rw [h] at hcut
    cases hcut
  · intro h
    cases hcut : cut? line with
    | none => rfl
    | some pair =>
      obtain ⟨hline, heven⟩ := append_of_cut? hcut
      exact absurd (h _ _ hline) (Nat.not_odd_iff_even.mpr heven)

/-- The units of a side that are read one by one: escapes, backslashes with a character that make
no escape, and all other characters alone. -/
def units : Text → List Text
  | [] => []
  | '\\' :: 'u' :: rest =>
    match h : spelled? rest with
    | some (_, rest') =>
      have := length_of_spelled? h
      ('\\' :: 'u' :: rest.take (rest.length - rest'.length)) :: units rest'
    | none => ['\\', 'u'] :: units rest
  | '\\' :: c :: rest => ['\\', c] :: units rest
  | c :: rest => [c] :: units rest
termination_by t => t.length

theorem units_code {digits : Text} {c : Char} (rest : Text) (hdigits : '}' ∉ digits)
    (hc : charOfCode? digits = some c) :
    units ('\\' :: 'u' :: '{' :: (digits ++ '}' :: rest)) =
      ('\\' :: 'u' :: '{' :: (digits ++ ['}'])) :: units rest := by
  have hspelled : spelled? ('{' :: (digits ++ '}' :: rest)) = some (c, rest) :=
    spelled?_eq_some_iff.mpr ⟨digits, hdigits, hc, rfl⟩
  have hfront : ('{' :: (digits ++ '}' :: rest)).take
      (('{' :: (digits ++ '}' :: rest)).length - rest.length) = '{' :: (digits ++ ['}']) := by
    have hsplit : '{' :: (digits ++ '}' :: rest) = ('{' :: (digits ++ ['}'])) ++ rest := by simp
    rw [hsplit, List.length_append, Nat.add_sub_cancel, List.take_left]
  rw [units]
  split
  · rename_i hsome
    rw [hspelled] at hsome
    cases hsome
    rw [hfront]
  · rename_i hnone
    rw [hspelled] at hnone
    cases hnone

theorem units_of_not_spelled? {rest : Text} (h : spelled? rest = none) :
    units ('\\' :: 'u' :: rest) = ['\\', 'u'] :: units rest := by
  rw [units]
  split
  · rename_i hsome
    rw [h] at hsome
    cases hsome
  · rfl

theorem units_escape {c : Char} (rest : Text) (h : c ≠ 'u') :
    units ('\\' :: c :: rest) = ['\\', c] :: units rest := by
  rw [units]
  exact h

/-- A character that does not follow a backslash is a unit, be it a last backslash. -/
theorem units_cons {c : Char} {rest : Text} (h : c = '\\' → rest = []) :
    units (c :: rest) = [c] :: units rest := by
  rw [units.eq_def]
  split
  all_goals simp_all

/-- What stands where neither rule for a backslash applies. -/
theorem eq_nil_of_no_escape {c : Char} {rest : Text}
    (h : ∀ d more, c = '\\' → rest = d :: more → False) (hc : c = '\\') : rest = [] := by
  cases rest with
  | nil => rfl
  | cons d more => exact (h d more hc rfl).elim

/-- The units make up the side. -/
theorem flatten_units (t : Text) : (units t).flatten = t := by
  induction t using units.induct with
  | case1 => rw [units, List.flatten_nil]
  | case2 rest c rest' hspelled _ ih =>
    obtain ⟨digits, hdigits, hc, rfl⟩ := spelled?_eq_some_iff.mp hspelled
    rw [units_code rest' hdigits hc, List.flatten_cons, ih]
    simp
  | case3 rest hspelled ih =>
    rw [units_of_not_spelled? hspelled, List.flatten_cons, ih]
    rfl
  | case4 c rest hc ih =>
    rw [units_escape rest hc, List.flatten_cons, ih]
    rfl
  | case5 c rest _ hescape ih =>
    rw [units_cons (eq_nil_of_no_escape hescape), List.flatten_cons, ih]
    rfl

theorem unescape_escape_append {c : Char} (rest : Text) (h : c ≠ 'u') :
    unescape ('\\' :: c :: rest) = unescape ['\\', c] ++ unescape rest := by
  by_cases hshort : c ∈ ['\\', '=', 'n', 'r', 't', '/']
  · simp only [List.mem_cons, List.not_mem_nil, or_false] at hshort
    rcases hshort with rfl | rfl | rfl | rfl | rfl | rfl
    all_goals simp only [unescape, List.singleton_append]
  · simp only [List.mem_cons, List.not_mem_nil, or_false, not_or] at hshort
    obtain ⟨h1, h2, h3, h4, h5, h6⟩ := hshort
    simp [unescape, *]

theorem unescape_cons_append {c : Char} {rest : Text} (h : c = '\\' → rest = []) :
    unescape (c :: rest) = unescape [c] ++ unescape rest := by
  by_cases hc : c = '\\'
  · rw [h hc, unescape.eq_def [], List.append_nil]
  · rw [unescape_cons rest hc, unescape_cons [] hc, unescape, List.singleton_append]

/-- Each unit is read by itself. -/
theorem unescape_eq_flatMap (t : Text) : unescape t = (units t).flatMap unescape := by
  induction t using units.induct with
  | case1 => rw [units, unescape, List.flatMap_nil]
  | case2 rest c rest' hspelled _ ih =>
    obtain ⟨digits, hdigits, hc, rfl⟩ := spelled?_eq_some_iff.mp hspelled
    have hunit : spelled? ('{' :: (digits ++ ['}'])) = some (c, []) :=
      spelled?_eq_some_iff.mpr ⟨digits, hdigits, hc, rfl⟩
    rw [units_code rest' hdigits hc, List.flatMap_cons, ← ih, unescape_of_spelled? hspelled,
      unescape_of_spelled? hunit, unescape, List.singleton_append]
  | case3 rest hspelled ih =>
    rw [units_of_not_spelled? hspelled, List.flatMap_cons, ← ih,
      unescape_of_not_spelled? hspelled, unescape_of_not_spelled? rfl, unescape]
    rfl
  | case4 c rest hc ih =>
    rw [units_escape rest hc, List.flatMap_cons, ← ih, unescape_escape_append rest hc]
  | case5 c rest _ hescape ih =>
    have hlast := eq_nil_of_no_escape hescape
    rw [units_cons hlast, List.flatMap_cons, ← ih, unescape_cons_append hlast]

/-- A line is cut between two units, at a separator that is a unit of its own. -/
theorem units_of_cut? {line front back : Text} (h : cut? line = some (front, back)) :
    units line = units front ++ [separator] :: units back := by
  induction line using units.induct generalizing front with
  | case1 => cases h
  | case2 rest c rest' hspelled _ ih =>
    obtain ⟨digits, hdigits, hc, rfl⟩ := spelled?_eq_some_iff.mp hspelled
    rw [cut?_code rest' (ne_of_charOfCode? hc)] at h
    obtain ⟨⟨front', back'⟩, hcut, heq⟩ := Option.map_eq_some_iff.mp h
    cases heq
    rw [units_code rest' hdigits hc, units_code front' hdigits hc, ih hcut, List.cons_append]
  | case3 rest hspelled ih =>
    obtain ⟨⟨front', back'⟩, hcut, heq⟩ := Option.map_eq_some_iff.mp h
    cases heq
    -- A code that ended in front of the cut would be one of the line as well.
    have hfront : spelled? front' = none := by
      cases hcode : spelled? front' with
      | none => rfl
      | some found =>
        have hline := spelled?_append_of_some (separator :: back) hcode
        rw [← (append_of_cut? hcut).1, hspelled] at hline
        cases hline
    rw [units_of_not_spelled? hspelled, units_of_not_spelled? hfront, ih hcut, List.cons_append]
  | case4 c rest hc ih =>
    obtain ⟨⟨front', back'⟩, hcut, heq⟩ := Option.map_eq_some_iff.mp h
    cases heq
    rw [units_escape rest hc, units_escape front' hc, ih hcut, List.cons_append]
  | case5 c rest _ hescape ih =>
    have hlast := eq_nil_of_no_escape hescape
    by_cases hslash : c = '\\'
    · rw [hlast hslash, hslash] at h
      cases h
    · by_cases hsep : c = separator
      · subst hsep
        rw [cut?_separator] at h
        cases h
        rw [units_cons hlast, units]
        rfl
      · rw [cut?_cons rest hslash hsep] at h
        obtain ⟨⟨front', back'⟩, hcut, heq⟩ := Option.map_eq_some_iff.mp h
        cases heq
        rw [units_cons hlast, units_cons (fun hc => absurd hc hslash), ih hcut,
          List.cons_append]

/-- A line that is no comment gives no pair exactly if an odd number of backslashes stands in front
of each separator in it. Otherwise it is cut at the first separator for which this number is even,
and the sides are read as the whole line would be: the separator is a unit of the line, and the
units on its left and on its right are those of the two sides, so that no escape is cut. The units
are what is read one by one: they make up the line, and each is read by itself. -/
theorem cut_between_units {line : Text} (hline : ¬ ['/', '/'] <+: line) :
    (units line).flatten = line ∧ (units line).flatMap unescape = unescape line ∧
    (decode? line = none ↔
      ∀ front back, line = front ++ separator :: back → Odd (closingSlashes front)) ∧
    ∀ key value, decode? line = some (key, value) → ∃ front back,
      line = front ++ separator :: back ∧ Even (closingSlashes front) ∧
      (∀ before after, line = before ++ separator :: after → before.length < front.length →
        Odd (closingSlashes before)) ∧
      units line = units front ++ [separator] :: units back ∧
      key = unescape front ∧ value = unescape back ∧
      unescape line = key ++ separator :: value := by
  have hcomment : isComment line = false := by
    rw [isComment, ← Bool.not_eq_true, List.isPrefixOf_iff_prefix]
    exact hline
  rw [decode?, hcomment, if_neg Bool.false_ne_true, Option.map_eq_none_iff]
  refine ⟨flatten_units line, (unescape_eq_flatMap line).symm, cut?_eq_none_iff,
    fun key value hread => ?_⟩
  obtain ⟨⟨front, back⟩, hcut, heq⟩ := Option.map_eq_some_iff.mp hread
  cases heq
  obtain ⟨hsplit, heven⟩ := append_of_cut? hcut
  have hunits := units_of_cut? hcut
  refine ⟨front, back, hsplit, heven, fun before after hbefore hlt => ?_, hunits, rfl, rfl, ?_⟩
  · refine odd_closingSlashes_of_before_cut hbefore fun key value hcut' => ?_
    rw [hcut] at hcut'
    cases hcut'
    exact hlt
  · rw [unescape_eq_flatMap, hunits, List.flatMap_append, List.flatMap_cons,
      ← unescape_eq_flatMap, ← unescape_eq_flatMap, unescape_cons [] (by decide), unescape]
    rfl

def bracedLine : Text := "\\=\\u\x7b41\x7d\\u\x7b4=1\x7d\\\\=x".toList

/-- The line is cut within the braces that make no code. -/
theorem cut_between_units_braced : ¬ ['/', '/'] <+: bracedLine ∧
    decode? bracedLine = some ("=A\\u\x7b4".toList, "1\x7d\\=x".toList) ∧
    unescape bracedLine = "=A\\u\x7b4".toList ++ separator :: "1\x7d\\=x".toList := by
  have hcomment : ¬ ['/', '/'] <+: bracedLine := by decide
  have hread : decode? bracedLine = some ("=A\\u\x7b4".toList, "1\x7d\\=x".toList) := by
    decide +kernel
  obtain ⟨-, -, -, hcut⟩ := cut_between_units hcomment
  obtain ⟨_, _, -, -, -, -, -, -, hjoined⟩ := hcut _ _ hread
  exact ⟨hcomment, hread, hjoined⟩

end Phrasebook.Line
