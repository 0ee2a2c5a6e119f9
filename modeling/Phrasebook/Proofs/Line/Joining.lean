import Phrasebook.Proofs.Line.RoundTrip

/-!
What becomes of a line that is written behind unfinished text. If that text has a separator, all
of the line goes into its value; if not, the key of the line goes on with what the text began.
Either way there is a key that is not read back.
-/

namespace Phrasebook.Line

open Text

/-- A character that has no part in an escape and does not separate. -/
def Inert (x : Char) : Prop := x ∉ ['\\', separator, 'n', 'r', 't', '/', 'u', '{', '}']

theorem Inert.ne {x c : Char} (h : Inert x)
    (hc : c ∈ ['\\', separator, 'n', 'r', 't', '/', 'u', '{', '}']) : x ≠ c := by
  intro heq
  exact h (heq ▸ hc)

theorem cut?_separator (rest : Text) : cut? (separator :: rest) = some ([], rest) := rfl

theorem spelled?_of_head_ne {s : Text} (h : s.head? ≠ some '{') : spelled? s = none := by
  unfold spelled?
  split
  · exact absurd rfl h
  · rfl

theorem spelled?_unclosed {body : Text} (h : '}' ∉ body) : spelled? ('{' :: body) = none := by
  have hbody : body.dropWhile (· != '}') = [] := by
    rw [List.dropWhile_eq_nil_iff]
    exact fun x hx => bne_iff_ne.mpr (ne_of_mem_of_not_mem hx h)
  simp only [spelled?, hbody]

/-- Where no rule for a backslash applies, there is none. -/
theorem ne_backslash {c : Char} {s : Text} (hlast : c = '\\' → s = [] → False)
    (hescape : ∀ d rest, c = '\\' → s = d :: rest → False) : c ≠ '\\' := by
  intro heq
  cases s with
  | nil => exact hlast heq rfl
  | cons d s => exact hescape d s heq rfl

/-- What follows a cut goes into the value. -/
theorem cut?_append_of_some {s key value : Text} (rest : Text) (h : cut? s = some (key, value)) :
    cut? (s ++ rest) = some (key, value ++ rest) := by
  induction s using cut?.induct generalizing key with
  | case1 => cases h
  | case2 => cases h
  | case3 c s ih =>
    obtain ⟨⟨key', value'⟩, hs, heq⟩ := Option.map_eq_some_iff.mp h
    cases heq
    rw [List.cons_append, List.cons_append, cut?, ih hs, Option.map_some]
  | case4 s _ _ =>
    rw [cut?_separator] at h
    cases h
    rfl
  | case5 c s hlast hescape hsep ih =>
    have hslash := ne_backslash hlast hescape
    rw [cut?_cons s hslash hsep] at h
    obtain ⟨⟨key', value'⟩, hs, heq⟩ := Option.map_eq_some_iff.mp h
    cases heq
    rw [List.cons_append, cut?_cons _ hslash hsep, ih hs, Option.map_some]

/-- Where there is no cut yet, one letter more belongs to the key. -/
theorem cut?_append_of_none {s : Text} {x : Char} (rest : Text) (hx : Inert x)
    (h : cut? s = none) : cut? (s ++ x :: separator :: rest) = some (s ++ [x], rest) := by
  induction s using cut?.induct with
  | case1 =>
    rw [List.nil_append, cut?_cons _ (hx.ne (by decide)) (hx.ne (by decide)), cut?_separator]
    rfl
  | case2 => rfl
  | case3 c s ih =>
    rw [List.cons_append, List.cons_append, cut?, ih (Option.map_eq_none_iff.mp h)]
    rfl
  | case4 s _ _ => cases h
  | case5 c s hlast hescape hsep ih =>
    have hslash := ne_backslash hlast hescape
    rw [cut?_cons s hslash hsep] at h
    rw [List.cons_append, cut?_cons _ hslash hsep, ih (Option.map_eq_none_iff.mp h)]
    rfl

/-- A code in braces is found in the same way if one letter more follows. -/
theorem spelled?_append_singleton {x : Char} (s : Text) (hx : Inert x) :
    spelled? (s ++ [x]) = (spelled? s).map fun (c, rest) => (c, rest ++ [x]) := by
  have hopen : x ≠ '{' := hx.ne (by decide)
  have hclose : x ≠ '}' := hx.ne (by decide)
  cases s with
  | nil => exact spelled?_of_head_ne (by simpa using hopen)
  | cons b body =>
    by_cases hb : b = '{'
    · subst hb
      by_cases hmem : '}' ∈ body
      · obtain ⟨digits, rest, rfl, hdigits⟩ := List.eq_append_cons_of_mem hmem
        rw [List.cons_append, List.append_assoc, List.cons_append, spelled?_braced _ hdigits,
          spelled?_braced _ hdigits, Option.map_map]
        rfl
      · rw [List.cons_append, spelled?_unclosed hmem,
          spelled?_unclosed (by simp [hmem, Ne.symm hclose]), Option.map_none]
    · rw [List.cons_append, spelled?_of_head_ne (by simpa using hb),
        spelled?_of_head_ne (by simpa using hb), Option.map_none]

theorem unescape_unknown {x : Char} (rest : Text) (hx : Inert x) :
    unescape ('\\' :: x :: rest) = '\\' :: x :: unescape rest := by
  simp only [Inert, separator, List.mem_cons, List.not_mem_nil, or_false, not_or] at hx
  obtain ⟨h1, h2, h3, h4, h5, h6, h7, -⟩ := hx
  simp [unescape, *]

theorem unescape_ne_nil {s : Text} (h : s ≠ []) : unescape s ≠ [] := by
  cases s with
  | nil => exact absurd rfl h
  | cons c s =>
    rw [unescape.eq_def]
    split
    all_goals simp_all
    split
    all_goals simp

/-- One letter more is read as this letter, whatever it follows. -/
theorem unescape_append_singleton {x : Char} (s : Text) (hx : Inert x) :
    unescape (s ++ [x]) = unescape s ++ [x] := by
  have hslash : x ≠ '\\' := hx.ne (by decide)
  induction s using unescape.induct with
  | case1 =>
    rw [List.nil_append, unescape_cons _ hslash, unescape]
    rfl
  | case2 rest ih | case3 rest ih | case4 rest ih | case5 rest ih | case6 rest ih | case7 rest ih =>
    simp only [List.cons_append, unescape, ih]
  | case8 rest c rest' hspelled hlt ih =>
    have hspelled' : spelled? (rest ++ [x]) = some (c, rest' ++ [x]) := by
      rw [spelled?_append_singleton rest hx, hspelled, Option.map_some]
    rw [List.cons_append, List.cons_append, unescape_of_spelled? hspelled',
      unescape_of_spelled? hspelled, ih, List.cons_append]
  | case9 rest hspelled ih =>
    have hspelled' : spelled? (rest ++ [x]) = none := by
      rw [spelled?_append_singleton rest hx, hspelled, Option.map_none]
    rw [List.cons_append, List.cons_append, unescape_of_not_spelled? hspelled',
      unescape_of_not_spelled? hspelled, ih, List.cons_append, List.cons_append]
  | case10 c rest h1 h2 h3 h4 h5 h6 h7 ih => simp [unescape, *]
  | case11 c rest h1 h2 h3 h4 h5 h6 h7 hescape ih =>
    by_cases hc : c = '\\'
    · subst hc
      cases rest with
      | nil =>
        rw [List.cons_append, List.nil_append, unescape_unknown [] hx]
        simp only [unescape, List.cons_append, List.nil_append]
      | cons d rest => exact absurd rfl (hescape d rest rfl)
    · rw [List.cons_append, unescape_cons _ hc, unescape_cons _ hc, ih, List.cons_append]

/-- The key of a pair is what stands before the cut. -/
theorem exists_cut_of_decode? {line key value : Text} (h : decode? line = some (key, value)) :
    ∃ front back, cut? line = some (front, back) ∧ unescape front = key := by
  unfold decode? at h
  split at h
  · cases h
  · obtain ⟨⟨front, back⟩, hcut, heq⟩ := Option.map_eq_some_iff.mp h
    exact ⟨front, back, hcut, congrArg Prod.fst heq⟩

/-- Behind text that is not empty there is a key that is not read back, whatever its value. -/
theorem exists_lost_key {s : Text} (h : s ≠ []) : ∃ key, key ≠ [] ∧
    ∀ value key' value', decode? (s ++ encode key value) = some (key', value') → key' ≠ key := by
  cases hcut : cut? s with
  | none =>
    -- The text and the letter make one key, of more than one character.
    refine ⟨['a'], by decide, fun value key' value' hread heq => ?_⟩
    obtain ⟨front, back, hjoined, hfront⟩ := exists_cut_of_decode? hread
    have hinert : Inert 'a' := by simp [Inert, separator]
    have hline : encode ['a'] value = 'a' :: separator :: escape value := rfl
    rw [hline, cut?_append_of_none _ hinert hcut] at hjoined
    cases hjoined
    rw [heq, unescape_append_singleton s hinert, List.append_eq_singleton_iff] at hfront
    rcases hfront with ⟨hnil, -⟩ | ⟨-, hnil⟩
    · exact unescape_ne_nil h hnil
    · cases hnil
  | some pair =>
    -- The text has its own key, and every other key is lost.
    obtain ⟨front, back⟩ := pair
    refine ⟨'a' :: unescape front, by simp, fun value key' value' hread heq => ?_⟩
    obtain ⟨front', back', hjoined, hfront⟩ := exists_cut_of_decode? hread
    rw [cut?_append_of_some _ hcut] at hjoined
    cases hjoined
    rw [heq] at hfront
    exact List.cons_ne_self _ _ hfront.symm

end Phrasebook.Line
