import Mathlib.Data.List.TakeWhile
import Phrasebook.Line.Basic
import Phrasebook.Proofs.Text.Lines
import Phrasebook.Proofs.Text.Numeral

/-!
Sides and lines are read back as they were written. Whatever the place of a character in a
side, it is written in one of three ways: as itself, as a backslash with one other character,
or by its code. A side is read spelling by spelling, and the first separator outside the
spellings is the one between the sides.
-/

namespace Phrasebook.Line

open Text

/-- The characters with a short escape, and what stands behind the backslash. -/
def shortEscapes : List (Char × Char) :=
  [('\\', '\\'), ('=', '='), ('\n', 'n'), ('\r', 'r'), ('\t', 't'), ('/', '/')]

inductive Spelling : Char → Text → Prop
  | plain {c : Char} (h : escapeInner c = [c]) : Spelling c [c]
  | short {c x : Char} (h : (c, x) ∈ shortEscapes) : Spelling c ['\\', x]
  | code (c : Char) : Spelling c (spell c)

theorem escapeInner_cases (c : Char) :
    escapeInner c = [c] ∨ ∃ x, escapeInner c = ['\\', x] ∧ (c, x) ∈ shortEscapes := by
  unfold escapeInner
  split
  · rename_i h
    exact Or.inr ⟨'\\', rfl, by simp [h, shortEscapes]⟩
  split
  · rename_i h
    exact Or.inr ⟨separator, rfl, by simp [h, shortEscapes, separator]⟩
  split
  · rename_i h
    exact Or.inr ⟨'n', rfl, by simp [h, shortEscapes]⟩
  split
  · rename_i h
    exact Or.inr ⟨'r', rfl, by simp [h, shortEscapes]⟩
  split
  · rename_i h
    exact Or.inr ⟨'t', rfl, by simp [h, shortEscapes]⟩
  · exact Or.inl rfl

/-- What is written as itself is none of the characters that are always escaped. -/
theorem ne_of_escapeInner_eq {c : Char} (h : escapeInner c = [c]) :
    c ≠ '\\' ∧ c ≠ separator ∧ c ≠ '\n' ∧ c ≠ '\r' ∧ c ≠ '\t' := by
  refine ⟨?_, ?_, ?_, ?_, ?_⟩
  all_goals
    intro heq
    subst heq
    revert h
    decide

theorem spelling_escapeInner (c : Char) : Spelling c (escapeInner c) := by
  rcases escapeInner_cases c with h | ⟨x, h, hx⟩
  · rw [h]
    exact Spelling.plain h
  · rw [h]
    exact Spelling.short hx

theorem spelling_escapeBlank (c : Char) : Spelling c (escapeBlank c) := by
  unfold escapeBlank
  split
  · exact Spelling.code c
  · exact spelling_escapeInner c

theorem spelling_escapeFirst (c : Char) : Spelling c (escapeFirst c) := by
  unfold escapeFirst
  split
  · rename_i h
    subst h
    exact Spelling.short (by simp [shortEscapes])
  split
  · exact Spelling.code c
  · exact spelling_escapeInner c

/-- A code in base sixteen is read as the character it stands for. -/
theorem charOfCode?_hexadecimal (c : Char) : charOfCode? (hexadecimal c.toNat) = some c := by
  have hvalid : Nat.isValidChar c.toNat := c.valid
  have hbound : c.toNat < limit32 := by
    unfold limit32
    rcases hvalid with h | ⟨-, h⟩
    · omega
    · omega
  unfold charOfCode? hexadecimal
  rw [readNumeral?_toDigits (by decide) (by decide) hbound, Option.filter_some,
    if_pos (decide_eq_true hvalid), Option.map_some, Char.ofNat_toNat]

/-- A code in braces ends at the first closing one. -/
theorem spelled?_braced {digits : Text} (rest : Text) (h : '}' ∉ digits) :
    spelled? ('{' :: (digits ++ '}' :: rest)) = (charOfCode? digits).map (·, rest) := by
  have hdigits : ∀ x ∈ digits, (x != '}') = true := fun x hx =>
    bne_iff_ne.mpr (ne_of_mem_of_not_mem hx h)
  unfold spelled?
  simp only [List.dropWhile_append_of_pos hdigits, List.takeWhile_append_of_pos hdigits]
  simp

theorem spelled?_code (c : Char) (rest : Text) :
    spelled? ('{' :: (hexadecimal c.toNat ++ '}' :: rest)) = some (c, rest) := by
  rw [spelled?_braced rest (not_mem_hexadecimal (by decide)), charOfCode?_hexadecimal,
    Option.map_some]

theorem unescape_of_spelled? {c : Char} {rest rest' : Text} (h : spelled? rest = some (c, rest')) :
    unescape ('\\' :: 'u' :: rest) = c :: unescape rest' := by
  rw [unescape]
  split
  · rename_i hsome
    rw [h] at hsome
    cases hsome
    rfl
  · rename_i hnone
    rw [h] at hnone
    cases hnone

theorem unescape_of_not_spelled? {rest : Text} (h : spelled? rest = none) :
    unescape ('\\' :: 'u' :: rest) = '\\' :: 'u' :: unescape rest := by
  rw [unescape]
  split
  · rename_i hsome
    rw [h] at hsome
    cases hsome
  · rfl

theorem unescape_cons {c : Char} (rest : Text) (h : c ≠ '\\') :
    unescape (c :: rest) = c :: unescape rest := by
  rw [unescape.eq_def]
  split
  all_goals simp_all

/-- A spelling is read as its character, whatever follows it. -/
theorem Spelling.unescape_append {c : Char} {s : Text} (h : Spelling c s) (rest : Text) :
    unescape (s ++ rest) = c :: unescape rest := by
  cases h with
  | plain h =>
    exact unescape_cons rest (ne_of_escapeInner_eq h).1
  | short h =>
    simp only [shortEscapes, List.mem_cons, Prod.mk.injEq, List.not_mem_nil, or_false] at h
    rcases h with ⟨rfl, rfl⟩ | ⟨rfl, rfl⟩ | ⟨rfl, rfl⟩ | ⟨rfl, rfl⟩ | ⟨rfl, rfl⟩ | ⟨rfl, rfl⟩
    all_goals rw [List.cons_append, List.singleton_append, unescape]
  | code =>
    simp only [spell, List.cons_append, List.nil_append, List.append_assoc]
    exact unescape_of_spelled? (spelled?_code c rest)

theorem cut?_cons {c : Char} (rest : Text) (hslash : c ≠ '\\') (hsep : c ≠ separator) :
    cut? (c :: rest) = (cut? rest).map fun (key, value) => (c :: key, value) := by
  rw [cut?.eq_def]
  split
  all_goals simp_all

theorem cut?_append_of_forall {s : Text} (rest : Text)
    (h : ∀ c ∈ s, c ≠ '\\' ∧ c ≠ separator) :
    cut? (s ++ rest) = (cut? rest).map fun (key, value) => (s ++ key, value) := by
  induction s with
  | nil => simp
  | cons c s ih =>
    obtain ⟨hslash, hsep⟩ := h c List.mem_cons_self
    rw [List.cons_append, cut?_cons _ hslash hsep, ih fun x hx => h x (List.mem_cons_of_mem c hx),
      Option.map_map]
    rfl

/-- A line is not cut within a code. -/
theorem cut?_code {digits : Text} (rest : Text) (h : ∀ x ∈ digits, x ≠ '\\' ∧ x ≠ separator) :
    cut? ('\\' :: 'u' :: '{' :: (digits ++ '}' :: rest)) =
      (cut? rest).map fun (key, value) =>
        ('\\' :: 'u' :: '{' :: (digits ++ '}' :: key), value) := by
  have hbraced : ∀ x ∈ '{' :: (digits ++ ['}']), x ≠ '\\' ∧ x ≠ separator := by
    intro x hx
    simp only [List.mem_cons, List.mem_append, List.not_mem_nil, or_false] at hx
    rcases hx with rfl | hx | rfl
    · decide
    · exact h x hx
    · decide
  have hcut := cut?_append_of_forall rest hbraced
  simp only [List.cons_append, List.append_assoc, List.nil_append] at hcut
  rw [cut?, hcut, Option.map_map]
  rfl

/-- A line is never cut within a spelling. -/
theorem Spelling.cut?_append {c : Char} {s : Text} (h : Spelling c s) (rest : Text) :
    cut? (s ++ rest) = (cut? rest).map fun (key, value) => (s ++ key, value) := by
  cases h with
  | plain h =>
    obtain ⟨hslash, hsep, -⟩ := ne_of_escapeInner_eq h
    exact cut?_cons rest hslash hsep
  | short h => rfl
  | code =>
    have hdigits : ∀ x ∈ hexadecimal c.toNat, x ≠ '\\' ∧ x ≠ separator := fun x hx =>
      ⟨ne_of_mem_of_not_mem hx (not_mem_hexadecimal (by decide)),
        ne_of_mem_of_not_mem hx (not_mem_hexadecimal (by decide))⟩
    simpa only [spell, List.cons_append, List.nil_append, List.append_assoc] using
      cut?_code rest hdigits

/-- A spelling holds no line end. -/
theorem Spelling.ne_of_mem {c x : Char} {s : Text} (h : Spelling c s) (hx : x ∈ s) :
    x ≠ '\n' ∧ x ≠ '\r' := by
  cases h with
  | plain h =>
    obtain ⟨-, -, hnewline, hreturn, -⟩ := ne_of_escapeInner_eq h
    rw [List.mem_singleton] at hx
    exact hx ▸ ⟨hnewline, hreturn⟩
  | short h =>
    simp only [shortEscapes, List.mem_cons, Prod.mk.injEq, List.not_mem_nil, or_false] at h hx
    rcases h with ⟨-, rfl⟩ | ⟨-, rfl⟩ | ⟨-, rfl⟩ | ⟨-, rfl⟩ | ⟨-, rfl⟩ | ⟨-, rfl⟩
    all_goals
      rcases hx with rfl | rfl
      all_goals decide
  | code =>
    simp only [spell, List.mem_cons, List.mem_append, List.not_mem_nil, or_false] at hx
    rcases hx with ((rfl | rfl | rfl) | hx) | rfl
    · decide
    · decide
    · decide
    · refine ⟨?_, ?_⟩
      all_goals
        intro heq
        subst heq
        exact not_mem_hexadecimal (by decide) hx
    · decide

inductive Spells : Text → Text → Prop
  | nil : Spells [] []
  | cons {c : Char} {s t u : Text} (h : Spelling c s) (hrest : Spells t u) :
      Spells (c :: t) (s ++ u)

namespace Spells

variable {t t' u u' : Text}

theorem append (h : Spells t u) (h' : Spells t' u') : Spells (t ++ t') (u ++ u') := by
  induction h with
  | nil => exact h'
  | cons hc hrest ih =>
    rw [List.append_assoc]
    exact Spells.cons hc ih

theorem flatMap {write : Char → Text} (h : ∀ c, Spelling c (write c)) (t : Text) :
    Spells t (t.flatMap write) := by
  induction t with
  | nil => exact Spells.nil
  | cons c t ih => exact Spells.cons (h c) ih

theorem unescape_eq (h : Spells t u) : unescape u = t := by
  induction h with
  | nil => rw [unescape]
  | cons hc hrest ih => rw [hc.unescape_append, ih]

theorem cut?_eq (h : Spells t u) (rest : Text) :
    cut? (u ++ separator :: rest) = some (u, rest) := by
  induction h with
  | nil => rfl
  | cons hc hrest ih => rw [List.append_assoc, hc.cut?_append, ih, Option.map_some]

theorem ne_of_mem (h : Spells t u) {x : Char} (hx : x ∈ u) : x ≠ '\n' ∧ x ≠ '\r' := by
  induction h with
  | nil => cases hx
  | cons hc hrest ih =>
    rcases List.mem_append.mp hx with hx | hx
    · exact hc.ne_of_mem hx
    · exact ih hx

end Spells

theorem trimEnd_append_trailingBlanks (t : Text) : trimEnd t ++ trailingBlanks t = t := by
  rw [trimEnd, trailingBlanks, ← List.reverse_append, List.takeWhile_append_dropWhile,
    List.reverse_reverse]

theorem spells_escapeHead (t : Text) : Spells t (escapeHead t) := by
  cases t with
  | nil => exact Spells.nil
  | cons c t => exact Spells.cons (spelling_escapeFirst c) (Spells.flatMap spelling_escapeInner t)

/-- A side is written in three parts: the white space at its start, what shows and what lies
between, and the white space at its end. -/
theorem exists_escape_parts (t : Text) : ∃ lead core trail, t = lead ++ core ++ trail ∧
    (core = [] → trail = []) ∧ (core ≠ [] → StartsVisibly core ∧ EndsVisibly core) ∧
    escape t = lead.flatMap escapeBlank ++
      (if lead.isEmpty then escapeHead core else core.flatMap escapeInner) ++
      trail.flatMap escapeBlank := by
  have hsplit := trimEnd_append_trailingBlanks (t.dropWhile isBlank)
  refine ⟨t.takeWhile isBlank, trimEnd (t.dropWhile isBlank),
    trailingBlanks (t.dropWhile isBlank), ?_, fun hcore => ?_, fun hcore => ⟨?_, ?_⟩, rfl⟩
  · rw [List.append_assoc, hsplit, List.takeWhile_append_dropWhile]
  · by_cases hrest : t.dropWhile isBlank = []
    · rw [hrest]
      rfl
    · obtain ⟨c, rest, heq, hc⟩ := startsVisibly_dropWhile hrest
      rw [trimEnd, List.reverse_eq_nil_iff, List.dropWhile_eq_nil_iff] at hcore
      have hblank := hcore c (by rw [heq]; simp)
      rw [hc] at hblank
      cases hblank
  · have hrest : t.dropWhile isBlank ≠ [] := by
      intro hnil
      rw [hnil] at hcore
      exact hcore rfl
    obtain ⟨c, rest, heq, hc⟩ := startsVisibly_dropWhile hrest
    cases hcut : trimEnd (t.dropWhile isBlank) with
    | nil => exact absurd hcut hcore
    | cons x core =>
      rw [hcut, heq] at hsplit
      exact ⟨x, core, rfl, (List.cons.inj hsplit).1 ▸ hc⟩
  · exact endsVisibly_trimEnd hcore

/-- What is written for a side spells it. -/
theorem spells_escape (t : Text) : Spells t (escape t) := by
  obtain ⟨lead, core, trail, ht, -, -, hescape⟩ := exists_escape_parts t
  have hcore : Spells core
      (if lead.isEmpty then escapeHead core else core.flatMap escapeInner) := by
    split
    · exact spells_escapeHead core
    · exact Spells.flatMap spelling_escapeInner core
  rw [hescape, ht]
  exact ((Spells.flatMap spelling_escapeBlank lead).append hcore).append
    (Spells.flatMap spelling_escapeBlank trail)

/-- A side is read back as it was written. -/
theorem unescape_escape (t : Text) : unescape (escape t) = t := (spells_escape t).unescape_eq

/-- A spelling that begins and ends with characters that show, and with no slash. -/
structure Visible (s : Text) : Prop where
  starts : StartsVisibly s
  ends : EndsVisibly s
  head_ne : s.head? ≠ some '/'

theorem visible_spell (c : Char) : Visible (spell c) where
  starts := ⟨'\\', 'u' :: '{' :: (hexadecimal c.toNat ++ ['}']), by simp [spell], rfl⟩
  ends := ⟨['\\', 'u', '{'] ++ hexadecimal c.toNat, '}', rfl, rfl⟩
  head_ne := by simp [spell]

theorem visible_of_mem_shortEscapes {c x : Char} (h : (c, x) ∈ shortEscapes) :
    Visible ['\\', x] := by
  refine ⟨⟨'\\', [x], rfl, rfl⟩, ⟨['\\'], x, rfl, ?_⟩, by simp⟩
  simp only [shortEscapes, List.mem_cons, Prod.mk.injEq, List.not_mem_nil, or_false] at h
  rcases h with ⟨-, rfl⟩ | ⟨-, rfl⟩ | ⟨-, rfl⟩ | ⟨-, rfl⟩ | ⟨-, rfl⟩ | ⟨-, rfl⟩
  all_goals rfl

theorem visible_escapeBlank (c : Char) : Visible (escapeBlank c) := by
  unfold escapeBlank
  split
  · exact visible_spell c
  · rename_i hplain
    rcases escapeInner_cases c with h | ⟨x, h, hx⟩
    · exact absurd h hplain
    · rw [h]
      exact visible_of_mem_shortEscapes hx

theorem endsVisibly_escapeInner {c : Char} (hc : isBlank c = false) :
    EndsVisibly (escapeInner c) := by
  rcases escapeInner_cases c with h | ⟨x, h, hx⟩
  · rw [h]
    exact ⟨[], c, rfl, hc⟩
  · rw [h]
    exact (visible_of_mem_shortEscapes hx).ends

theorem visible_escapeFirst {c : Char} (hc : isBlank c = false) : Visible (escapeFirst c) := by
  unfold escapeFirst
  split
  · exact visible_of_mem_shortEscapes (c := '/') (by simp [shortEscapes])
  split
  · exact visible_spell c
  · rename_i hslash _
    rcases escapeInner_cases c with h | ⟨x, h, hx⟩
    · rw [h]
      exact ⟨⟨c, [], rfl, hc⟩, ⟨[], c, rfl, hc⟩, by simpa using hslash⟩
    · rw [h]
      exact visible_of_mem_shortEscapes hx

/-- What is written for a side begins with white space that is spelled out, or with the first
character that shows, written as the first one. -/
theorem exists_escape_front {t : Text} (h : t ≠ []) : ∃ c rest,
    escape t = escapeBlank c ++ rest ∨ isBlank c = false ∧ escape t = escapeFirst c ++ rest := by
  obtain ⟨lead, core, trail, rfl, htrail, hcore, hescape⟩ := exists_escape_parts t
  cases lead with
  | cons c lead =>
    rw [hescape, List.flatMap_cons, List.append_assoc, List.append_assoc]
    exact ⟨c, _, Or.inl rfl⟩
  | nil =>
    cases core with
    | nil => exact absurd (by simp [htrail rfl]) h
    | cons x core =>
      obtain ⟨c, rest, heq, hc⟩ := (hcore (by simp)).1
      obtain ⟨rfl, -⟩ := List.cons.inj heq
      rw [hescape, List.flatMap_nil, List.nil_append, List.isEmpty_nil, if_pos rfl, escapeHead,
        List.append_assoc]
      exact ⟨x, _, Or.inr ⟨hc, rfl⟩⟩

/-- What is written for a side begins with a character that shows and is no slash. -/
theorem escape_starts {t : Text} (h : t ≠ []) :
    StartsVisibly (escape t) ∧ (escape t).head? ≠ some '/' := by
  have hvisible : ∃ s rest, escape t = s ++ rest ∧ Visible s := by
    obtain ⟨c, rest, heq | ⟨hc, heq⟩⟩ := exists_escape_front h
    · exact ⟨escapeBlank c, rest, heq, visible_escapeBlank c⟩
    · exact ⟨escapeFirst c, rest, heq, visible_escapeFirst hc⟩
  obtain ⟨s, rest, heq, hs⟩ := hvisible
  obtain ⟨c, front, rfl, hc⟩ := hs.starts
  have hne := hs.head_ne
  rw [heq]
  exact ⟨⟨c, front ++ rest, rfl, hc⟩, hne⟩

theorem endsVisibly_flatMap {write : Char → Text} {t : Text} (h : t ≠ [])
    (hlast : ∀ c, EndsVisibly (write c)) : EndsVisibly (t.flatMap write) := by
  have hsplit := List.dropLast_concat_getLast h
  rw [← hsplit, List.flatMap_append, List.flatMap_singleton]
  exact (hlast _).append _

theorem endsVisibly_escapeHead {t : Text} (h : EndsVisibly t) : EndsVisibly (escapeHead t) := by
  obtain ⟨front, c, rfl, hc⟩ := h
  cases front with
  | nil =>
    rw [List.nil_append, escapeHead, List.flatMap_nil, List.append_nil]
    exact (visible_escapeFirst hc).ends
  | cons x front =>
    rw [List.cons_append, escapeHead, List.flatMap_append, List.flatMap_singleton]
    exact ((endsVisibly_escapeInner hc).append _).append _

/-- What is written for a side ends with a character that shows. -/
theorem escape_ends {t : Text} (h : t ≠ []) : EndsVisibly (escape t) := by
  obtain ⟨lead, core, trail, rfl, htrail, hcore, hescape⟩ := exists_escape_parts t
  rw [hescape]
  by_cases hnone : trail = []
  · rw [hnone, List.flatMap_nil, List.append_nil]
    by_cases hempty : core = []
    · have hlead : lead ≠ [] := by
        intro hlead
        exact h (by rw [hlead, hempty, hnone]; rfl)
      have hpart : (if lead.isEmpty then escapeHead core else core.flatMap escapeInner) = [] := by
        simp [hempty, escapeHead]
      rw [hpart, List.append_nil]
      exact endsVisibly_flatMap hlead fun c => (visible_escapeBlank c).ends
    · obtain ⟨-, hends⟩ := hcore hempty
      refine EndsVisibly.append _ ?_
      split
      · exact endsVisibly_escapeHead hends
      · obtain ⟨front, c, rfl, hc⟩ := hends
        rw [List.flatMap_append, List.flatMap_singleton]
        exact (endsVisibly_escapeInner hc).append _
  · exact (endsVisibly_flatMap hnone fun c => (visible_escapeBlank c).ends).append _

/-- A line never begins like a comment. -/
theorem isComment_encode (key value : Text) : isComment (encode key value) = false := by
  by_cases h : key = []
  · subst h
    rfl
  · obtain ⟨⟨c, rest, hstart, -⟩, hslash⟩ := escape_starts h
    rw [hstart, List.head?_cons, ne_eq, Option.some.injEq] at hslash
    rw [encode, hstart, isComment, List.cons_append, List.isPrefixOf_cons_cons]
    simp [Ne.symm hslash]

/-- A line is read back as the pair it was written for. -/
theorem decode?_encode (key value : Text) : decode? (encode key value) = some (key, value) := by
  rw [decode?, isComment_encode, if_neg (by simp), encode, (spells_escape key).cut?_eq,
    Option.map_some]
  simp only [unescape_escape]

/-- A line holds no line end. -/
theorem ne_of_mem_encode {key value : Text} {x : Char} (h : x ∈ encode key value) :
    x ≠ '\n' ∧ x ≠ '\r' := by
  rcases List.mem_append.mp h with hx | hx
  · exact (spells_escape key).ne_of_mem hx
  rcases List.mem_cons.mp hx with rfl | hx
  · decide
  · exact (spells_escape value).ne_of_mem hx

/-- A line begins with a character that shows, be it the separator. -/
theorem encode_starts (key value : Text) : StartsVisibly (encode key value) := by
  by_cases hkey : key = []
  · subst hkey
    exact ⟨separator, escape value, rfl, rfl⟩
  · exact (escape_starts hkey).1.append _

/-- A line ends with a character that shows, be it the separator. -/
theorem encode_ends (key value : Text) : EndsVisibly (encode key value) := by
  by_cases hvalue : value = []
  · subst hvalue
    exact ⟨escape key, separator, rfl, rfl⟩
  · exact ((escape_ends hvalue).append [separator]).append (escape key)

/-- Trimming leaves a line as it is. -/
theorem trim_encode (key value : Text) : trim (encode key value) = encode key value :=
  trim_eq_self (encode_starts key value) (encode_ends key value)

end Phrasebook.Line
