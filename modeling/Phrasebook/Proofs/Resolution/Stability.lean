import Phrasebook.Proofs.Resolution.Agreement

/-!
Resolving an outcome again. Where words take letters away and bring none, a text is resolved only
if it is exempt or no letters are left of it. Either way the outcome stays: an exempt text is still
exempt, and in a text without letters there is no word to be found, neither as the whole text nor
across the edges of what was put in, and no run of letters to account for.
-/

namespace Phrasebook

open Text

def Text.Letterless (t : Text) : Prop := ∀ c ∈ t, isLetter c = false

instance (t : Text) : Decidable (Letterless t) :=
  List.decidableBAll (isLetter · = false) t

theorem Text.Letterless.runs_eq_nil {t : Text} (h : Letterless t) : runs isLetter t = [] :=
  (MaximalRuns.gap h).runs_eq

/-- What stands in a text without letters has none either. -/
theorem WholeWordAt.letterless {t needle : Text} {index : Nat} (h : WholeWordAt t needle index)
    (ht : Letterless t) : Letterless needle := by
  obtain ⟨front, back, rfl, -⟩ := h.place
  intro c hc
  exact ht c (List.mem_append_left back (List.mem_append_right front hc))

namespace Dictionary

/-- Words that take letters away and bring none, and nothing else but exemptions. -/
structure Clearing (d : Dictionary) : Prop where
  rules : d.rules = []
  ignores : d.ignores = []
  known : d.known = []
  key : ∀ w ∈ d.words.entries, ¬ Letterless w.key
  value : ∀ w ∈ d.words.entries, Letterless w.value

namespace Clearing

variable {d : Dictionary} {t : Text}

theorem lookup_of_letterless (h : d.Clearing) (ht : Letterless t) : d.lookup t = none := by
  rw [Option.eq_none_iff_forall_ne_some]
  intro value hvalue
  exact h.key _ (WordTable.lookup_eq_some_iff.mp hvalue) ht

theorem candidates_of_letterless (h : d.Clearing) (ht : Letterless t) (cover : List Shield) :
    candidates d.words.entries cover t = [] := by
  rw [List.eq_nil_iff_forall_not_mem]
  intro a ha
  obtain ⟨w, hw, index, hword, -, -⟩ := mem_candidates_iff.mp ha
  exact h.key w hw (hword.letterless ht)

/-- Every run of letters is left over. -/
theorem leftover_eq_runs (h : d.Clearing) (expanded t : Text) :
    Resolution.leftover d (shields d.ignores expanded) t = runs isLetter t := by
  rw [leftover_eq, List.filter_eq_self]
  intro run _
  simp [Accounts, h.known, h.ignores]

theorem ofLiterals_of_letterless (h : d.Clearing) (ht : Letterless t) :
    Resolution.ofLiterals d t = .complete t := by
  have hleft : Resolution.leftover d (shields d.ignores t) t = [] := by
    rw [h.leftover_eq_runs, ht.runs_eq_nil]
  simp only [Resolution.ofLiterals, h.candidates_of_letterless ht, inOrder, List.foldr_nil,
    Draft.apply, hleft]
  rfl

/-- There are no rules, so the words are looked for in the text itself. -/
theorem resolve_of_not_word (h : d.Clearing) (hopen : d.exemptions.any (·.covers t) = false)
    (hlookup : d.lookup t = none) : d.resolve t = .ofLiterals d t := by
  have hrules : Expansion.ofRules d.rules t = ⟨t, false⟩ := by
    rw [h.rules]
    rfl
  rw [resolve_of_not_settled hopen hlookup (by rw [hrules]), hrules]

/-- A text without letters stays as it is. -/
theorem resolve_of_letterless (h : d.Clearing) (ht : Letterless t) :
    d.resolve t = .complete t := by
  cases hexempt : d.exemptions.any (·.covers t) with
  | true => exact resolve_of_exempt hexempt
  | false =>
    rw [h.resolve_of_not_word hexempt (h.lookup_of_letterless ht)]
    exact h.ofLiterals_of_letterless ht

/-- Words put into a text that is no word resolve it only if no letters are left. -/
theorem letterless_of_ofLiterals (h : d.Clearing) (hlookup : d.lookup t = none)
    (hresolved : (Resolution.ofLiterals d t).resolved = true) :
    Letterless (Resolution.ofLiterals d t).value := by
  obtain ⟨value, hvalue⟩ := exists_ofLiterals_eq d t
  -- A candidate for the whole text would be a word that was looked up already.
  have hpart : (candidates d.words.entries (shields d.ignores t) t).any (·.full) ≠ true := by
    intro hfull
    obtain ⟨-, ⟨w, hw, rfl⟩, -⟩ := any_full_iff.mp hfull
    rw [lookup, WordTable.lookup_eq_some_iff.mpr hw] at hlookup
    cases hlookup
  rw [hvalue, if_neg hpart, byLetters, h.leftover_eq_runs] at hresolved ⊢
  exact eq_false_of_runs_eq_nil (List.isEmpty_iff.mp hresolved)

/-- A resolved text is exempt, and is its own outcome then, or its outcome has no letters. -/
theorem exempt_or_letterless (h : d.Clearing) (hresolved : (d.resolve t).resolved = true) :
    (d.exemptions.any (·.covers t) = true ∧ (d.resolve t).value = t) ∨
      Letterless (d.resolve t).value := by
  cases hexempt : d.exemptions.any (·.covers t) with
  | true => exact Or.inl ⟨rfl, by rw [resolve_of_exempt hexempt]; rfl⟩
  | false =>
    refine Or.inr ?_
    cases hlookup : d.lookup t with
    | some value =>
      rw [resolve_of_lookup hexempt hlookup]
      exact h.value _ (WordTable.lookup_eq_some_iff.mp hlookup)
    | none =>
      rw [h.resolve_of_not_word hexempt hlookup] at hresolved ⊢
      exact h.letterless_of_ofLiterals hlookup hresolved

end Clearing

/-- Where words take letters away and bring none, and nothing else but exemptions is there, the
outcome of every resolved text stays: it is the text itself, which is exempt, or it has no letters,
and resolving it again is resolved and gives it back without tokens. -/
theorem resolved_value_stable {d : Dictionary} {t : Text} (h : d.Clearing)
    (hresolved : (d.resolve t).resolved = true) :
    ((d.exemptions.any (·.covers t) = true ∧ (d.resolve t).value = t) ∨
      Letterless (d.resolve t).value) ∧
    d.resolve (d.resolve t).value = ⟨true, (d.resolve t).value, []⟩ := by
  have hends := h.exempt_or_letterless hresolved
  refine ⟨hends, ?_⟩
  rcases hends with ⟨hexempt, hvalue⟩ | hletterless
  · rw [hvalue]
    exact resolve_of_exempt hexempt
  · exact h.resolve_of_letterless hletterless

def strokes : Dictionary where
  words := ⟨[⟨"one".toList, ['-']⟩, ⟨"two".toList, ['-', '-']⟩], by decide⟩
  exemptions := [repeats '-']

/-- The text is no exempt one, but its outcome is: the second time another way out is taken. -/
theorem resolved_value_stable_strokes :
    strokes.Clearing ∧ (strokes.resolve "one-two".toList).resolved = true ∧
    (repeats '-').covers "one-two".toList = false ∧ (repeats '-').covers "----".toList = true ∧
    strokes.resolve "----".toList = ⟨true, "----".toList, []⟩ := by
  have hclearing : strokes.Clearing := ⟨rfl, rfl, rfl, by decide, by decide⟩
  have hfirst : strokes.resolve "one-two".toList = ⟨true, "----".toList, []⟩ := by
    decide +kernel
  have hresolved : (strokes.resolve "one-two".toList).resolved = true := by rw [hfirst]
  have hagain := (resolved_value_stable hclearing hresolved).2
  rw [hfirst] at hagain
  exact ⟨hclearing, hresolved, by decide +kernel, by decide +kernel, hagain⟩

/-- A word without letters can be found in an outcome, which does not stay then. -/
example :
    let d : Dictionary := { words := ⟨[⟨['a'], ['-']⟩, ⟨['-', '-'], ['*']⟩], by decide⟩ }
    d.resolve ['-', 'a'] = ⟨true, ['-', '-'], []⟩ ∧
      d.resolve ['-', '-'] = ⟨true, ['*'], []⟩ := by decide

end Dictionary

end Phrasebook
