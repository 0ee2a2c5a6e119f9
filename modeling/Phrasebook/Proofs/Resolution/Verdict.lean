import Phrasebook.Proofs.Dictionary.Basic
import Phrasebook.Proofs.Resolution.Overlap
import Phrasebook.Proofs.Text.Runs
import Phrasebook.Resolution.Basic

/-!
When a text counts as resolved. There are four ways to be done before any letter is looked at: an
exemption, a word for the whole text, an anchored rule that applies, and a word for the whole
expanded text that no shield covers. Otherwise the runs of letters of the outcome decide, and
those that nothing accounts for are reported.
-/

namespace Phrasebook

open Text

theorem Text.holds_iff_infix {needle t : Text} : holds needle t = true ↔ needle <:+: t := by
  rw [holds_iff]
  constructor
  · intro hplace
    obtain ⟨front, back, rfl⟩ := hplace
    exact ⟨front, back, rfl⟩
  · intro hinfix
    obtain ⟨front, back, rfl⟩ := hinfix
    exact ⟨front, back, rfl⟩

/-- No shield covers the first byte of a text if no literal stands there as a whole word. -/
theorem any_covers_zero_iff {ignores : List Text} {t : Text} :
    (shields ignores t).any (·.covers 0) = false ↔
      ∀ literal ∈ ignores, ¬ WholeWordAt t literal 0 := by
  rw [List.any_eq_false]
  constructor
  · intro hopen literal hliteral hword
    have hpos := width_pos hword.needle_ne
    have hcovers := hopen ⟨literal, 0, width literal⟩
      (mem_shields_iff.mpr ⟨literal, hliteral, 0, hword, rfl⟩)
    simp only [Shield.covers, Bool.and_eq_true, decide_eq_true_eq] at hcovers
    omega
  · intro hfree s hs hcovers
    obtain ⟨literal, hliteral, index, hword, rfl⟩ := mem_shields_iff.mp hs
    simp only [Shield.covers, Bool.and_eq_true, decide_eq_true_eq] at hcovers
    obtain rfl : index = 0 := by omega
    exact hfree literal hliteral hword

/-- A key that stands at the start of a text and is as wide as the text is the text. -/
theorem WholeWordAt.eq_of_width_eq {t needle : Text} (h : WholeWordAt t needle 0)
    (hwidth : width needle = width t) : needle = t := by
  obtain ⟨front, back, ht, hfront, -, -⟩ := h.place
  rw [ht, width_append, width_append] at hwidth
  rw [ht, width_eq_zero_iff.mp hfront, width_eq_zero_iff.mp (show width back = 0 by omega)]
  simp

/-- A candidate covers the whole text exactly where the text is a word that begins in no shield. -/
theorem any_full_iff {words : List Word} {ignores : List Text} {t : Text} :
    (candidates words (shields ignores t) t).any (·.full) = true ↔
      t ≠ [] ∧ (∃ w ∈ words, w.key = t) ∧ ∀ literal ∈ ignores, ¬ WholeWordAt t literal 0 := by
  rw [List.any_eq_true]
  constructor
  · intro hfound
    obtain ⟨c, hc, hfull⟩ := hfound
    obtain ⟨w, hw, index, hword, hopen, rfl⟩ := mem_candidates_iff.mp hc
    simp only [Candidate.ofWord, Bool.and_eq_true, beq_iff_eq] at hfull
    obtain ⟨rfl, hwidth⟩ := hfull
    have hkey := hword.eq_of_width_eq hwidth
    exact ⟨hkey ▸ hword.needle_ne, ⟨w, hw, hkey⟩, any_covers_zero_iff.mp hopen⟩
  · intro hwhole
    obtain ⟨hne, ⟨w, hw, rfl⟩, hfree⟩ := hwhole
    refine ⟨Candidate.ofWord w w.key 0, ?_, by simp [Candidate.ofWord]⟩
    exact mem_candidates_iff.mpr
      ⟨w, hw, 0, wholeWordAt_self hne, any_covers_zero_iff.mpr hfree, rfl⟩

namespace Dictionary

/-- The dictionary accounts for a run of letters: it is known, or it is part of a literal that
stands in the expanded text as a whole word. -/
def Accounts (d : Dictionary) (expanded run : Text) : Prop :=
  run ∈ d.known ∨
    ∃ literal ∈ d.ignores, (∃ index, WholeWordAt expanded literal index) ∧ run <:+: literal

theorem accounts_iff {d : Dictionary} {expanded run : Text} :
    (d.isKnown run || (shields d.ignores expanded).any fun s => holds run s.text) = true ↔
      d.Accounts expanded run := by
  rw [Bool.or_eq_true, isKnown, List.contains_iff_mem, List.any_eq_true, Accounts]
  refine or_congr Iff.rfl ?_
  constructor
  · intro hcovered
    obtain ⟨s, hs, hholds⟩ := hcovered
    obtain ⟨literal, hliteral, index, hword, rfl⟩ := mem_shields_iff.mp hs
    exact ⟨literal, hliteral, ⟨index, hword⟩, holds_iff_infix.mp hholds⟩
  · intro hpart
    obtain ⟨literal, hliteral, ⟨index, hword⟩, hinfix⟩ := hpart
    exact ⟨_, mem_shields_iff.mpr ⟨literal, hliteral, index, hword, rfl⟩,
      holds_iff_infix.mpr hinfix⟩

instance (d : Dictionary) (expanded run : Text) : Decidable (d.Accounts expanded run) :=
  decidable_of_iff _ accounts_iff

/-- What is left over are the runs of letters that the dictionary does not account for. -/
theorem leftover_eq (d : Dictionary) (expanded t : Text) :
    Resolution.leftover d (shields d.ignores expanded) t =
      (runs isLetter t).filter fun run => ¬ d.Accounts expanded run := by
  refine List.filter_congr fun run _ => ?_
  rw [← Bool.not_or, decide_not]
  refine congrArg (!·) ?_
  rw [Bool.eq_iff_iff, decide_eq_true_iff, accounts_iff]

/-- The ways in which a text is resolved whatever letters the outcome has. -/
inductive Concludes (d : Dictionary) (t : Text) : Prop
  /-- An exemption covers the text. -/
  | exempt (e : Exemption) (hmem : e ∈ d.exemptions) (hcovers : e.covers t = true)
  /-- The text is a word. -/
  | word (w : Word) (hmem : w ∈ d.words.entries) (hkey : w.key = t)
  /-- An anchored rule matches what the rules before it have made of the text. -/
  | anchored (before : List Rule) (r : Rule) (after : List Rule)
      (hrules : d.rules = before ++ r :: after) (hanchored : r.isAnchored = true)
      (hmatch : r.pattern.isMatch (Expansion.ofRules before t).text = true)
  /-- The text that the rules make is a word, and no literal stands at its start. -/
  | expanded (w : Word) (hmem : w ∈ d.words.entries)
      (hkey : w.key = (Expansion.ofRules d.rules t).text)
      (hne : (Expansion.ofRules d.rules t).text ≠ [])
      (hfree : ∀ literal ∈ d.ignores, ¬ WholeWordAt (Expansion.ofRules d.rules t).text literal 0)

/-- The ways to conclude are what the resolution tests one after the other. -/
theorem concludes_iff {d : Dictionary} {t : Text} : d.Concludes t ↔
    d.exemptions.any (·.covers t) = true ∨ (∃ value, d.lookup t = some value) ∨
    (Expansion.ofRules d.rules t).settled = true ∨
    (candidates d.words.entries (shields d.ignores (Expansion.ofRules d.rules t).text)
      (Expansion.ofRules d.rules t).text).any (·.full) = true := by
  rw [List.any_eq_true, Expansion.settled_ofRules_iff, any_full_iff]
  constructor
  · intro hconcludes
    cases hconcludes with
    | exempt e hmem hcovers => exact Or.inl ⟨e, hmem, hcovers⟩
    | word w hmem hkey =>
      refine Or.inr (Or.inl ⟨w.value, WordTable.lookup_eq_some_iff.mpr ?_⟩)
      rw [← hkey]
      exact hmem
    | anchored before r after hrules hanchored hmatch =>
      exact Or.inr (Or.inr (Or.inl ⟨before, r, after, hrules, hanchored, hmatch⟩))
    | expanded w hmem hkey hne hfree =>
      exact Or.inr (Or.inr (Or.inr ⟨hne, ⟨w, hmem, hkey⟩, hfree⟩))
  · intro htests
    rcases htests with ⟨e, hmem, hcovers⟩ | ⟨value, hvalue⟩ |
      ⟨before, r, after, hrules, hanchored, hmatch⟩ | ⟨hne, ⟨w, hmem, hkey⟩, hfree⟩
    · exact .exempt e hmem hcovers
    · exact .word ⟨t, value⟩ (WordTable.lookup_eq_some_iff.mp hvalue) rfl
    · exact .anchored before r after hrules hanchored hmatch
    · exact .expanded w hmem hkey hne hfree

def byLetters (d : Dictionary) (expanded value : Text) : Resolution :=
  ⟨(Resolution.leftover d (shields d.ignores expanded) value).isEmpty, value,
    Resolution.leftover d (shields d.ignores expanded) value⟩

theorem exists_ofLiterals_eq (d : Dictionary) (t : Text) : ∃ value, Resolution.ofLiterals d t =
    if (candidates d.words.entries (shields d.ignores t) t).any (·.full) then .complete value
    else d.byLetters t value := by
  rw [← (inOrder_perm _).any_eq]
  simp only [Resolution.ofLiterals, Draft.apply_eq]
  split
  · rename_i draft hwalk
    obtain ⟨rfl, hfull⟩ := Prod.mk.inj hwalk
    exact ⟨_, (if_pos hfull).symm⟩
  · rename_i draft hwalk
    obtain ⟨rfl, hfull⟩ := Prod.mk.inj hwalk
    exact ⟨_, (if_neg (by rw [hfull]; exact Bool.false_ne_true)).symm⟩

section Exits

variable {d : Dictionary} {t value : Text}

theorem resolve_of_exempt (h : d.exemptions.any (·.covers t) = true) :
    d.resolve t = .complete t := by
  rw [resolve, if_pos h]

theorem resolve_of_lookup (hopen : d.exemptions.any (·.covers t) = false)
    (h : d.lookup t = some value) : d.resolve t = .complete value := by
  rw [resolve, if_neg (by simp [hopen]), h]

theorem resolve_of_settled (hopen : d.exemptions.any (·.covers t) = false)
    (hlookup : d.lookup t = none) (h : (Expansion.ofRules d.rules t).settled = true) :
    d.resolve t = .complete (Expansion.ofRules d.rules t).text := by
  rw [resolve, if_neg (by simp [hopen]), hlookup]
  exact if_pos h

theorem resolve_of_not_settled (hopen : d.exemptions.any (·.covers t) = false)
    (hlookup : d.lookup t = none) (h : (Expansion.ofRules d.rules t).settled = false) :
    d.resolve t = .ofLiterals d (Expansion.ofRules d.rules t).text := by
  rw [resolve, if_neg (by simp [hopen]), hlookup]
  exact if_neg (by simp [h])

end Exits

/-- How the resolution of a text ends: it is concluded, or the letters decide. -/
theorem exists_resolve_eq (d : Dictionary) (t : Text) :
    (d.Concludes t ∧ ∃ value, d.resolve t = .complete value) ∨
    (¬ d.Concludes t ∧ ∃ value,
      d.resolve t = d.byLetters (Expansion.ofRules d.rules t).text value) := by
  rw [concludes_iff]
  cases hexempt : d.exemptions.any (·.covers t) with
  | true => exact Or.inl ⟨Or.inl rfl, t, resolve_of_exempt hexempt⟩
  | false =>
    cases hlookup : d.lookup t with
    | some value =>
      exact Or.inl ⟨Or.inr (Or.inl ⟨value, rfl⟩), value, resolve_of_lookup hexempt hlookup⟩
    | none =>
      cases hsettled : (Expansion.ofRules d.rules t).settled with
      | true =>
        exact Or.inl ⟨Or.inr (Or.inr (Or.inl rfl)), _,
          resolve_of_settled hexempt hlookup hsettled⟩
      | false =>
        rw [resolve_of_not_settled hexempt hlookup hsettled]
        obtain ⟨value, hvalue⟩ := exists_ofLiterals_eq d (Expansion.ofRules d.rules t).text
        rw [hvalue]
        split
        · rename_i hfull
          exact Or.inl ⟨Or.inr (Or.inr (Or.inr hfull)), value, rfl⟩
        · rename_i hfull
          exact Or.inr ⟨by simp [hfull], value, rfl⟩

/-- The verdict on every text. The text is resolved if and only if it is concluded in one of the
four ways or the dictionary accounts for every maximal run of letters of the outcome. The tokens
are empty exactly if it is resolved; otherwise they are the maximal runs of letters of the outcome
for which the dictionary does not account, from left to right and as often as they occur. -/
theorem resolve_verdict (d : Dictionary) (t : Text) :
    ∃ found, MaximalRuns isLetter (d.resolve t).value found ∧
      ((d.resolve t).resolved = true ↔ d.Concludes t ∨
        ∀ run ∈ found, d.Accounts (Expansion.ofRules d.rules t).text run) ∧
      ((d.resolve t).tokens = [] ↔ (d.resolve t).resolved = true) ∧
      (d.resolve t).tokens = if (d.resolve t).resolved then [] else
        found.filter fun run => ¬ d.Accounts (Expansion.ofRules d.rules t).text run := by
  refine ⟨_, maximalRuns_iff.mpr rfl, ?_⟩
  rcases d.exists_resolve_eq t with ⟨hconcludes, value, heq⟩ | ⟨hopen, value, heq⟩
  · rw [heq]
    simp [Resolution.complete, hconcludes]
  · rw [heq, byLetters, leftover_eq]
    refine ⟨?_, List.isEmpty_iff.symm, ?_⟩
    · rw [List.isEmpty_iff, List.filter_eq_nil_iff]
      simp [hopen]
    · split
      · rename_i hempty
        exact List.isEmpty_iff.mp hempty
      · rfl

/-- A part of an ignored literal is accounted for, and a token that occurs twice is told twice. -/
example :
    let d : Dictionary := { words := ⟨[⟨['a'], ['b']⟩], by simp⟩, ignores := [['x', '-', 'y']] }
    d.resolve "a x-y a".toList = ⟨false, "b x-y b".toList, [['b'], ['b']]⟩ := by decide

end Dictionary

end Phrasebook
