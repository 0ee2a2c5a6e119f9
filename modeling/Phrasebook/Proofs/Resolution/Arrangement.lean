import Phrasebook.Proofs.Resolution.Agreement

/-!
The order of candidates, told by how they stand and not by how they are sorted: those that cover
a part of the text from left to right, longer ones first, and behind them one that covers all of
it, if there is one. A list can be arranged in this way at most once, since no two candidates
stand each before the other. The candidates of a word table always can be: two of them that cover
the same bytes have the same key and are one and the same.
-/

namespace Phrasebook

open Text

namespace Candidate

/-- One candidate begins further to the left, or at the same place and is the longer one. -/
def Ahead (a b : Candidate) : Prop :=
  a.index < b.index ∨ (a.index = b.index ∧ b.length < a.length)

/-- One candidate has its place before another: it covers only a part of the text, and the other
one covers all of it or is not ahead. -/
def Before (a b : Candidate) : Prop := a.full = false ∧ (b.full = true ∨ a.Ahead b)

theorem Before.asymm {a b : Candidate} (hab : a.Before b) (hba : b.Before a) : False := by
  obtain ⟨hafull, hab⟩ := hab
  obtain ⟨hbfull, hba⟩ := hba
  simp only [hafull, hbfull, Bool.false_eq_true, false_or, Ahead] at hab hba
  omega

/-- A candidate has its place before another one exactly if that one may not be taken first. -/
theorem before_iff {a b : Candidate} : a.Before b ↔ b.precedes a = false := by
  unfold Before Ahead precedes
  cases a.full <;> cases b.full <;> simp
  omega

end Candidate

open Candidate

/-- Candidates for parts of a text from left to right, longer ones first, and at the end at most
one that covers the whole text. -/
def Arranged (cs : List Candidate) : Prop :=
  ∃ (parts : List Candidate) (whole : Option Candidate), cs = parts ++ whole.toList ∧
    (∀ c ∈ parts, c.full = false) ∧ parts.Pairwise Ahead ∧ ∀ c ∈ whole, c.full = true

theorem arranged_of_before {cs : List Candidate} (h : cs.Pairwise Before) : Arranged cs := by
  rcases List.eq_nil_or_concat cs with rfl | ⟨front, last, rfl⟩
  · exact ⟨[], none, rfl, by simp, List.Pairwise.nil, by simp⟩
  · rw [List.concat_eq_append] at h ⊢
    obtain ⟨hfront, -, hlast⟩ := List.pairwise_append.mp h
    have hpart : ∀ c ∈ front, c.full = false := fun c hc => (hlast c hc last (by simp)).1
    have hahead : front.Pairwise Ahead := by
      refine hfront.imp_of_mem fun {a b} _ hb hab => ?_
      exact hab.2.resolve_left (by simp [hpart b hb])
    cases hfull : last.full with
    | true => exact ⟨front, some last, rfl, hpart, hahead, by simpa using hfull⟩
    | false =>
      refine ⟨front ++ [last], none, by simp, ?_, ?_, by simp⟩
      · intro c hc
        rcases List.mem_append.mp hc with hmem | hmem
        · exact hpart c hmem
        · rw [List.mem_singleton.mp hmem]
          exact hfull
      · refine List.pairwise_append.mpr ⟨hahead, List.pairwise_singleton _ last, ?_⟩
        intro a ha b hb
        obtain rfl := List.mem_singleton.mp hb
        exact (hlast a ha b (by simp)).2.resolve_left (by simp [hfull])

theorem Arranged.before {cs : List Candidate} (h : Arranged cs) : cs.Pairwise Before := by
  obtain ⟨parts, whole, rfl, hpart, hahead, hwhole⟩ := h
  refine List.pairwise_append.mpr ⟨?_, ?_, ?_⟩
  · exact hahead.imp_of_mem fun {a b} ha _ hab => ⟨hpart a ha, Or.inr hab⟩
  · cases whole with
    | none => exact List.Pairwise.nil
    | some c => exact List.pairwise_singleton _ c
  · intro a ha b hb
    exact ⟨hpart a ha, Or.inl (hwhole b (Option.mem_toList.mp hb))⟩

/-- The same candidates cannot be arranged in two ways. -/
theorem Arranged.eq_of_perm {as bs : List Candidate} (ha : Arranged as) (hb : Arranged bs)
    (hperm : as.Perm bs) : as = bs :=
  List.Perm.eq_of_pairwise (fun _ _ _ _ hab hba => (hab.asymm hba).elim) ha.before hb.before hperm

/-- The candidates of a word table end up arranged: each occurs only once, and where one may be
taken before another, the other may not be taken first. -/
theorem arranged_inOrder {table : WordTable} {cover : List Shield} {t : Text}
    {found : List Candidate} (h : found.Perm (candidates table.entries cover t)) :
    Arranged (inOrder found) := by
  have hperm : (inOrder found).Perm (candidates table.entries cover t) :=
    (inOrder_perm found).trans h
  have hdistinct : (inOrder found).Pairwise (· ≠ ·) :=
    hperm.nodup_iff.mpr (nodup_candidates table.distinct cover t)
  apply arranged_of_before
  refine ((pairwise_inOrder found).and hdistinct).imp_of_mem fun {a b} ha hb hab => ?_
  obtain ⟨hprec, hne⟩ := hab
  rw [before_iff]
  -- A tie would make the two candidates one that is found twice.
  by_contra hback
  rw [Bool.not_eq_false] at hback
  exact hne (eq_of_precedes (hperm.mem_iff.mp ha) (hperm.mem_iff.mp hb) hprec hback)

/-- The order in which the candidates of a word table are taken, for all tables, shields and
texts. However the candidates come, they are brought into one and the same list. It holds each of
them once; those for parts of the text stand strictly from left to right, longer ones first where
they begin at the same place; at most one covers the whole text, and it is the last. No other list
of these candidates is arranged in this way. -/
theorem order_determined {table : WordTable} {cover : List Shield} {t : Text}
    {found : List Candidate} (h : found.Perm (candidates table.entries cover t)) :
    inOrder found = inOrder (candidates table.entries cover t) ∧
    (inOrder found).Perm found ∧
    Arranged (inOrder found) ∧
    ∀ cs, cs.Perm found → Arranged cs → cs = inOrder found := by
  have harranged := arranged_inOrder h
  refine ⟨inOrder_eq_of_perm h, inOrder_perm found, harranged, fun cs hperm hcs => ?_⟩
  exact hcs.eq_of_perm harranged (hperm.trans (inOrder_perm found).symm)

def pairWords : WordTable :=
  ⟨[⟨"ab".toList, ['X']⟩, ⟨"ab cd".toList, ['Y']⟩, ⟨"cd".toList, ['Z']⟩,
    ⟨"ab cd ef".toList, ['W']⟩], by decide⟩

/-- The longest word comes last because it is the whole text, and the second longest first. -/
theorem order_determined_pairWords :
    (candidates pairWords.entries [] "ab cd ef".toList).reverse.Perm
      (candidates pairWords.entries [] "ab cd ef".toList) ∧
    inOrder (candidates pairWords.entries [] "ab cd ef".toList).reverse =
      [⟨"ab cd".toList, ['Y'], 0, 5, false⟩, ⟨"ab".toList, ['X'], 0, 2, false⟩,
        ⟨"cd".toList, ['Z'], 3, 2, false⟩, ⟨"ab cd ef".toList, ['W'], 0, 8, true⟩] := by
  have hperm := List.reverse_perm (candidates pairWords.entries [] "ab cd ef".toList)
  refine ⟨hperm, (order_determined hperm).1.trans ?_⟩
  decide

end Phrasebook
