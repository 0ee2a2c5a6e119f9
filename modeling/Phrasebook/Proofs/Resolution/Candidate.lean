import Mathlib.Data.List.Sort
import Phrasebook.Proofs.Resolution.Occurrence
import Phrasebook.Resolution.Basic

/-!
Where candidates stand and in which order they are taken. The order is an insertion sort: from
left to right, longer ones first, and one that covers the whole text last, after which nothing
is taken.
-/

namespace Phrasebook

open Text

def Shield.stop (s : Shield) : Nat := s.index + s.length

def Candidate.stop (c : Candidate) : Nat := c.index + c.length

def Candidate.meets (a b : Candidate) : Prop := a.index < b.stop ∧ b.index < a.stop

/-- What a text says about a candidate that was found in it. -/
structure Candidate.Stands (t : Text) (c : Candidate) : Prop where
  key_ne : c.key ≠ []
  length_eq : c.length = width c.key
  full_iff : c.full = true ↔ c.index = 0 ∧ c.length = width t
  place : ∃ front back, t = front ++ c.key ++ back ∧ width front = c.index

namespace Candidate

theorem Stands.index_lt_stop {t : Text} {c : Candidate} (h : c.Stands t) : c.index < c.stop := by
  have hpos := width_pos h.key_ne
  have hlength := h.length_eq
  unfold stop
  omega

theorem Stands.stop_le {t : Text} {c : Candidate} (h : c.Stands t) : c.stop ≤ width t := by
  obtain ⟨front, back, ht, hindex⟩ := h.place
  have hlength := h.length_eq
  rw [ht, width_append, width_append]
  unfold stop
  omega

theorem stands_of_mem_candidates {words : List Word} {cover : List Shield} {t : Text}
    {c : Candidate} (h : c ∈ candidates words cover t) : c.Stands t := by
  obtain ⟨w, -, index, hword, -, rfl⟩ := mem_candidates_iff.mp h
  obtain ⟨front, back, ht, hindex, -, -⟩ := hword.place
  exact ⟨hword.needle_ne, rfl, by simp [ofWord], front, back, ht, hindex⟩

theorem insert_eq (c : Candidate) (cs : List Candidate) :
    c.insert cs = cs.orderedInsert (fun a b => a.precedes b = true) c := by
  induction cs with
  | nil => rfl
  | cons d cs ih => simp only [insert, List.orderedInsert, ih]

instance : Std.Total fun a b : Candidate => a.precedes b = true where
  total a b := by
    simp only [precedes]
    cases a.full <;> cases b.full <;> simp
    omega

instance : IsTrans Candidate fun a b => a.precedes b = true where
  trans a b c := by
    simp only [precedes]
    cases a.full <;> cases b.full <;> cases c.full <;> simp
    omega

end Candidate

theorem inOrder_eq_insertionSort (found : List Candidate) :
    inOrder found = found.insertionSort fun a b => a.precedes b = true := by
  induction found with
  | nil => rfl
  | cons c found ih =>
    rw [List.insertionSort_cons, ← ih, ← Candidate.insert_eq]
    rfl

theorem inOrder_perm (found : List Candidate) : (inOrder found).Perm found := by
  rw [inOrder_eq_insertionSort]
  exact List.perm_insertionSort _ found

theorem mem_inOrder {found : List Candidate} {c : Candidate} :
    c ∈ inOrder found ↔ c ∈ found :=
  (inOrder_perm found).mem_iff

theorem pairwise_inOrder (found : List Candidate) :
    (inOrder found).Pairwise fun a b => a.precedes b = true := by
  rw [inOrder_eq_insertionSort]
  exact List.pairwise_insertionSort _ found

/-- The candidates that are tried: none behind one that covers the whole text. -/
def tried : List Candidate → List Candidate
  | [] => []
  | c :: cs => if c.full then [c] else c :: tried cs

theorem tried_sublist (cs : List Candidate) : (tried cs).Sublist cs := by
  induction cs with
  | nil => exact List.Sublist.refl []
  | cons c cs ih =>
    unfold tried
    split
    · exact (List.nil_sublist cs).cons_cons c
    · exact ih.cons_cons c

theorem full_eq_false_of_tried (cs : List Candidate) :
    (tried cs).Pairwise fun a _ => a.full = false := by
  induction cs with
  | nil => exact List.Pairwise.nil
  | cons c cs ih =>
    unfold tried
    split
    · exact List.pairwise_singleton _ c
    · rename_i hfull
      exact List.pairwise_cons.mpr ⟨fun _ _ => by simpa using hfull, ih⟩

theorem tried_eq_self {cs : List Candidate} (h : ∀ c ∈ cs, c.full = false) : tried cs = cs := by
  induction cs with
  | nil => rfl
  | cons c cs ih =>
    have hrest := ih fun a ha => h a (List.mem_cons_of_mem c ha)
    simp only [tried, h c List.mem_cons_self, Bool.false_eq_true, if_false, hrest]

/-- In their order, only candidates that cover the whole text are not tried. -/
theorem mem_tried_of_not_full {cs : List Candidate} {c : Candidate}
    (h : cs.Pairwise fun a b => a.precedes b = true) (hc : c ∈ cs) (hfull : c.full = false) :
    c ∈ tried cs := by
  induction cs with
  | nil => cases hc
  | cons a cs ih =>
    obtain ⟨hfirst, hrest⟩ := List.pairwise_cons.mp h
    unfold tried
    rcases List.mem_cons.mp hc with rfl | hmem
    · simp [hfull]
    · have hprec := hfirst c hmem
      cases hafull : a.full with
      | true => simp [Candidate.precedes, hafull, hfull] at hprec
      | false =>
        rw [if_neg (by simp)]
        exact List.mem_cons_of_mem a (ih hrest hmem)

/-- Candidates of a text one after the other, as they are tried. -/
structure Lineup (t : Text) (cs : List Candidate) : Prop where
  stands : ∀ c ∈ cs, c.Stands t
  ordered : cs.Pairwise fun a b => a.full = false ∧ a.precedes b = true

theorem lineup_tried (words : List Word) (cover : List Shield) (t : Text) :
    Lineup t (tried (inOrder (candidates words cover t))) := by
  have hsub := tried_sublist (inOrder (candidates words cover t))
  refine ⟨fun c hc => ?_, ?_⟩
  · exact Candidate.stands_of_mem_candidates (mem_inOrder.mp (hsub.subset hc))
  · exact (full_eq_false_of_tried _).and ((pairwise_inOrder _).sublist hsub)

namespace Lineup

variable {t : Text} {before after : List Candidate} {c : Candidate}

theorem of_append {cs : List Candidate} (h : Lineup t (before ++ cs)) : Lineup t before :=
  ⟨fun a ha => h.stands a (List.mem_append_left _ ha), (List.pairwise_append.mp h.ordered).1⟩

theorem head (h : Lineup t (before ++ c :: after)) : c.Stands t :=
  h.stands c (by simp)

theorem precedes_head (h : Lineup t (before ++ c :: after)) {a : Candidate} (ha : a ∈ before) :
    a.full = false ∧ a.precedes c = true :=
  (List.pairwise_append.mp h.ordered).2.2 a ha c (by simp)

/-- A candidate that covers the whole text aside, those tried before begin no later. -/
theorem index_le (h : Lineup t (before ++ c :: after)) (hfull : c.full = false) {a : Candidate}
    (ha : a ∈ before) : a.index ≤ c.index := by
  obtain ⟨hafull, hprec⟩ := h.precedes_head ha
  simp only [Candidate.precedes, hafull, hfull, Bool.or_self, Bool.false_eq_true, if_false,
    Bool.or_eq_true, Bool.and_eq_true, decide_eq_true_eq, beq_iff_eq] at hprec
  omega

/-- What was tried before begins before the end of a candidate, so they meet if and only if it
ends behind the candidate's beginning. -/
theorem meets_iff (h : Lineup t (before ++ c :: after)) {a : Candidate} (ha : a ∈ before) :
    a.meets c ↔ c.index < a.stop := by
  have hstop := h.head.index_lt_stop
  have hbegin : a.index < c.stop := by
    cases hfull : c.full with
    | false =>
      have hle := h.index_le hfull ha
      omega
    | true =>
      have ha' := h.stands a (List.mem_append_left _ ha)
      have hlt := ha'.index_lt_stop
      have hle := ha'.stop_le
      obtain ⟨hindex, hlength⟩ := h.head.full_iff.mp hfull
      simp only [Candidate.stop] at *
      omega
  exact ⟨fun hmeets => hmeets.2, fun hlt => ⟨hbegin, hlt⟩⟩

end Lineup

end Phrasebook
