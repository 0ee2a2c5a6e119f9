import Phrasebook.Proofs.Text.Lines

/-!
Runs of a text, told without cutting it at separators: stretches with a property, as long as
they can be, with stretches without it before, between and behind them. There is exactly one
such list of runs, and it is the one that is computed.
-/

namespace Phrasebook.Text

/-- A sequence taken apart into its longest stretches with a property, from left to right. -/
inductive MaximalRuns {α : Type} (inRun : α → Bool) : List α → List (List α) → Prop
  | gap {gap : List α} (hgap : ∀ a ∈ gap, inRun a = false) : MaximalRuns inRun gap []
  | run (gap run : List α) {rest : List α} {found : List (List α)}
      (hgap : ∀ a ∈ gap, inRun a = false) (hne : run ≠ []) (hrun : ∀ a ∈ run, inRun a = true)
      (hend : ∀ a ∈ rest.head?, inRun a = false) (hrest : MaximalRuns inRun rest found) :
      MaximalRuns inRun (gap ++ run ++ rest) (run :: found)

section Runs

variable {α : Type} {inRun : α → Bool}

theorem runs_gap_append {gap : List α} (t : List α) (h : ∀ a ∈ gap, inRun a = false) :
    runs inRun (gap ++ t) = runs inRun t := by
  induction gap with
  | nil => rfl
  | cons a gap ih =>
    rw [← ih fun b hb => h b (List.mem_cons_of_mem a hb)]
    simp [runs, pieces, h a List.mem_cons_self]

/-- A run is found as a whole where an element without the property ends it. -/
theorem runs_run_append {run rest : List α} (hne : run ≠ []) (hrun : ∀ a ∈ run, inRun a = true)
    (hend : ∀ a ∈ rest.head?, inRun a = false) :
    runs inRun (run ++ rest) = run :: runs inRun rest := by
  have hpart : ∀ a ∈ run, (!inRun a) = false := fun a ha => by simp [hrun a ha]
  have hkeep : (!run.isEmpty) = true := by simpa using hne
  cases rest with
  | nil =>
    rw [List.append_nil, runs, pieces_of_forall_not hpart]
    simp [runs, pieces, hne]
  | cons a rest =>
    have ha : inRun a = false := hend a (by simp)
    have hskip : runs inRun ([a] ++ rest) = runs inRun rest :=
      runs_gap_append rest (by simpa using ha)
    rw [List.singleton_append] at hskip
    rw [hskip, runs, pieces_append_cons hpart (by simp [ha]),
      List.filter_cons_of_pos (by simpa using hkeep)]
    rfl

theorem MaximalRuns.runs_eq {t : List α} {found : List (List α)}
    (h : MaximalRuns inRun t found) : runs inRun t = found := by
  induction h with
  | @gap gap hgap =>
    rw [← List.append_nil gap, runs_gap_append [] hgap]
    rfl
  | run gap run hgap hne hrun hend hrest ih =>
    rw [List.append_assoc, runs_gap_append _ hgap, runs_run_append hne hrun hend, ih]

/-- Every sequence can be taken apart: one more element at its front joins the gap there or the
run there, or is a run of its own. -/
theorem exists_maximalRuns (inRun : α → Bool) (t : List α) :
    ∃ found, MaximalRuns inRun t found := by
  induction t with
  | nil => exact ⟨[], .gap (by simp)⟩
  | cons a t ih =>
    obtain ⟨found, h⟩ := ih
    cases ha : inRun a with
    | false =>
      cases h with
      | gap hgap => exact ⟨[], .gap (by simpa [ha] using hgap)⟩
      | run gap run hgap hne hrun hend hrest =>
        have hgap' : ∀ b ∈ a :: gap, inRun b = false := by simpa [ha] using hgap
        exact ⟨_, .run (a :: gap) run hgap' hne hrun hend hrest⟩
    | true =>
      have halone : ∀ b ∈ [a], inRun b = true := by simp [ha]
      cases h with
      | gap hgap =>
        have hend : ∀ b ∈ t.head?, inRun b = false := fun b hb =>
          hgap b (List.mem_of_mem_head? hb)
        exact ⟨_, .run [] [a] (by simp) (by simp) halone hend (.gap hgap)⟩
      | run gap run hgap hne hrun hend hrest =>
        cases gap with
        | nil =>
          have hrun' : ∀ b ∈ a :: run, inRun b = true := by simpa [ha] using hrun
          exact ⟨_, .run [] (a :: run) (by simp) (by simp) hrun' hend hrest⟩
        | cons b gap =>
          have hend' : ∀ x ∈ some b, inRun x = false := by
            simpa using hgap b List.mem_cons_self
          exact ⟨_, .run [] [a] (by simp) (by simp) halone hend'
            (.run (b :: gap) run hgap hne hrun hend hrest)⟩

theorem maximalRuns_iff {t : List α} {found : List (List α)} :
    MaximalRuns inRun t found ↔ runs inRun t = found := by
  constructor
  · exact MaximalRuns.runs_eq
  · intro hruns
    obtain ⟨found', h⟩ := exists_maximalRuns inRun t
    rw [← hruns, h.runs_eq]
    exact h

theorem eq_false_of_runs_eq_nil {t : List α} (h : runs inRun t = []) :
    ∀ a ∈ t, inRun a = false := by
  cases maximalRuns_iff.mpr h with
  | gap hgap => exact hgap

end Runs

end Phrasebook.Text
