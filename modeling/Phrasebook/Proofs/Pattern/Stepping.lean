import Mathlib.Logic.Relation
import Phrasebook.Pattern.Program
import Phrasebook.Proofs.Pattern.Matching

/-!
Programs at work. A program stands at an instruction and at a place of the text; each instruction
says where it may go from there. The steps of a run are counted, since one that goes through a loop
comes back to where it was.
-/

namespace Phrasebook.Pattern

/-- One instruction carried out: from an address and a place of the text to another such pair. -/
inductive Step (p : Program) (t : Text) : Nat × Nat → Nat × Nat → Prop where
  | set {a next i : Nat} {s : CharSet} {c : Char} :
      p[a]? = some (.set s next) → t[i]? = some c → s.contains c = true →
      Step p t (a, i) (next, i + 1)
  | look {a next i : Nat} {l : Look} :
      p[a]? = some (.look l next) → l.holds (before? t i) t[i]? = true → Step p t (a, i) (next, i)
  | save {a slot next i : Nat} : p[a]? = some (.save slot next) → Step p t (a, i) (next, i)
  | preferred {a x y i : Nat} : p[a]? = some (.split x y) → Step p t (a, i) (x, i)
  | other {a x y i : Nat} : p[a]? = some (.split x y) → Step p t (a, i) (y, i)

/-- So many steps that lead to the end of the program, and the place of the text there. -/
inductive Run (p : Program) (t : Text) : Nat → Nat × Nat → Nat → Prop where
  | done {a i : Nat} : p[a]? = some .done → Run p t 0 (a, i) i
  | next {n j : Nat} {x y : Nat × Nat} : Step p t x y → Run p t n y j → Run p t (n + 1) x j

abbrev Leads (p : Program) (t : Text) : Nat × Nat → Nat × Nat → Prop :=
  Relation.ReflTransGen (Step p t)

section Instructions

variable {p : Program} {t : Text} {a i j n : Nat} {y : Nat × Nat}

theorem step_set_iff {s : CharSet} {next : Nat} (ha : p[a]? = some (.set s next)) :
    Step p t (a, i) y ↔ (∃ c, t[i]? = some c ∧ s.contains c = true) ∧ y = (next, i + 1) := by
  constructor
  · intro h
    cases h with
    | set ha' hc hs =>
      rw [ha] at ha'
      cases ha'
      exact ⟨⟨_, hc, hs⟩, rfl⟩
    | _ ha' => rw [ha] at ha'; cases ha'
  · intro h
    obtain ⟨⟨c, hc, hs⟩, rfl⟩ := h
    exact .set ha hc hs

theorem step_look_iff {l : Look} {next : Nat} (ha : p[a]? = some (.look l next)) :
    Step p t (a, i) y ↔ l.holds (before? t i) t[i]? = true ∧ y = (next, i) := by
  constructor
  · intro h
    cases h with
    | look ha' hl =>
      rw [ha] at ha'
      cases ha'
      exact ⟨hl, rfl⟩
    | _ ha' => rw [ha] at ha'; cases ha'
  · intro h
    obtain ⟨hl, rfl⟩ := h
    exact .look ha hl

theorem step_save_iff {slot next : Nat} (ha : p[a]? = some (.save slot next)) :
    Step p t (a, i) y ↔ y = (next, i) := by
  constructor
  · intro h
    cases h with
    | save ha' =>
      rw [ha] at ha'
      cases ha'
      rfl
    | _ ha' => rw [ha] at ha'; cases ha'
  · intro h
    subst h
    exact .save ha

theorem step_split_iff {preferred other : Nat} (ha : p[a]? = some (.split preferred other)) :
    Step p t (a, i) y ↔ y = (preferred, i) ∨ y = (other, i) := by
  constructor
  · intro h
    cases h with
    | preferred ha' =>
      rw [ha] at ha'
      cases ha'
      exact Or.inl rfl
    | other ha' =>
      rw [ha] at ha'
      cases ha'
      exact Or.inr rfl
    | _ ha' => rw [ha] at ha'; cases ha'
  · intro h
    rcases h with rfl | rfl
    · exact .preferred ha
    · exact .other ha

theorem step_choice_iff {greedy : Bool} {body next : Nat}
    (ha : p[a]? = some (choice greedy body next)) :
    Step p t (a, i) y ↔ y = (body, i) ∨ y = (next, i) := by
  cases greedy with
  | true => exact step_split_iff ha
  | false => exact (step_split_iff ha).trans Or.comm

theorem step_body {greedy : Bool} {body next : Nat}
    (ha : p[a]? = some (choice greedy body next)) : Step p t (a, i) (body, i) :=
  (step_choice_iff ha).mpr (Or.inl rfl)

theorem step_leave {greedy : Bool} {body next : Nat}
    (ha : p[a]? = some (choice greedy body next)) : Step p t (a, i) (next, i) :=
  (step_choice_iff ha).mpr (Or.inr rfl)

theorem exists_instr_of_step {x : Nat × Nat} (h : Step p t x y) :
    ∃ instr, p[x.1]? = some instr ∧ instr ≠ .done := by
  cases h with
  | _ ha => exact ⟨_, ha, nofun⟩

theorem Run.of_done (h : Run p t n (a, i) j) (ha : p[a]? = some .done) : i = j := by
  cases h with
  | done _ => rfl
  | next hstep _ =>
    obtain ⟨instr, ha', hne⟩ := exists_instr_of_step hstep
    rw [ha] at ha'
    cases ha'
    exact absurd rfl hne

theorem Run.exists_step {instr : Instr} (h : Run p t n (a, i) j) (ha : p[a]? = some instr)
    (hne : instr ≠ .done) : ∃ m y, n = m + 1 ∧ Step p t (a, i) y ∧ Run p t m y j := by
  cases h with
  | done hdone =>
    rw [ha] at hdone
    cases hdone
    exact absurd rfl hne
  | next hstep hrest => exact ⟨_, _, rfl, hstep, hrest⟩

theorem Run.of_set {s : CharSet} {next : Nat} (h : Run p t n (a, i) j)
    (ha : p[a]? = some (.set s next)) :
    ∃ m, n = m + 1 ∧ ∃ c, t[i]? = some c ∧ s.contains c = true ∧ Run p t m (next, i + 1) j := by
  obtain ⟨m, y, rfl, hstep, hrest⟩ := h.exists_step ha nofun
  obtain ⟨⟨c, hc, hs⟩, rfl⟩ := (step_set_iff ha).mp hstep
  exact ⟨m, rfl, c, hc, hs, hrest⟩

theorem Run.of_look {l : Look} {next : Nat} (h : Run p t n (a, i) j)
    (ha : p[a]? = some (.look l next)) :
    ∃ m, n = m + 1 ∧ l.holds (before? t i) t[i]? = true ∧ Run p t m (next, i) j := by
  obtain ⟨m, y, rfl, hstep, hrest⟩ := h.exists_step ha nofun
  obtain ⟨hl, rfl⟩ := (step_look_iff ha).mp hstep
  exact ⟨m, rfl, hl, hrest⟩

theorem Run.of_save {slot next : Nat} (h : Run p t n (a, i) j)
    (ha : p[a]? = some (.save slot next)) : ∃ m, n = m + 1 ∧ Run p t m (next, i) j := by
  obtain ⟨m, y, rfl, hstep, hrest⟩ := h.exists_step ha nofun
  obtain rfl := (step_save_iff ha).mp hstep
  exact ⟨m, rfl, hrest⟩

theorem Run.of_split {x x' : Nat} (h : Run p t n (a, i) j) (ha : p[a]? = some (.split x x')) :
    ∃ m, n = m + 1 ∧ (Run p t m (x, i) j ∨ Run p t m (x', i) j) := by
  obtain ⟨m, y, rfl, hstep, hrest⟩ := h.exists_step ha nofun
  rcases (step_split_iff ha).mp hstep with rfl | rfl
  · exact ⟨m, rfl, Or.inl hrest⟩
  · exact ⟨m, rfl, Or.inr hrest⟩

theorem Run.of_choice {greedy : Bool} {body next : Nat} (h : Run p t n (a, i) j)
    (ha : p[a]? = some (choice greedy body next)) :
    ∃ m, n = m + 1 ∧ (Run p t m (body, i) j ∨ Run p t m (next, i) j) := by
  cases greedy with
  | true => exact h.of_split ha
  | false =>
    obtain ⟨m, rfl, hrest⟩ := h.of_split ha
    exact ⟨m, rfl, hrest.symm⟩

end Instructions

def Ends (p : Program) (t : Text) (x : Nat × Nat) (j : Nat) : Prop :=
  ∃ a, Leads p t x (a, j) ∧ p[a]? = some .done

theorem exists_run_of_ends {p : Program} {t : Text} {x : Nat × Nat} {j : Nat}
    (h : Ends p t x j) : ∃ n, Run p t n x j := by
  obtain ⟨a, hleads, hdone⟩ := h
  induction hleads using Relation.ReflTransGen.head_induction_on with
  | refl => exact ⟨0, .done hdone⟩
  | head hstep _ ih =>
    obtain ⟨n, hrun⟩ := ih
    exact ⟨n + 1, .next hstep hrun⟩

end Phrasebook.Pattern
