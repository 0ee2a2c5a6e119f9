import Mathlib.Tactic.Ring
import Phrasebook.Pattern.Search
import Phrasebook.Proofs.Pattern.Laying
import Phrasebook.Proofs.Pattern.Reaching

/-!
The search finds the leftmost match. It ticks off each instruction at each place that it comes to,
and what it has ticked off has its successors ticked off too or among the jobs that are left. So
when no job is left and no end of the program was found, everything that the program can come to
has been seen, from this start and from those before it, and none of it is an end. On the other
hand only what the program can come to is ever a job. The jobs run out, since a visit that leaves
two more has ticked something off.
-/

namespace Phrasebook.Pattern

def index (t : Text) (x : Nat × Nat) : Nat := x.1 * (t.length + 1) + x.2

theorem eq_of_index_eq {t : Text} {x y : Nat × Nat} (hx : x.2 ≤ t.length) (hy : y.2 ≤ t.length)
    (h : index t x = index t y) : x = y := by
  have hplace : x.2 = y.2 := by
    have hmod := congrArg (· % (t.length + 1)) h
    simpa [index, Nat.mul_add_mod', Nat.mod_eq_of_lt (Nat.lt_succ_of_le hx),
      Nat.mod_eq_of_lt (Nat.lt_succ_of_le hy)] using hmod
  have haddress : x.1 = y.1 := by
    rw [index, index, hplace, Nat.add_right_cancel_iff] at h
    exact Nat.eq_of_mul_eq_mul_right (Nat.succ_pos _) h
  exact Prod.ext haddress hplace

/-- What lies outside the table counts as ticked off. -/
def Seen (seen : Array Bool) (t : Text) (x : Nat × Nat) : Prop :=
  seen.getD (index t x) true = true

theorem seen_ticked_iff {seen : Array Bool} {t : Text} {x y : Nat × Nat} :
    Seen (seen.setIfInBounds (index t x) true) t y ↔ index t y = index t x ∨ Seen seen t y := by
  rw [Seen, Seen, Array.getD_eq_getD_getElem?, Array.getElem?_setIfInBounds,
    Array.getD_eq_getD_getElem?]
  by_cases heq : index t x = index t y
  · rw [if_pos heq]
    split
    · simp [heq]
    · simp [heq]
  · rw [if_neg heq]
    simp [Ne.symm heq]

/-- Ticking off what was not yet leaves fewer to tick off. -/
theorem count_ticked {seen : Array Bool} {t : Text} {x : Nat × Nat} (h : ¬ Seen seen t x) :
    (seen.setIfInBounds (index t x) true).count false + 1 = seen.count false := by
  have hlt : index t x < seen.size := by
    refine Nat.lt_of_not_le fun hle => h ?_
    simp [Seen, Array.getD_eq_getD_getElem?, hle]
  have hfalse : seen[index t x] = false := by
    simpa [Seen, Array.getD_eq_getD_getElem?, hlt] using h
  have hmem : 0 < seen.count false := Array.count_pos_iff.mpr (hfalse ▸ Array.getElem_mem hlt)
  rw [Array.setIfInBounds_def, dif_pos hlt, Array.count_set, hfalse]
  simp
  omega

theorem Step.within {p : Program} {t : Text} {x y : Nat × Nat} (h : Step p t x y)
    (hx : x.2 ≤ t.length) : y.2 ≤ t.length := by
  cases h with
  | set _ hc _ =>
    obtain ⟨hlt, -⟩ := List.getElem?_eq_some_iff.mp hc
    exact hlt
  | _ => exact hx

/-- What one visit does: nothing where it has been before, and else it ticks the place off and ends
the search, or goes on with all that can come next. -/
inductive Visited (trail : Trail) (p : Program) (t : Text) (jobs : List Job) (x : Nat × Nat) :
    Trail × Option Nat → Prop where
  | before : Seen trail.seen t x → Visited trail p t jobs x ({ trail with jobs }, none)
  | done : ¬ Seen trail.seen t x → p[x.1]? = some .done → Visited trail p t jobs x
      ({ trail with jobs, seen := trail.seen.setIfInBounds (index t x) true }, some x.2)
  | onward (new : List Job) (marks : Marks) : ¬ Seen trail.seen t x → p[x.1]? ≠ some .done →
      (∀ y : Nat × Nat, .visit y.1 y.2 ∈ new ↔ Step p t x y) → new.length ≤ 2 →
      marks.size = trail.marks.size → Visited trail p t jobs x
        (⟨new ++ jobs, trail.seen.setIfInBounds (index t x) true, marks⟩, none)

theorem visited_step (trail : Trail) (p : Program) (t : Text) (jobs : List Job) (x : Nat × Nat) :
    Visited trail p t jobs x (trail.step p t.toArray jobs (.visit x.1 x.2)) := by
  obtain ⟨a, i⟩ := x
  unfold Trail.step
  simp only [List.size_toArray, List.getElem?_toArray]
  split
  · exact .before (by assumption)
  · rename_i hseen
    have hstuck : (∀ y, ¬ Step p t (a, i) y) → p[a]? ≠ some .done → Visited trail p t jobs (a, i)
        (⟨[] ++ jobs, trail.seen.setIfInBounds (index t (a, i)) true, trail.marks⟩, none) :=
      fun hnone hne => .onward [] trail.marks hseen hne (by simp [hnone]) (Nat.zero_le _) rfl
    split
    case h_1 ha =>
      refine hstuck (fun y hstep => ?_) (by rw [ha]; nofun)
      obtain ⟨instr, ha', -⟩ := exists_instr_of_step hstep
      rw [ha] at ha'
      cases ha'
    case h_2 ha => exact .done hseen ha
    case h_3 s next ha =>
      have hne : p[a]? ≠ some .done := by rw [ha]; nofun
      split
      · rename_i c hc
        split
        · rename_i hs
          refine .onward [.visit next (i + 1)] _ hseen hne (fun y => ?_) (by simp) rfl
          simp [step_set_iff ha, hc, hs, Prod.ext_iff]
        · rename_i hs
          exact hstuck (fun y => by simp [step_set_iff ha, hc, hs]) hne
      · rename_i hc
        exact hstuck (fun y => by simp [step_set_iff ha, hc]) hne
    case h_4 l next ha =>
      have hne : p[a]? ≠ some .done := by rw [ha]; nofun
      have hbefore : (if i = 0 then none else t[i - 1]?) = before? t i := rfl
      rw [hbefore]
      split
      · rename_i hl
        refine .onward [.visit next i] _ hseen hne (fun y => ?_) (by simp) rfl
        simp [step_look_iff ha, hl, Prod.ext_iff]
      · rename_i hl
        exact hstuck (fun y => by simp [step_look_iff ha, hl]) hne
    case h_5 slot next ha =>
      have hne : p[a]? ≠ some .done := by rw [ha]; nofun
      refine .onward [.visit next i, .restore slot (trail.marks[slot]?).join] _ hseen hne
        (fun y => ?_) (by simp) Array.size_setIfInBounds
      simp [step_save_iff ha, Prod.ext_iff]
    case h_6 preferred other ha =>
      have hne : p[a]? ≠ some .done := by rw [ha]; nofun
      refine .onward [.visit preferred i, .visit other i] _ hseen hne (fun y => ?_) (by simp) rfl
      simp [step_split_iff ha, Prod.ext_iff]

/-- What has been ticked off is not the end, and its successors are ticked off or jobs. -/
structure Covers (p : Program) (t : Text) (jobs : List Job) (seen : Array Bool) : Prop where
  size : seen.size = p.size * (t.length + 1)
  undone : ∀ x, x.2 ≤ t.length → Seen seen t x → p[x.1]? ≠ some .done
  closed : ∀ x y, x.2 ≤ t.length → Seen seen t x → Step p t x y →
    Seen seen t y ∨ .visit y.1 y.2 ∈ jobs

/-- A search under way. The jobs are things that the program can come to. -/
structure Trail.Explores (trail : Trail) (p : Program) (t : Text) (origin : Nat × Nat) : Prop
    extends Covers p t trail.jobs trail.seen where
  reached : ∀ y : Nat × Nat, .visit y.1 y.2 ∈ trail.jobs → y.2 ≤ t.length ∧ Leads p t origin y
  begun : Seen trail.seen t origin ∨ .visit origin.1 origin.2 ∈ trail.jobs

/-- More than the steps that are still to come. -/
def Trail.left (trail : Trail) : Nat := trail.jobs.length + 2 * trail.seen.count false

section Search

variable {p : Program} {t : Text} {origin : Nat × Nat} {job : Job} {jobs : List Job}
  {seen : Array Bool} {marks : Marks}

theorem covers_fresh (p : Program) (t : Text) :
    Covers p t [] (Array.replicate (p.size * (t.length + 1)) false) := by
  have hnone : ∀ x : Nat × Nat, x.2 ≤ t.length →
      Seen (Array.replicate (p.size * (t.length + 1)) false) t x → p[x.1]? = none := by
    intro x hx hseen
    refine Array.getElem?_eq_none_iff.mpr (Nat.le_of_not_lt fun hlt => ?_)
    have hrow : (x.1 + 1) * (t.length + 1) ≤ p.size * (t.length + 1) :=
      Nat.mul_le_mul_right _ hlt
    have hindex : index t x < p.size * (t.length + 1) := by
      rw [Nat.succ_mul] at hrow
      unfold index
      omega
    simp [Seen, Array.getD_eq_getD_getElem?, hindex] at hseen
  refine ⟨Array.size_replicate, fun x hx hseen => ?_, fun x y hx hseen hstep => ?_⟩
  · rw [hnone x hx hseen]
    nofun
  · obtain ⟨instr, hinstr, -⟩ := exists_instr_of_step hstep
    rw [hnone x hx hseen] at hinstr
    cases hinstr

/-- A job is done with if it is no visit, or one of what has been ticked off. -/
theorem Trail.Explores.drop (h : Trail.Explores ⟨job :: jobs, seen, marks⟩ p t origin)
    (hjob : ∀ y : Nat × Nat, job = .visit y.1 y.2 → Seen seen t y) (marks' : Marks) :
    Trail.Explores ⟨jobs, seen, marks'⟩ p t origin := by
  have hrest : ∀ y : Nat × Nat, .visit y.1 y.2 ∈ job :: jobs →
      Seen seen t y ∨ .visit y.1 y.2 ∈ jobs := by
    intro y hy
    rcases List.mem_cons.mp hy with heq | hmem
    · exact Or.inl (hjob y heq.symm)
    · exact Or.inr hmem
  refine ⟨⟨h.size, h.undone, fun x y hx hseen hstep => ?_⟩, fun y hy => ?_, ?_⟩
  · exact (h.closed x y hx hseen hstep).elim Or.inl (hrest y)
  · exact h.reached y (List.mem_cons_of_mem job hy)
  · exact h.begun.elim Or.inl (hrest origin)

/-- The search goes on from what it visits for the first time. -/
theorem Trail.Explores.advance {x : Nat × Nat} {new : List Job}
    (h : Trail.Explores ⟨.visit x.1 x.2 :: jobs, seen, marks⟩ p t origin)
    (hne : p[x.1]? ≠ some .done) (hnew : ∀ y : Nat × Nat, .visit y.1 y.2 ∈ new ↔ Step p t x y)
    (marks' : Marks) :
    Trail.Explores ⟨new ++ jobs, seen.setIfInBounds (index t x) true, marks'⟩ p t origin := by
  obtain ⟨hx, hleads⟩ := h.reached x List.mem_cons_self
  have hcases : ∀ y, y.2 ≤ t.length → Seen (seen.setIfInBounds (index t x) true) t y →
      y = x ∨ Seen seen t y := by
    intro y hy hseen
    exact (seen_ticked_iff.mp hseen).imp (eq_of_index_eq hy hx) id
  have hrest : ∀ y : Nat × Nat, Seen seen t y ∨ .visit y.1 y.2 ∈ Job.visit x.1 x.2 :: jobs →
      Seen (seen.setIfInBounds (index t x) true) t y ∨ .visit y.1 y.2 ∈ new ++ jobs := by
    intro y hy
    rcases hy with hseen | hmem
    · exact Or.inl (seen_ticked_iff.mpr (Or.inr hseen))
    · rcases List.mem_cons.mp hmem with heq | hmem
      · obtain rfl : y = x := Prod.ext (Job.visit.inj heq).1 (Job.visit.inj heq).2
        exact Or.inl (seen_ticked_iff.mpr (Or.inl rfl))
      · exact Or.inr (List.mem_append_right new hmem)
  refine ⟨⟨?_, fun y hy hseen => ?_, fun y z hy hseen hstep => ?_⟩, fun y hy => ?_, ?_⟩
  · exact Array.size_setIfInBounds.trans h.size
  · rcases hcases y hy hseen with rfl | hold
    · exact hne
    · exact h.undone y hy hold
  · rcases hcases y hy hseen with rfl | hold
    · exact Or.inr (List.mem_append_left jobs ((hnew z).mpr hstep))
    · exact hrest z (h.closed y z hy hold hstep)
  · rcases List.mem_append.mp hy with hmem | hmem
    · have hstep := (hnew y).mp hmem
      exact ⟨hstep.within hx, hleads.tail hstep⟩
    · exact h.reached y (List.mem_cons_of_mem _ hmem)
  · exact hrest origin h.begun

/-- One job brings the search nearer to its end, unless it has found one of the program. -/
theorem Trail.Explores.step (h : Trail.Explores ⟨job :: jobs, seen, marks⟩ p t origin) :
    (∃ trail', Trail.step ⟨job :: jobs, seen, marks⟩ p t.toArray jobs job = (trail', none) ∧
      trail'.Explores p t origin ∧ trail'.left < Trail.left ⟨job :: jobs, seen, marks⟩ ∧
      trail'.marks.size = marks.size) ∨
    ∃ trail' j, Trail.step ⟨job :: jobs, seen, marks⟩ p t.toArray jobs job = (trail', some j) ∧
      Ends p t origin j ∧ trail'.marks.size = marks.size := by
  cases job with
  | restore slot mark =>
    refine Or.inl ⟨_, rfl, h.drop nofun _, ?_, Array.size_setIfInBounds⟩
    simp [Trail.left]
  | visit a i =>
    have hvisit := visited_step ⟨.visit a i :: jobs, seen, marks⟩ p t jobs (a, i)
    generalize Trail.step ⟨.visit a i :: jobs, seen, marks⟩ p t.toArray jobs (.visit a i) = result
      at hvisit ⊢
    cases hvisit with
    | before hseen =>
      refine Or.inl ⟨_, rfl, h.drop (fun y hy => ?_) _, ?_, rfl⟩
      · cases hy
        exact hseen
      · simp [Trail.left]
    | done hseen hdone =>
      exact Or.inr ⟨_, i, rfl, ⟨a, (h.reached (a, i) List.mem_cons_self).2, hdone⟩, rfl⟩
    | onward new marks' hseen hne hnew hlength hsize =>
      refine Or.inl ⟨_, rfl, h.advance hne hnew marks', ?_, hsize⟩
      have hcount := count_ticked hseen
      simp only [Trail.left, List.length_append, List.length_cons]
      dsimp only at hcount
      omega

/-- With steps enough the search comes to its end: either all its jobs are done, or it has found an
end of the program. -/
theorem Trail.Explores.run {trail : Trail} (h : trail.Explores p t origin) {fuel : Nat}
    (hfuel : trail.left ≤ fuel) :
    (∃ trail', trail.run p t.toArray fuel = (trail', none) ∧ trail'.Explores p t origin ∧
      trail'.jobs = []) ∨
    ∃ trail' j, trail.run p t.toArray fuel = (trail', some j) ∧ Ends p t origin j ∧
      trail'.marks.size = trail.marks.size := by
  induction fuel generalizing trail with
  | zero =>
    refine Or.inl ⟨trail, rfl, h, List.eq_nil_of_length_eq_zero ?_⟩
    unfold Trail.left at hfuel
    omega
  | succ fuel ih =>
    obtain ⟨jobs, seen, marks⟩ := trail
    cases jobs with
    | nil => exact Or.inl ⟨_, rfl, h, rfl⟩
    | cons job jobs =>
      rw [Trail.run]
      dsimp only
      rcases h.step with ⟨trail', hstep, h', hless, hsize⟩ | ⟨trail', j, hstep, hends, hsize⟩
      · rw [hstep, ← hsize]
        exact ih h' (by omega)
      · rw [hstep]
        exact Or.inr ⟨trail', j, rfl, hends, hsize⟩

theorem Covers.seen_of_leads (h : Covers p t [] seen) {x y : Nat × Nat} (hx : x.2 ≤ t.length)
    (hseen : Seen seen t x) (hleads : Leads p t x y) : y.2 ≤ t.length ∧ Seen seen t y := by
  induction hleads with
  | refl => exact ⟨hx, hseen⟩
  | tail _ hstep ih =>
    obtain ⟨hy, hseen'⟩ := ih
    refine ⟨hstep.within hy, ?_⟩
    rcases h.closed _ _ hy hseen' hstep with hnext | hmem
    · exact hnext
    · cases hmem

/-- When nothing is left to do, the program has no end that could be reached. -/
theorem Covers.not_ends (h : Covers p t [] seen) {x : Nat × Nat} (hx : x.2 ≤ t.length)
    (hseen : Seen seen t x) (j : Nat) : ¬ Ends p t x j := by
  intro hends
  obtain ⟨a, hleads, hdone⟩ := hends
  obtain ⟨hj, hlast⟩ := h.seen_of_leads hx hseen hleads
  exact h.undone (a, j) hj hlast hdone

theorem Covers.explores (h : Covers p t [] seen) {a i : Nat} (hi : i ≤ t.length) (marks : Marks) :
    Trail.Explores ⟨[.visit a i], seen, marks⟩ p t (a, i) where
  size := h.size
  undone := h.undone
  closed := fun x y hx hseen hstep =>
    (h.closed x y hx hseen hstep).imp_right fun hmem => absurd hmem List.not_mem_nil
  reached := fun y hy => by
    obtain ⟨haddress, hplace⟩ := Job.visit.inj (List.mem_singleton.mp hy)
    obtain rfl : y = (a, i) := Prod.ext haddress hplace
    exact ⟨hi, .refl⟩
  begun := Or.inr (List.mem_singleton.mpr rfl)

theorem Covers.left_le (h : Covers p t [] seen) (job : Job) (marks : Marks) :
    Trail.left ⟨[job], seen, marks⟩ ≤ searchBound p t.toArray := by
  have hcount : seen.count false ≤ p.size * (t.length + 1) := h.size ▸ Array.count_le_size
  simp only [Trail.left, searchBound, List.length_singleton, List.size_toArray]
  have hexpand : 3 * (p.size + 1) * (t.length + 2) =
      3 * (p.size * (t.length + 1)) + 3 * p.size + 3 * (t.length + 2) := by ring
  omega

/-- The span of a match is noted in the first two slots. -/
theorem group?_zero {i j : Nat} (hsize : 2 ≤ marks.size) :
    Marks.group? ((marks.setIfInBounds 0 (some i)).setIfInBounds 1 (some j)) 0 = some (i, j) := by
  have hfirst : 0 < marks.size := by omega
  have hsecond : 1 < marks.size := by omega
  simp [Marks.group?, hfirst, hsecond]

/-- The search from one place after the other stops at the first from which the program has an end,
and at none if there is no such place. -/
theorem searchFrom_cases (entry : Nat) {slots : Nat} (hslots : 2 ≤ slots) {count start : Nat}
    (hseen : Covers p t [] seen) (hcount : start + count ≤ t.length + 1) :
    (searchFrom p entry t.toArray slots count start seen = none ∧
      ∀ i j, start ≤ i → i < start + count → ¬ Ends p t (entry, i) j) ∨
    ∃ marks i j, searchFrom p entry t.toArray slots count start seen = some marks ∧
      marks.group? 0 = some (i, j) ∧ start ≤ i ∧ i < start + count ∧ Ends p t (entry, i) j ∧
      ∀ i' j', start ≤ i' → i' < i → ¬ Ends p t (entry, i') j' := by
  induction count generalizing start seen with
  | zero => exact Or.inl ⟨rfl, fun i j hle hlt => absurd hlt (Nat.not_lt.mpr hle)⟩
  | succ count ih =>
    have hstart : start ≤ t.length := by omega
    rw [searchFrom]
    rcases (hseen.explores hstart _).run (hseen.left_le (.visit entry start) _) with
      ⟨trail', hrun, hdone, hnone⟩ | ⟨trail', j, hrun, hends, hsize⟩
    · have hseen' : Covers p t [] trail'.seen := hnone ▸ hdone.toCovers
      have hfirst : Seen trail'.seen t (entry, start) := by
        refine hdone.begun.resolve_right fun hmem => ?_
        rw [hnone] at hmem
        cases hmem
      have hempty : ∀ j, ¬ Ends p t (entry, start) j := hseen'.not_ends hstart hfirst
      have hsplit : ∀ i, start ≤ i → i = start ∨ start + 1 ≤ i := by omega
      have hcount' : start + 1 + count ≤ t.length + 1 := by omega
      rw [hrun]
      rcases ih hseen' hcount' with
        ⟨hnothing, hrest⟩ | ⟨marks, i, j, hfound, hgroup, hle, hlt, hends, hrest⟩
      · refine Or.inl ⟨hnothing, fun i j hi hlt => ?_⟩
        rcases hsplit i hi with rfl | hlater
        · exact hempty j
        · exact hrest i j hlater (by omega)
      · refine Or.inr ⟨marks, i, j, hfound, hgroup, by omega, by omega, hends,
          fun i' j' hi' hbefore => ?_⟩
        rcases hsplit i' hi' with rfl | hlater
        · exact hempty j'
        · exact hrest i' j' hlater hbefore
    · rw [hrun]
      have hmarks : 2 ≤ trail'.marks.size := by
        rw [hsize, Array.size_replicate]
        exact hslots
      exact Or.inr ⟨_, start, j, rfl, group?_zero hmarks, Nat.le_refl _, by omega, hends,
        fun i' j' hle hlt => absurd hlt (Nat.not_lt.mpr hle)⟩

end Search

namespace Searcher

/-- The search finds the leftmost match that begins at a place or behind it. -/
theorem find?_cases (e : Expr) (groups : Nat) (t : Text) (start : Nat) :
    ((ofExpr e groups t).find? start = none ∧ ∀ i j, start ≤ i → ¬ Matches t e i j) ∨
    ∃ marks i j, (ofExpr e groups t).find? start = some marks ∧ marks.group? 0 = some (i, j) ∧
      start ≤ i ∧ Matches t e i j ∧ ∀ i' j', start ≤ i' → Matches t e i' j' → i ≤ i' := by
  have hfind : (ofExpr e groups t).find? start = searchFrom e.program.2 e.program.1 t.toArray
      (2 * (groups + 1)) (t.length + 1 - start) start
      (Array.replicate (e.program.2.size * (t.length + 1)) false) := by
    simp only [find?, ofExpr, List.size_toArray]
  have hslots : 2 ≤ 2 * (groups + 1) := by omega
  have hends : ∀ i j, Matches t e i j ↔ i ≤ t.length ∧
      Ends e.program.2 t (e.program.1, i) j := by
    intro i j
    constructor
    · intro hmatch
      have hi := Nat.le_trans hmatch.bounds.1 hmatch.bounds.2
      exact ⟨hi, (ends_program_iff hi).mpr hmatch⟩
    · intro h
      exact (ends_program_iff h.1).mp h.2
  rw [hfind]
  by_cases hstart : start ≤ t.length + 1
  · have hcount : start + (t.length + 1 - start) = t.length + 1 := by omega
    rcases searchFrom_cases e.program.1 hslots (covers_fresh e.program.2 t) hcount.le with
      ⟨hnothing, hrest⟩ | ⟨marks, i, j, hfound, hgroup, hle, hlt, hend, hrest⟩
    · refine Or.inl ⟨hnothing, fun i j hi hmatch => ?_⟩
      obtain ⟨hlast, hend⟩ := (hends i j).mp hmatch
      exact hrest i j hi (by omega) hend
    · refine Or.inr ⟨marks, i, j, hfound, hgroup, hle, (hends i j).mpr ⟨by omega, hend⟩,
        fun i' j' hi' hmatch => ?_⟩
      exact Nat.le_of_not_lt fun hbefore => hrest i' j' hi' hbefore ((hends i' j').mp hmatch).2
  · have hcount : t.length + 1 - start = 0 := by omega
    rw [hcount]
    refine Or.inl ⟨rfl, fun i j hi hmatch => ?_⟩
    have hlast := ((hends i j).mp hmatch).1
    omega

section All

variable {e : Expr} {groups : Nat} {t : Text}

theorem allFrom_eq_nil {start : Nat} (h : ∀ i j, start ≤ i → ¬ Matches t e i j) (fuel : Nat)
    (last : Option Nat) : (ofExpr e groups t).allFrom fuel start last = [] := by
  cases fuel with
  | zero => rfl
  | succ fuel =>
    rcases find?_cases e groups t start with ⟨hnothing, -⟩ | ⟨marks, i, j, -, -, hle, hmatch, -⟩
    · rw [allFrom, hnothing]
    · exact absurd hmatch (h i j hle)

theorem of_mem_allFrom {fuel start : Nat} {last : Option Nat} {marks : Marks}
    (hmem : marks ∈ (ofExpr e groups t).allFrom fuel start last) :
    ∃ i j, marks.group? 0 = some (i, j) ∧ start ≤ i ∧ Matches t e i j := by
  induction fuel generalizing start last with
  | zero => cases hmem
  | succ fuel ih =>
    rw [allFrom] at hmem
    rcases find?_cases e groups t start with
      ⟨hnothing, -⟩ | ⟨found, i, j, hfound, hgroup, hle, hmatch, -⟩
    · rw [hnothing] at hmem
      cases hmem
    · rw [hfound] at hmem
      dsimp only at hmem
      rw [hgroup] at hmem
      dsimp only at hmem
      split at hmem
      · obtain ⟨i', j', hgroup', hle', hmatch'⟩ := ih hmem
        exact ⟨i', j', hgroup', by omega, hmatch'⟩
      · rcases List.mem_cons.mp hmem with rfl | hmem
        · exact ⟨i, j, hgroup, hle, hmatch⟩
        · obtain ⟨i', j', hgroup', hle', hmatch'⟩ := ih hmem
          have hij := hmatch.bounds.1
          exact ⟨i', j', hgroup', by omega, hmatch'⟩

/-- What the search gives are matches. -/
theorem of_mem_all {marks : Marks} (hmem : marks ∈ (ofExpr e groups t).all) :
    ∃ i j, marks.group? 0 = some (i, j) ∧ Matches t e i j := by
  obtain ⟨i, j, hgroup, -, hmatch⟩ := of_mem_allFrom hmem
  exact ⟨i, j, hgroup, hmatch⟩

/-- Where nothing but the whole text can be matched, the search gives that match and no other. -/
theorem all_of_whole (groups : Nat) (hmatch : Matches t e 0 t.length)
    (hwhole : ∀ i j, Matches t e i j → i = 0 ∧ j = t.length) :
    ∃ marks, (ofExpr e groups t).all = [marks] ∧ marks.group? 0 = some (0, t.length) := by
  have hfound : ∃ marks, (ofExpr e groups t).find? 0 = some marks ∧
      marks.group? 0 = some (0, t.length) := by
    rcases find?_cases e groups t 0 with
      ⟨-, hnone⟩ | ⟨marks, i, j, hfound, hgroup, -, hmatch', -⟩
    · exact absurd hmatch (hnone 0 t.length (Nat.le_refl 0))
    · obtain ⟨rfl, rfl⟩ := hwhole i j hmatch'
      exact ⟨marks, hfound, hgroup⟩
  obtain ⟨marks, hfound, hgroup⟩ := hfound
  have hlater : ∀ start, 0 < start → ∀ i j, start ≤ i → ¬ Matches t e i j := by
    intro start hstart i j hi hmatch'
    have hzero := (hwhole i j hmatch').1
    omega
  -- An empty text is found once more at its end, and then left out.
  have hrest : ∀ fuel, (ofExpr e groups t).allFrom (fuel + 1) t.length (some t.length) = [] := by
    intro fuel
    by_cases hempty : t.length = 0
    · rw [allFrom, hempty, hfound]
      dsimp only
      rw [hgroup]
      dsimp only
      rw [hempty, if_pos ⟨rfl, rfl⟩]
      exact allFrom_eq_nil (hlater 1 Nat.one_pos) _ _
    · exact allFrom_eq_nil (hlater _ (Nat.pos_of_ne_zero hempty)) _ _
  have hsize : (ofExpr e groups t).text.size = t.length := List.size_toArray
  refine ⟨marks, ?_, hgroup⟩
  rw [all, hsize, allFrom, hfound]
  dsimp only
  rw [hgroup]
  dsimp only
  rw [if_neg (fun h => nomatch h.2), hrest]

end All

end Searcher

end Phrasebook.Pattern
