import Phrasebook.Proofs.Ledger.Storage

/-!
A ledger and its file through a session of recordings, loads, reconciliations and flushes, in any
order. A load replaces the ledger by what the file says and a flush the file by what the ledger
holds, so neither may forget what only the other knows. What carries a session is that the file
has a line for every input of the ledger: a recording adds to both, and a reconciliation takes
away from the ledger only.
-/

namespace Phrasebook.Ledger

open Text FileSystem

inductive Operation where
  | record (e : Entry)
  | load
  | reconcile (d : Dictionary)
  | flush

/-- Does an operation. A recording answers whether the entry was new, the others answer yes. -/
def Operation.perform (path : Text) (l : Ledger) :
    Operation → Disk (Ledger × Except LedgerError Bool)
  | .record e => l.recordAndAppend path e
  | .load => do
    match ← Ledger.load path with
    | .error fault => pure (l, .error fault)
    | .ok l' => pure (l', .ok true)
  | .reconcile d => pure (l.reconcile d, .ok true)
  | .flush => do
    match ← l.flush path with
    | .error fault => pure (l, .error fault)
    | .ok () => pure (l, .ok true)

/-- The disk did not fail an operation: if it ended in an error, an entry without an input was
refused. -/
def Faultless (op : Operation) (r : Except LedgerError Bool) : Prop :=
  ∀ fault, r = .error fault → ∃ e, op = .record e ∧ e.input = []

/-- Operations one after the other, with their answers. Nothing else writes to the disk. -/
inductive Run (path : Text) (l₀ : Ledger) (fs₀ : FileSystem) :
    List (Operation × Except LedgerError Bool) → Ledger → FileSystem → Prop
  | nil : Run path l₀ fs₀ [] l₀ fs₀
  | snoc {l l' : Ledger} {fs fs' : FileSystem} {op : Operation} {r : Except LedgerError Bool}
      {trace : List (Operation × Except LedgerError Bool)} (hrun : Run path l₀ fs₀ trace l fs)
      (hdone : op.perform path l fs = ((l', r), fs')) (hfile : Faultless op r) :
      Run path l₀ fs₀ (trace ++ [(op, r)]) l' fs'

/-- The file consists of lines for some entries, and each input of the ledger is among theirs. -/
structure Covered (path : Text) (l : Ledger) (fs : FileSystem) : Prop where
  written : ∃ es, (∀ e ∈ es, e.input ≠ []) ∧ fs.contents path = .ok (Utf8.encode (linesOf es)) ∧
    ∀ input, l.contains input = true → ∃ e ∈ es, e.input = input

/-- What one operation does to a covered ledger: it stays covered, a new entry is in it, and only
a dictionary that resolves an input takes it out again. -/
structure Upholds (path : Text) (l : Ledger) (op : Operation) (r : Except LedgerError Bool)
    (l' : Ledger) (fs' : FileSystem) : Prop where
  covered : Covered path l' fs'
  records : ∀ e, op = .record e → r = .ok true → l'.contains e.input = true
  keeps : ∀ input, l.contains input = true →
    (∀ d, op = .reconcile d → (d.resolve input).resolved = false) → l'.contains input = true

section Step

variable {path : Text} {l l' : Ledger} {fs fs' : FileSystem} {r : Except LedgerError Bool}

/-- The file is read as a ledger with at least the same inputs. -/
theorem Covered.contents (h : Covered path l fs) : ∃ bytes, fs.contents path = .ok bytes ∧
    ∀ input, l.contains input = true → (ofBytes bytes).contains input = true := by
  obtain ⟨es, hinputs, hread, hcover⟩ := h.written
  exact ⟨_, hread, fun input hinput =>
    (contains_ofBytes_linesOf hinputs).mpr (hcover input hinput)⟩

theorem Covered.input_ne (h : Covered path l fs) : ∀ e ∈ l.entries, e.input ≠ [] := by
  obtain ⟨es, hinputs, -, hcover⟩ := h.written
  intro e he
  obtain ⟨e', he', heq⟩ := hcover e.input (contains_iff.mpr ⟨e, he, rfl⟩)
  exact heq ▸ hinputs e' he'

/-- A flush writes a line for each entry. -/
theorem covered_of_flush (hinputs : ∀ e ∈ l.entries, e.input ≠ [])
    (hflush : l.flush path fs = (.ok (), fs')) : Covered path l fs' where
  written := ⟨l.entries, hinputs, contents_flush hflush, fun _ hinput => contains_iff.mp hinput⟩

/-- The line of a new entry stands behind those of the others. -/
theorem Covered.append {e : Entry} (h : Covered path l fs) (hinput : e.input ≠ [])
    (happend : append path e fs = (.ok (), fs')) : Covered path (l.insert e) fs' := by
  obtain ⟨es, hinputs, hread, hcover⟩ := h.written
  refine ⟨es ++ [e], ?_, contents_append_linesOf hread happend, ?_⟩
  · intro a ha
    rcases List.mem_append.mp ha with ha | ha
    · exact hinputs a ha
    · exact List.mem_singleton.mp ha ▸ hinput
  · intro input hcontains
    rcases contains_insert.mp hcontains with heq | hold
    · exact ⟨e, by simp, heq⟩
    · obtain ⟨a, ha, heq⟩ := hcover input hold
      exact ⟨a, List.mem_append_left _ ha, heq⟩

theorem Covered.record {e : Entry} (h : Covered path l fs)
    (hdone : l.recordAndAppend path e fs = ((l', r), fs')) (hfile : Faultless (.record e) r) :
    Upholds path l (.record e) r l' fs' := by
  rcases recordAndAppend_cases hdone with ⟨-, rfl, rfl, rfl⟩ | ⟨-, -, rfl, rfl, rfl⟩ |
    ⟨hinput, -, rfl, happend⟩
  · refine ⟨h, fun e he hnew => ?_, fun _ hold _ => hold⟩
    cases hnew
  · refine ⟨h, fun e he hnew => ?_, fun _ hold _ => hold⟩
    cases hnew
  · rcases happend with ⟨fault, happend, rfl⟩ | ⟨happend, rfl⟩
    · obtain ⟨_, hrefused, hnone⟩ := hfile fault rfl
      cases hrefused
      exact absurd hnone hinput
    · refine ⟨h.append hinput happend, fun e he _ => ?_, fun _ hold _ => ?_⟩
      · cases he
        exact contains_insert.mpr (Or.inl rfl)
      · exact contains_insert.mpr (Or.inr hold)

/-- The file has all that the ledger held. -/
theorem Covered.load (h : Covered path l fs)
    (hdone : Operation.load.perform path l fs = ((l', r), fs')) :
    Upholds path l .load r l' fs' := by
  obtain ⟨es, hinputs, hread, hcover⟩ := h.written
  simp only [Operation.perform, Disk.bind_apply, load_of_contents hread, Disk.pure_apply] at hdone
  cases hdone
  refine ⟨⟨es, hinputs, hread, fun _ hinput => (contains_ofBytes_linesOf hinputs).mp hinput⟩, ?_,
    fun input hold _ => (contains_ofBytes_linesOf hinputs).mpr (hcover input hold)⟩
  intro e he
  cases he

/-- A reconciliation leaves the file alone and adds nothing to the ledger. -/
theorem Covered.reconcile (d : Dictionary) (h : Covered path l fs) :
    Upholds path l (.reconcile d) (.ok true) (l.reconcile d) fs := by
  obtain ⟨es, hinputs, hread, hcover⟩ := h.written
  refine ⟨⟨es, hinputs, hread, fun input hinput => ?_⟩, ?_, fun input hold hopen => ?_⟩
  · exact hcover input (contains_reconcile.mp hinput).1
  · intro e he
    cases he
  · exact contains_reconcile.mpr ⟨hold, hopen d rfl⟩

theorem Covered.flush (h : Covered path l fs)
    (hdone : Operation.flush.perform path l fs = ((l', r), fs')) (hfile : Faultless .flush r) :
    Upholds path l .flush r l' fs' := by
  simp only [Operation.perform, Disk.bind_apply] at hdone
  cases hflush : l.flush path fs with
  | mk outcome fs₁ =>
    cases outcome with
    | error fault =>
      simp only [hflush, Disk.pure_apply] at hdone
      cases hdone
      obtain ⟨_, hrefused, -⟩ := hfile fault rfl
      cases hrefused
    | ok u =>
      simp only [hflush, Disk.pure_apply] at hdone
      cases hdone
      refine ⟨covered_of_flush h.input_ne hflush, ?_, fun _ hold _ => hold⟩
      intro e he
      cases he

/-- What each operation does to a covered ledger. -/
theorem Covered.perform {op : Operation} (h : Covered path l fs)
    (hdone : op.perform path l fs = ((l', r), fs')) (hfile : Faultless op r) :
    Upholds path l op r l' fs' := by
  cases op with
  | record e => exact h.record hdone hfile
  | load => exact h.load hdone
  | reconcile d =>
    simp only [Operation.perform, Disk.pure_apply] at hdone
    cases hdone
    exact h.reconcile d
  | flush => exact h.flush hdone hfile

end Step

/-- A covered ledger stays covered through a session, and a new entry stays in it until a
dictionary resolves its input. -/
theorem Run.covered {path : Text} {l₀ l : Ledger} {fs₀ fs : FileSystem}
    {trace : List (Operation × Except LedgerError Bool)} (hrun : Run path l₀ fs₀ trace l fs)
    (h : Covered path l₀ fs₀) : Covered path l fs ∧
      ∀ before e after, trace = before ++ (.record e, .ok true) :: after →
        (∀ d r, (.reconcile d, r) ∈ after → (d.resolve e.input).resolved = false) →
        l.contains e.input = true := by
  induction hrun with
  | nil =>
    refine ⟨h, fun before e after hsplit => ?_⟩
    simp at hsplit
  | snoc hrun hdone hfile ih =>
    obtain ⟨hcovered, hrecorded⟩ := ih
    have hupholds := hcovered.perform hdone hfile
    refine ⟨hupholds.covered, fun before e after hsplit hopen => ?_⟩
    -- The entry was recorded by the last operation, or it was in the ledger before it.
    rcases append_singleton_eq_append_cons hsplit with ⟨-, hlast⟩ | ⟨middle, rfl, hbefore⟩
    · cases hlast
      exact hupholds.records e rfl rfl
    · refine hupholds.keeps e.input (hrecorded before e middle hbefore ?_) ?_
      · intro d r hd
        exact hopen d r (List.mem_append_left _ hd)
      · intro d hlast
        subst hlast
        exact hopen d _ (List.mem_append_right _ (List.mem_singleton_self _))

/-- A session begins just after the flush of a ledger, whose entries have inputs as all do that are
recorded or loaded. After each operation, whatever their order, the file is read as a ledger with
at least the inputs of the one in use, and every entry that was recorded as new is in both under
its input, until a dictionary that resolves the input is used to reconcile. -/
theorem no_update_lost {path : Text} {l₀ l : Ledger} {fs fs₀ fs' : FileSystem}
    {trace : List (Operation × Except LedgerError Bool)}
    (hinputs : ∀ e ∈ l₀.entries, e.input ≠ []) (hflush : l₀.flush path fs = (.ok (), fs₀))
    (hrun : Run path l₀ fs₀ trace l fs') :
    ∃ bytes, fs'.contents path = .ok bytes ∧ l.inputs ⊆ (ofBytes bytes).inputs ∧
      ∀ before e after, trace = before ++ (.record e, .ok true) :: after →
        (∀ d r, (.reconcile d, r) ∈ after → (d.resolve e.input).resolved = false) →
        e.input ∈ l.inputs ∧ e.input ∈ (ofBytes bytes).inputs := by
  obtain ⟨hcovered, hrecorded⟩ := hrun.covered (covered_of_flush hinputs hflush)
  obtain ⟨bytes, hread, hcontains⟩ := hcovered.contents
  have hsubset : l.inputs ⊆ (ofBytes bytes).inputs := fun input hinput =>
    mem_inputs.mpr (hcontains input (mem_inputs.mp hinput))
  refine ⟨bytes, hread, hsubset, fun before e after hsplit hopen => ?_⟩
  have hmem := mem_inputs.mpr (hrecorded before e after hsplit hopen)
  exact ⟨hmem, hsubset hmem⟩

def openText : Entry := ⟨['a'], ['a'], [['a']]⟩

/-- An empty ledger is flushed to an empty disk. The text `a` is recorded, a dictionary without
words is used to reconcile, and the ledger is loaded and flushed: the text is still in both. -/
theorem no_update_lost_here : ∃ fs₀ l fs, Ledger.empty.flush ['l'] {} = (.ok (), fs₀) ∧
    Run ['l'] .empty fs₀ [(.record openText, .ok true), (.reconcile {}, .ok true),
      (.load, .ok true), (.flush, .ok true)] l fs ∧
    ∃ bytes, fs.contents ['l'] = .ok bytes ∧ ['a'] ∈ l.inputs ∧ ['a'] ∈ (ofBytes bytes).inputs := by
  let fs₀ : FileSystem := ⟨[([], .directory (.moment 4)), ([['l']], .file [] (.moment 2))], 5, {}⟩
  let fs₁ : FileSystem := ⟨[([['l']], .file [97, 61, 97, 40, 97, 41, 10] (.moment 5)),
    ([], .directory (.moment 4))], 6, {}⟩
  let fs₂ : FileSystem := ⟨[([], .directory (.moment 9)),
    ([['l']], .file [97, 61, 97, 40, 97, 41, 10] (.moment 7))], 10, {}⟩
  let l := Ledger.empty.insert openText
  have hflush : Ledger.empty.flush ['l'] {} = (.ok (), fs₀) := rfl
  have hrecord : (Operation.record openText).perform ['l'] .empty fs₀ = ((l, .ok true), fs₁) := rfl
  have hreconcile : (Operation.reconcile {}).perform ['l'] l fs₁ = ((l, .ok true), fs₁) := rfl
  have hcontents : fs₁.contents ['l'] = .ok l.toBytes := rfl
  have hlegible : ∀ e ∈ l.entries, e.Legible := by
    intro e he
    cases List.mem_singleton.mp he
    exact ⟨by decide, by decide, by decide⟩
  have hload : Operation.load.perform ['l'] l fs₁ = ((l, .ok true), fs₁) := by
    simp only [Operation.perform, Disk.bind_apply, load_of_contents hcontents,
      ofBytes_toBytes hlegible, Disk.pure_apply]
  have hagain : Operation.flush.perform ['l'] l fs₁ = ((l, .ok true), fs₂) := rfl
  have hfile : ∀ op, Faultless op (.ok true) := by
    intro op fault herror
    cases herror
  have hrun := (((Run.nil.snoc hrecord (hfile _)).snoc hreconcile (hfile _)).snoc hload
    (hfile _)).snoc hagain (hfile _)
  obtain ⟨bytes, hread, -, hkept⟩ :=
    no_update_lost (fun _ he => absurd he List.not_mem_nil) hflush hrun
  refine ⟨fs₀, l, fs₂, hflush, hrun, bytes, hread, hkept [] openText _ rfl ?_⟩
  intro d r hd
  obtain ⟨rfl, -⟩ : d = {} ∧ r = .ok true := by simpa using hd
  decide

end Phrasebook.Ledger
