import Phrasebook.Proofs.Ledger.Entries

/-!
Reconciling one entry after the other. First every input of the ledger is resolved. Then the
outcomes are brought in one by one: an entry is taken out or brought up to date, and counted. As no
input comes twice, no outcome meets what an earlier one has left, so all of them together leave
what resolving the whole ledger at once leaves. What was stored before plays no part in it.
-/

namespace Phrasebook

open Text

namespace Ledger

def erase (l : Ledger) (input : Text) : Ledger :=
  ⟨l.entries.filter fun e => e.input != input, l.ordered.filter _⟩

def outcomes (l : Ledger) (d : Dictionary) : List (Text × Resolution) :=
  l.inputs.map fun input => (input, d.resolve input)

/-- A ledger into which outcomes are brought, and the count of what became of its entries. -/
structure Settling where
  ledger : Ledger
  done : Reconciliation := ⟨0, 0⟩
deriving DecidableEq, Repr

/-- Brings in one outcome: what is resolved is taken out, and an entry that stays gets the new draft
and the new tokens. An input that has no entry does not count. -/
def Settling.settle (s : Settling) (outcome : Text × Resolution) : Settling :=
  let (input, r) := outcome
  if r.resolved then
    if s.ledger.contains input then
      ⟨s.ledger.erase input, { s.done with resolved := s.done.resolved + 1 }⟩
    else s
  else
    match s.ledger.get? input with
    | some e =>
      ⟨s.ledger.insert { e with draft := r.value, tokens := r.tokens },
        { s.done with remaining := s.done.remaining + 1 }⟩
    | none => s

def settleAll (l : Ledger) (outcomes : List (Text × Resolution)) : Settling :=
  outcomes.foldl Settling.settle { ledger := l }

theorem get?_erase (l : Ledger) (input input' : Text) :
    (l.erase input).get? input' = if input = input' then none else l.get? input' := by
  unfold get? erase
  rw [List.find?_filter]
  by_cases h : input = input'
  · rw [if_pos h, List.find?_eq_none]
    intro e _
    simp [h]
  · rw [if_neg h]
    congr 1
    funext e
    by_cases he : e.input = input'
    · simp [he, Ne.symm h]
    · simp [he]

theorem inputs_erase (l : Ledger) (input : Text) :
    (l.erase input).inputs = l.inputs.erase input := by
  rw [l.nodup_inputs.erase_eq_filter, inputs, inputs, erase, List.filter_map]
  rfl

theorem length_inputs (l : Ledger) : l.inputs.length = l.size := List.length_map ..

theorem size_erase {l : Ledger} {input : Text} (h : l.contains input = true) :
    (l.erase input).size + 1 = l.size := by
  have hmem := mem_inputs.mpr h
  have hpos := List.length_pos_of_mem hmem
  rw [← length_inputs, inputs_erase, List.length_erase_of_mem hmem, ← length_inputs]
  omega

/-- An entry in place of another one makes a ledger no larger. -/
theorem size_insert {l : Ledger} {e : Entry} (h : l.contains e.input = true) :
    (l.insert e).size = l.size := by
  have hperm : (l.insert e).inputs.Perm l.inputs := by
    refine (List.perm_ext_iff_of_nodup (nodup_inputs _) l.nodup_inputs).mpr fun input => ?_
    rw [mem_inputs, mem_inputs, contains_insert]
    constructor
    · intro hmem
      rcases hmem with rfl | hold
      · exact h
      · exact hold
    · exact Or.inr
  rw [← length_inputs, hperm.length_eq, length_inputs]

namespace Settling

/-- All that an outcome can do. -/
theorem settle_cases (s : Settling) (input : Text) (r : Resolution) :
    (s.ledger.contains input = false ∧ s.settle (input, r) = s) ∨
    (s.ledger.contains input = true ∧ r.resolved = true ∧ s.settle (input, r) =
      ⟨s.ledger.erase input, s.done.resolved + 1, s.done.remaining⟩) ∨
    (s.ledger.contains input = true ∧ r.resolved = false ∧ s.settle (input, r) =
      ⟨s.ledger.insert (.ofResolution input r), s.done.resolved, s.done.remaining + 1⟩) := by
  unfold settle
  cases hcontains : s.ledger.contains input with
  | false =>
    have hget : s.ledger.get? input = none := Option.not_isSome_iff_eq_none.mp (by
      rw [← contains, hcontains]
      exact Bool.false_ne_true)
    exact Or.inl ⟨rfl, by simp [hcontains, hget]⟩
  | true =>
    obtain ⟨e, hget⟩ := Option.isSome_iff_exists.mp hcontains
    obtain ⟨-, rfl⟩ := mem_of_get? hget
    cases hresolved : r.resolved with
    | true => exact Or.inr (Or.inl ⟨rfl, rfl, by simp [hresolved, hcontains]⟩)
    | false => exact Or.inr (Or.inr ⟨rfl, rfl, by simp [hresolved, hget, Entry.ofResolution]⟩)

/-- An outcome decides what its own input leads to and leaves the others alone. -/
theorem get?_settle (s : Settling) (input : Text) (r : Resolution) (input' : Text) :
    (s.settle (input, r)).ledger.get? input' =
      if input = input' then
        if s.ledger.contains input && !r.resolved then some (.ofResolution input r) else none
      else s.ledger.get? input' := by
  rcases s.settle_cases input r with ⟨hnone, hsame⟩ | ⟨hsome, hresolved, hout⟩ |
    ⟨hsome, hopen, hnew⟩
  · rw [hsame]
    split
    · rename_i heq
      subst heq
      rw [contains, Option.isSome_eq_false_iff, Option.isNone_iff_eq_none] at hnone
      simp [contains, hnone]
    · rfl
  · rw [hout, get?_erase]
    simp [hresolved]
  · rw [hnew, get?_insert, hsome, hopen]
    rfl

theorem contains_settle_of_ne {s : Settling} {input input' : Text} (r : Resolution)
    (h : input ≠ input') :
    (s.settle (input, r)).ledger.contains input' = s.ledger.contains input' := by
  rw [contains, get?_settle, if_neg h]
  rfl

/-- What is counted as resolved is what the ledger has lost. -/
theorem resolved_add_size_settle (s : Settling) (input : Text) (r : Resolution) :
    (s.settle (input, r)).done.resolved + (s.settle (input, r)).ledger.size =
      s.done.resolved + s.ledger.size := by
  rcases s.settle_cases input r with ⟨-, hsame⟩ | ⟨hsome, -, hout⟩ | ⟨hsome, -, hnew⟩
  · rw [hsame]
  · have hsize := size_erase hsome
    rw [hout]
    dsimp only
    omega
  · rw [hnew, size_insert hsome]

/-- An entry that an outcome meets is counted once. -/
theorem resolved_add_remaining_settle {s : Settling} {input : Text} (r : Resolution)
    (h : s.ledger.contains input = true) :
    (s.settle (input, r)).done.resolved + (s.settle (input, r)).done.remaining =
      s.done.resolved + s.done.remaining + 1 := by
  rcases s.settle_cases input r with ⟨hnone, -⟩ | ⟨-, -, hout⟩ | ⟨-, -, hnew⟩
  · rw [h] at hnone
    cases hnone
  · rw [hout]
    dsimp only
    omega
  · rw [hnew]
    rfl

variable {outcomes : List (Text × Resolution)}

theorem get?_foldl_settle_of_not_mem (s : Settling) {input : Text}
    (h : input ∉ outcomes.map Prod.fst) :
    (outcomes.foldl settle s).ledger.get? input = s.ledger.get? input := by
  induction outcomes generalizing s with
  | nil => rfl
  | cons outcome outcomes ih =>
    obtain ⟨first, r⟩ := outcome
    rw [List.map_cons, List.mem_cons, not_or] at h
    rw [List.foldl_cons, ih _ h.2, get?_settle, if_neg (Ne.symm h.1)]

/-- If no input comes twice, each one leads to what its outcome says. -/
theorem get?_foldl_settle_of_mem (s : Settling) (hnodup : (outcomes.map Prod.fst).Nodup)
    {input : Text} {r : Resolution} (h : (input, r) ∈ outcomes) :
    (outcomes.foldl settle s).ledger.get? input =
      if s.ledger.contains input && !r.resolved then some (.ofResolution input r) else none := by
  induction outcomes generalizing s with
  | nil => cases h
  | cons outcome outcomes ih =>
    obtain ⟨first, r'⟩ := outcome
    obtain ⟨hfirst, hrest⟩ := List.nodup_cons.mp hnodup
    rw [List.foldl_cons]
    rcases List.mem_cons.mp h with heq | hmem
    · cases heq
      rw [get?_foldl_settle_of_not_mem _ hfirst, get?_settle, if_pos rfl]
    · have hne := ne_of_mem_of_not_mem (List.mem_map_of_mem hmem) hfirst
      rw [ih _ hrest hmem, contains_settle_of_ne r' hne.symm]

theorem resolved_add_size_foldl_settle (s : Settling) :
    (outcomes.foldl settle s).done.resolved + (outcomes.foldl settle s).ledger.size =
      s.done.resolved + s.ledger.size := by
  induction outcomes generalizing s with
  | nil => rfl
  | cons outcome outcomes ih =>
    rw [List.foldl_cons, ih, resolved_add_size_settle]

theorem resolved_add_remaining_foldl_settle (s : Settling)
    (hnodup : (outcomes.map Prod.fst).Nodup)
    (h : ∀ outcome ∈ outcomes, s.ledger.contains outcome.1 = true) :
    (outcomes.foldl settle s).done.resolved + (outcomes.foldl settle s).done.remaining =
      s.done.resolved + s.done.remaining + outcomes.length := by
  induction outcomes generalizing s with
  | nil => rfl
  | cons outcome outcomes ih =>
    obtain ⟨first, r⟩ := outcome
    obtain ⟨hfirst, hrest⟩ := List.nodup_cons.mp hnodup
    have hothers : ∀ outcome ∈ outcomes,
        (s.settle (first, r)).ledger.contains outcome.1 = true := by
      intro outcome hmem
      have hne := ne_of_mem_of_not_mem (List.mem_map_of_mem hmem) hfirst
      rw [contains_settle_of_ne r hne.symm]
      exact h outcome (List.mem_cons_of_mem _ hmem)
    rw [List.foldl_cons, ih _ hrest hothers,
      resolved_add_remaining_settle r (h _ List.mem_cons_self), List.length_cons]
    omega

end Settling

theorem get?_reconcile (l : Ledger) (d : Dictionary) (input : Text) :
    (l.reconcile d).get? input =
      if l.contains input && !(d.resolve input).resolved then
        some (.ofResolution input (d.resolve input))
      else none := by
  cases hget : (l.reconcile d).get? input with
  | none =>
    have hnone : ¬ (l.reconcile d).contains input = true := by simp [contains, hget]
    rw [contains_reconcile] at hnone
    simpa using hnone
  | some e =>
    obtain ⟨hmem, rfl⟩ := mem_of_get? hget
    obtain ⟨a, ha, hrefresh⟩ := mem_reconcile.mp hmem
    obtain ⟨hopen, rfl⟩ := refresh_eq_some_iff.mp hrefresh
    have hcontains : l.contains a.input = true := contains_iff.mpr ⟨a, ha, rfl⟩
    simp [Entry.ofResolution, hcontains, hopen]

/-- Whatever stays is what the dictionary makes of its input. -/
theorem get?_reconcile_eq_some_iff {l : Ledger} {d : Dictionary} {input : Text} {e : Entry} :
    (l.reconcile d).get? input = some e ↔ l.contains input = true ∧
      (d.resolve input).resolved = false ∧ e = .ofResolution input (d.resolve input) := by
  rw [get?_reconcile]
  split
  · rename_i hkept
    rw [Bool.and_eq_true, Bool.not_eq_true'] at hkept
    simp [hkept, eq_comm]
  · rename_i hgone
    rw [Bool.and_eq_true, Bool.not_eq_true'] at hgone
    refine iff_of_false (Option.some_ne_none e).symm fun hstays => hgone ?_
    exact ⟨hstays.1, hstays.2.1⟩

theorem map_fst_outcomes (l : Ledger) (d : Dictionary) :
    (l.outcomes d).map Prod.fst = l.inputs := by
  rw [outcomes, List.map_map]
  exact List.map_id' _

theorem settleAll_ledger (l : Ledger) (d : Dictionary) :
    (l.settleAll (l.outcomes d)).ledger = l.reconcile d := by
  refine ext_get? fun input => ?_
  rw [get?_reconcile]
  by_cases hmem : input ∈ l.inputs
  · refine Settling.get?_foldl_settle_of_mem _ ?_ (List.mem_map.mpr ⟨input, hmem, rfl⟩)
    rw [map_fst_outcomes]
    exact l.nodup_inputs
  · have hnone : l.contains input = false := by rwa [mem_inputs, Bool.not_eq_true] at hmem
    rw [settleAll, Settling.get?_foldl_settle_of_not_mem _ (by rwa [map_fst_outcomes]), hnone]
    simpa [contains] using hnone

theorem settleAll_done (l : Ledger) (d : Dictionary) :
    (l.settleAll (l.outcomes d)).done = l.reconciliation d := by
  have hsize : (l.settleAll (l.outcomes d)).done.resolved + (l.reconcile d).size = 0 + l.size := by
    rw [← settleAll_ledger]
    exact Settling.resolved_add_size_foldl_settle _
  have hall : ∀ outcome ∈ l.outcomes d, l.contains outcome.1 = true := by
    intro outcome hmem
    obtain ⟨input, hinput, rfl⟩ := List.mem_map.mp hmem
    exact mem_inputs.mp hinput
  have hcount : (l.settleAll (l.outcomes d)).done.resolved +
      (l.settleAll (l.outcomes d)).done.remaining = 0 + 0 + (l.outcomes d).length :=
    Settling.resolved_add_remaining_foldl_settle _ (map_fst_outcomes l d ▸ l.nodup_inputs) hall
  have hlength : (l.outcomes d).length = l.size := by
    rw [outcomes, List.length_map, length_inputs]
  cases hdone : (l.settleAll (l.outcomes d)).done with
  | mk resolved remaining =>
    rw [hdone] at hsize hcount
    dsimp only at hsize hcount
    rw [reconciliation, Reconciliation.mk.injEq]
    omega

theorem inputs_reconcile (l : Ledger) (d : Dictionary) :
    (l.reconcile d).inputs = l.inputs.filter fun input => !(d.resolve input).resolved := by
  obtain ⟨entries, hordered⟩ := l
  simp only [inputs, reconcile]
  induction entries with
  | nil => rfl
  | cons e entries ih =>
    have hrest := ih (List.pairwise_cons.mp hordered).2
    cases hresolved : (d.resolve e.input).resolved with
    | true => simp [refresh, hresolved, hrest]
    | false => simp [refresh, hresolved, hrest, Entry.ofResolution]

/-- Only the inputs play a part. -/
theorem reconcile_congr {l l' : Ledger} (d : Dictionary) (h : l'.inputs = l.inputs) :
    l'.reconcile d = l.reconcile d := by
  refine ext_get? fun input => ?_
  have hcontains : l'.contains input = l.contains input := by
    rw [Bool.eq_iff_iff, ← mem_inputs, ← mem_inputs, h]
  rw [get?_reconcile, get?_reconcile, hcontains]

theorem size_reconcile_le (l : Ledger) (d : Dictionary) : (l.reconcile d).size ≤ l.size :=
  List.length_filterMap_le _ _

/-- What is left would be left again. -/
theorem reconcile_reconcile (l : Ledger) (d : Dictionary) :
    (l.reconcile d).reconcile d = l.reconcile d := by
  refine ext_get? fun input => ?_
  rw [get?_reconcile, get?_reconcile]
  cases hopen : (d.resolve input).resolved with
  | true => simp
  | false =>
    have hcontains : (l.reconcile d).contains input = l.contains input := by
      rw [Bool.eq_iff_iff, contains_reconcile, hopen]
      exact and_iff_left rfl
    rw [hcontains]

theorem reconciliation_reconcile (l : Ledger) (d : Dictionary) :
    (l.reconcile d).reconciliation d = ⟨0, (l.reconcile d).size⟩ := by
  rw [reconciliation, reconcile_reconcile, Nat.sub_self]

/-- Bringing in what the inputs of a ledger resolve to, one by one, is resolving all of it anew. The
inputs that are left are those that stay unresolved, each with the draft and the tokens that the
dictionary makes of it, whatever was stored. All entries are counted, and what is left is left
again. -/
theorem reconcile_exact (l : Ledger) (d : Dictionary) :
    l.settleAll (l.outcomes d) = ⟨l.reconcile d, l.reconciliation d⟩ ∧
    (l.reconcile d).inputs = l.inputs.filter (fun input => !(d.resolve input).resolved) ∧
    (∀ e ∈ (l.reconcile d).entries, e = .ofResolution e.input (d.resolve e.input)) ∧
    (∀ l' : Ledger, l'.inputs = l.inputs → l'.reconcile d = l.reconcile d) ∧
    (l.reconcile d).inputs.Nodup ∧
    ((∀ input ∈ l.inputs, input ≠ []) → ∀ input ∈ (l.reconcile d).inputs, input ≠ []) ∧
    (l.settleAll (l.outcomes d)).done.resolved + (l.settleAll (l.outcomes d)).done.remaining =
      l.size ∧
    (l.settleAll (l.outcomes d)).done.remaining = (l.reconcile d).size ∧
    (l.reconcile d).settleAll ((l.reconcile d).outcomes d) =
      ⟨l.reconcile d, ⟨0, (l.reconcile d).size⟩⟩ := by
  have hsettled : ∀ l : Ledger,
      l.settleAll (l.outcomes d) = ⟨l.reconcile d, l.reconciliation d⟩ := by
    intro l
    rw [← settleAll_ledger, ← settleAll_done]
  refine ⟨hsettled l, inputs_reconcile l d, fun e he => ?_, fun l' => reconcile_congr d,
    nodup_inputs _, fun hinputs input hmem => ?_, ?_, ?_, ?_⟩
  · obtain ⟨a, -, hrefresh⟩ := mem_reconcile.mp he
    rw [input_of_refresh hrefresh]
    exact (refresh_eq_some_iff.mp hrefresh).2
  · rw [inputs_reconcile] at hmem
    exact hinputs input (List.mem_of_mem_filter hmem)
  · rw [settleAll_done]
    exact Nat.sub_add_cancel (size_reconcile_le l d)
  · rw [settleAll_done, reconciliation]
  · rw [hsettled, reconcile_reconcile, reconciliation_reconcile]

def outdated : Ledger := (empty.insert ⟨['1'], ['b'], [['b']]⟩).insert ⟨['a'], ['b'], []⟩

/-- The digit is taken out and the letter gets its own draft and token, as it does in a ledger where
its entry holds anything else. -/
theorem reconcile_exact_outdated :
    outdated.settleAll (outdated.outcomes {}) =
      ⟨empty.insert ⟨['a'], ['a'], [['a']]⟩, ⟨1, 1⟩⟩ ∧
    ((empty.insert ⟨['1'], [], []⟩).insert ⟨['a'], [], [[]]⟩).reconcile {} = outdated.reconcile {} ∧
    ∀ input ∈ (outdated.reconcile {}).inputs, input ≠ [] := by
  obtain ⟨hsettled, -, -, hsame, -, hinputs, -⟩ := reconcile_exact outdated {}
  have hledger : outdated.reconcile {} = empty.insert ⟨['a'], ['a'], [['a']]⟩ := by decide +kernel
  have hdone : outdated.reconciliation {} = ⟨1, 1⟩ := by decide +kernel
  rw [hledger, hdone] at hsettled
  exact ⟨hsettled, hsame _ (by decide), hinputs (by decide)⟩

end Ledger

end Phrasebook
