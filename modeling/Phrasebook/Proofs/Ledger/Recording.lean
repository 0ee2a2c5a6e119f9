import Phrasebook.Proofs.Ledger.Upsert

/-!
Recording a new entry as one step of the ledger and its file. An entry that is refused, or known
already, changes neither of them, and where the line is written both have the entry. A fault of
the disk before the line is written changes no file, and one that comes while it is written leaves
the front of the line. Both come too late for the ledger: the entry is in it, and when it is
recorded again it counts as known, so its line is not written then either.
-/

namespace Phrasebook.Ledger

open Text FileSystem

/-- A recording was one step: it put a new entry into the ledger and its line behind what the file
held, or it changed neither, and what has failed may be done again. -/
structure OneStep (path : Text) (e : Entry) (l : Ledger) (fs : FileSystem)
    (r : Except LedgerError Bool) (l' : Ledger) (fs' : FileSystem) : Prop where
  recorded : r = .ok true → l.contains e.input = false ∧ l'.get? e.input = some e ∧
    fs'.contents path = .ok ((fs.bytes? (Path.location path)).getD [] ++
      Utf8.encode (e.toLine ++ ['\n']))
  unchanged : r ≠ .ok true →
    l' = l ∧ fs'.bytes? (Path.location path) = fs.bytes? (Path.location path)
  retried : ∀ fault, r = .error fault →
    ∀ fs'', (l'.recordAndAppend path e fs'').1.2 ≠ .ok false

section Outcomes

variable {l l' : Ledger} {path : Text} {e : Entry} {fs fs' : FileSystem}
  {r : Except LedgerError Bool}

theorem recordAndAppend_of_noInput (h : e.input = []) (fs : FileSystem) :
    l.recordAndAppend path e fs = ((l, .error .emptyInput), fs) := by
  simp only [recordAndAppend, record, h, List.isEmpty_nil, if_true, Disk.pure_apply]

theorem recordAndAppend_of_contains (hinput : e.input ≠ []) (h : l.contains e.input = true)
    (fs : FileSystem) : l.recordAndAppend path e fs = ((l, .ok false), fs) := by
  have hempty : List.isEmpty e.input = false := by simpa using hinput
  simp only [recordAndAppend, record, hempty, h, Bool.false_eq_true, if_false, Bool.not_false,
    Bool.and_self, if_true, Disk.pure_apply]

/-- A recording that begins to write no line leaves every file as it was. -/
theorem bytes?_recordAndAppend (h : l.recordAndAppend path e fs = ((l', r), fs'))
    (hr : r ≠ .ok true) (hopened : ∀ f, r ≠ .error (.notWritten f)) (m : Location) :
    fs'.bytes? m = fs.bytes? m := by
  rcases recordAndAppend_cases h with ⟨-, -, -, rfl⟩ | ⟨-, -, -, -, rfl⟩ |
    ⟨-, -, -, ⟨fault, happend, rfl⟩ | ⟨-, hdone⟩⟩
  · rfl
  · rfl
  · exact (keeps_append_error happend (fun f heq => hopened f (heq ▸ rfl)) m).bytes
  · exact absurd hdone hr

/-- A recording that cannot write the whole line leaves the front of it behind what the file
held. -/
theorem contents_recordAndAppend {f : FileFault}
    (h : l.recordAndAppend path e fs = ((l', .error (.notWritten f)), fs')) :
    (∀ m, Path.location path ≠ m → fs'.bytes? m = fs.bytes? m) ∧
      ∃ part, part <+: Utf8.encode (e.toLine ++ ['\n']) ∧
        fs'.contents path = .ok ((fs.bytes? (Path.location path)).getD [] ++ part) := by
  rcases recordAndAppend_cases h with ⟨-, herror, -⟩ | ⟨-, -, hold, -⟩ |
    ⟨-, -, -, ⟨fault, happend, herror⟩ | ⟨-, hdone⟩⟩
  · cases herror
  · cases hold
  · cases herror
    refine ⟨fun m hne => ?_, contents_append_notWritten happend⟩
    have hkeep := keeps_append e fs hne
    rw [happend] at hkeep
    exact hkeep.bytes
  · cases hdone

/-- A new entry that the disk fails is in the ledger all the same, and counts as known from then
on. -/
theorem retained_of_disk_fault {fault : LedgerError}
    (h : l.recordAndAppend path e fs = ((l', .error fault), fs')) (hfault : fault ≠ .emptyInput) :
    l.contains e.input = false ∧ l' = l.insert e ∧
      ∀ fs'', l'.recordAndAppend path e fs'' = ((l', .ok false), fs'') := by
  rcases recordAndAppend_cases h with ⟨-, herror, -⟩ | ⟨-, -, hold, -⟩ |
    ⟨hinput, hnew, rfl, ⟨_, -, -⟩ | ⟨-, hdone⟩⟩
  · cases herror
    exact absurd rfl hfault
  · cases hold
  · exact ⟨hnew, rfl, recordAndAppend_of_contains hinput (contains_insert.mpr (Or.inl rfl))⟩
  · cases hdone

/-- The line that a recording has written is read back if it does not stand behind the beginning of
another one, exactly if the entry is legible. -/
theorem get?_load_recorded (h : l.recordAndAppend path e fs = ((l', .ok true), fs'))
    (hblank : ∀ c ∈ unfinished (Utf8.decodeLossy ((fs.bytes? (Path.location path)).getD [])),
      isBlank c = true) :
    (∃ stored, load path fs' = (.ok stored, fs') ∧ stored.get? e.input = some e) ↔
      e.Legible := by
  rcases recordAndAppend_cases h with ⟨-, herror, -⟩ | ⟨-, -, hold, -⟩ |
    ⟨hinput, -, -, ⟨_, -, herror⟩ | ⟨happend, -⟩⟩
  · cases herror
  · cases hold
  · cases herror
  have hload := load_of_contents (contents_append_getD happend)
  rw [ofBytes_append_line, ofText_append_eq_insertLine e hblank, insertLine,
    Entry.ofLine?_toLine_eq hinput, Option.elim_some] at hload
  constructor
  · rintro ⟨stored, hstored, hget⟩
    rw [hload] at hstored
    cases hstored
    rw [get?_insert, if_pos rfl] at hget
    have hread := Entry.ofLine?_toLine_eq hinput
    rw [Option.some.inj hget] at hread
    exact Entry.legible_of_ofLine? hread
  · intro he
    refine ⟨_, hload, ?_⟩
    rw [get?_insert, if_pos rfl, Entry.splitSummary_summary he]

end Outcomes

/-- Recording an entry is one step exactly if no fault of the disk is answered. With such a fault
the entry is in the ledger and is refused as known when it is recorded again, but every file is as
before, or, if the fault came while the line was written, the file ends in the front of the line.
Without a fault a new entry is in the ledger, and its line in the file, where it is read back if
nothing but white space stood behind the last newline and the entry is legible. -/
theorem recorded_in_one_step_iff {l l' : Ledger} {path : Text} {e : Entry} {fs fs' : FileSystem}
    {r : Except LedgerError Bool} (h : l.recordAndAppend path e fs = ((l', r), fs')) :
    (OneStep path e l fs r l' fs' ↔ ∀ fault, r = .error fault → fault = .emptyInput) ∧
    (r ≠ .ok true → (∀ f, r ≠ .error (.notWritten f)) → ∀ m, fs'.bytes? m = fs.bytes? m) ∧
    (∀ f, r = .error (.notWritten f) →
      (∀ m, Path.location path ≠ m → fs'.bytes? m = fs.bytes? m) ∧
      ∃ part, part <+: Utf8.encode (e.toLine ++ ['\n']) ∧
        fs'.contents path = .ok ((fs.bytes? (Path.location path)).getD [] ++ part)) ∧
    (∀ fault, r = .error fault → fault ≠ .emptyInput → l.contains e.input = false ∧
      l' = l.insert e ∧ ∀ fs'', l'.recordAndAppend path e fs'' = ((l', .ok false), fs'')) ∧
    (r = .ok true →
      (∀ c ∈ unfinished (Utf8.decodeLossy ((fs.bytes? (Path.location path)).getD [])),
        isBlank c = true) →
      ((∃ stored, load path fs' = (.ok stored, fs') ∧ stored.get? e.input = some e) ↔
        e.Legible)) := by
  refine ⟨⟨fun hstep fault hfault => ?_, fun hdisk => ?_⟩, bytes?_recordAndAppend h, ?_, ?_, ?_⟩
  · by_contra hne
    subst hfault
    exact hstep.retried fault rfl fs' (by rw [(retained_of_disk_fault h hne).2.2 fs'])
  · rcases recordAndAppend_cases h with ⟨hinput, rfl, rfl, rfl⟩ | ⟨-, -, rfl, rfl, rfl⟩ |
      ⟨-, hnew, rfl, ⟨fault, happend, rfl⟩ | ⟨happend, rfl⟩⟩
    · refine ⟨fun hnone => ?_, fun _ => ⟨rfl, rfl⟩, fun _ _ fs'' => ?_⟩
      · cases hnone
      · rw [recordAndAppend_of_noInput hinput]
        exact nofun
    · refine ⟨fun hnone => ?_, fun _ => ⟨rfl, rfl⟩, fun _ herror => ?_⟩
      · cases hnone
      · cases herror
    · exact absurd (hdisk fault rfl) (append_error_ne happend)
    · refine ⟨fun _ => ⟨hnew, ?_, contents_append_getD happend⟩, fun hne => absurd rfl hne,
        fun _ herror => ?_⟩
      · rw [get?_insert, if_pos rfl]
      · cases herror
  · rintro f rfl
    exact contents_recordAndAppend h
  · rintro fault rfl hfault
    exact retained_of_disk_fault h hfault
  · rintro rfl hblank
    exact get?_load_recorded h hblank

/-- Behind a finished line the entry of `b` is recorded in one step and read back. -/
theorem recorded_in_one_step_behind_newline : ∃ l' fs',
    Ledger.empty.recordAndAppend ['l'] (letter 'b') (soleFile (Utf8.encode "a=a(a)\n".toList)) =
      ((l', .ok true), fs') ∧
    OneStep ['l'] (letter 'b') .empty (soleFile (Utf8.encode "a=a(a)\n".toList)) (.ok true) l' fs' ∧
    ∃ stored, load ['l'] fs' = (.ok stored, fs') ∧ stored.get? ['b'] = some (letter 'b') := by
  obtain ⟨l', fs', hrecord⟩ : ∃ l' fs', Ledger.empty.recordAndAppend ['l'] (letter 'b')
      (soleFile (Utf8.encode "a=a(a)\n".toList)) = ((l', .ok true), fs') := ⟨_, _, rfl⟩
  obtain ⟨hone, -, -, -, hread⟩ := recorded_in_one_step_iff hrecord
  have hblank : ∀ c ∈ unfinished (Utf8.decodeLossy (Utf8.encode "a=a(a)\n".toList)),
      isBlank c = true := by
    have hfinished : unfinished "a=a(a)\n".toList = [] := rfl
    rw [Utf8.decodeLossy_encode, hfinished]
    exact fun c hc => absurd hc List.not_mem_nil
  refine ⟨l', fs', hrecord, hone.mpr (fun fault herror => by cases herror), ?_⟩
  exact (hread rfl hblank).mpr legible_letter_b

/-- Where a directory stands in place of the file, recording fails, the entry is in the ledger that
was empty, and recording it again is refused. -/
theorem not_recorded_in_one_step_over_directory :
    Ledger.empty.recordAndAppend ['l'] (letter 'b') directoryInPlace =
      ((Ledger.empty.insert (letter 'b'), .error (.notOpened .isDirectory)), directoryInPlace) ∧
    ((Ledger.empty.insert (letter 'b')).recordAndAppend ['l'] (letter 'b') {}).1.2 = .ok false ∧
    ¬ ∀ (l l' : Ledger) (path : Text) (e : Entry) (fs fs' : FileSystem)
      (r : Except LedgerError Bool), l.recordAndAppend path e fs = ((l', r), fs') →
        OneStep path e l fs r l' fs' := by
  have hrecord : Ledger.empty.recordAndAppend ['l'] (letter 'b') directoryInPlace =
      ((Ledger.empty.insert (letter 'b'), .error (.notOpened .isDirectory)), directoryInPlace) :=
    rfl
  refine ⟨hrecord, rfl, fun hall => ?_⟩
  obtain ⟨hsame, -⟩ := (hall _ _ _ _ _ _ _ hrecord).unchanged nofun
  exact absurd hsame (by decide)

end Phrasebook.Ledger
