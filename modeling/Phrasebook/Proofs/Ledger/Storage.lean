import Phrasebook.Ledger.File
import Phrasebook.Proofs.FileSystem.Ability
import Phrasebook.Proofs.FileSystem.Path
import Phrasebook.Proofs.Ledger.Entries

/-!
The ledger file as the ledger leaves it. Loading only looks at the file, appending puts one
line behind what is there, or the front of one if the file takes no more, and a flush replaces all
of it. A flush that has succeeded can be made again at once, and then changes no file.
-/

namespace Phrasebook.Ledger

open FileSystem

/-- Loading answers by what stands in the file and changes nothing. -/
theorem load_eq (path : Text) (fs : FileSystem) :
    load path fs =
      (if fs.has path then
        match fs.contents path with
        | .ok bytes => .ok (ofBytes bytes)
        | .error fault => .error (.unreadable path fault)
      else .ok empty, fs) := by
  rw [load, Disk.bind_apply, Disk.get_apply]
  by_cases hhas : fs.has path = true
  · rw [if_pos hhas, if_pos hhas]
    cases fs.contents path <;> rfl
  · rw [if_neg hhas, if_neg hhas]
    rfl

theorem load_disk {path : Text} {fs fs' : FileSystem} {r : Except LedgerError Ledger}
    (h : load path fs = (r, fs')) : fs' = fs := by
  rw [load_eq] at h
  exact (congrArg Prod.snd h).symm

theorem load_of_contents {path : Text} {fs : FileSystem} {bytes : Bytes}
    (h : fs.contents path = .ok bytes) : load path fs = (.ok (ofBytes bytes), fs) := by
  simp only [load_eq, has_of_contents h, h, if_true]

/-- Loading a ledger file ends well if there is none, and if it can be read. -/
theorem load_ok_cases {path : Text} {fs fs' : FileSystem} {l : Ledger}
    (h : load path fs = (.ok l, fs')) :
    ((∃ fault, fs.contents path = .error fault) ∧ l = empty) ∨
      ∃ bytes, fs.contents path = .ok bytes ∧ l = ofBytes bytes := by
  rw [load_eq] at h
  cases hread : fs.contents path with
  | error fault =>
    refine Or.inl ⟨⟨fault, rfl⟩, ?_⟩
    rw [hread] at h
    split at h
    · cases h
    · cases h
      rfl
  | ok bytes =>
    rw [if_pos (has_of_contents hread), hread] at h
    cases h
    exact Or.inr ⟨bytes, rfl, rfl⟩

/-- The ledger of a file, or of no file, has no entry without an input. -/
theorem input_ne_of_load {path : Text} {fs fs' : FileSystem} {l : Ledger}
    (h : load path fs = (.ok l, fs')) : ∀ e ∈ l.entries, e.input ≠ [] := by
  intro e he
  rcases load_ok_cases h with ⟨-, rfl⟩ | ⟨bytes, -, rfl⟩
  · cases he
  · exact input_ne_of_mem_ofBytes he

/-- The ways in which appending can end, with all that each of them leaves behind. -/
theorem append_cases {path : Text} {e : Entry} {fs fs' : FileSystem}
    {r : Except LedgerError Unit} (h : append path e fs = (r, fs')) :
    (∃ fault, Disk.ensureParent path fs = (.error fault, fs') ∧ r = .error (.noDirectory fault)) ∨
    ∃ fs₁, Disk.ensureParent path fs = (.ok (), fs₁) ∧
      ((∃ fault, r = .error (.notOpened fault) ∧ fs' = fs₁) ∨
        (∃ fault, fs₁.appendFile path (fs₁.taken (Utf8.encode (e.toLine ++ ['\n']))) = .ok fs' ∧
          r = .error (.notWritten fault)) ∨
        (fs₁.appendFile path (Utf8.encode (e.toLine ++ ['\n'])) = .ok fs' ∧ r = .ok ())) := by
  simp only [append, Disk.bind_apply] at h
  rcases hparent : Disk.ensureParent path fs with ⟨fault | u, fs₁⟩
  · simp only [hparent, Disk.pure_apply] at h
    cases h
    exact Or.inl ⟨fault, rfl, rfl⟩
  · refine Or.inr ⟨fs₁, rfl, ?_⟩
    simp only [hparent, Disk.bind_apply] at h
    cases hwrite : Disk.write (·.appendFile path) (Utf8.encode (e.toLine ++ ['\n'])) fs₁ with
    | mk written fs₂ =>
      rcases write_cases hwrite with ⟨fault, -, rfl, rfl⟩ | ⟨fault, hfile, -, rfl⟩ | ⟨hfile, -, rfl⟩
      · simp only [hwrite, Disk.pure_apply] at h
        cases h
        exact Or.inl ⟨fault, rfl, rfl⟩
      · simp only [hwrite, Disk.pure_apply] at h
        cases h
        exact Or.inr (Or.inl ⟨fault, hfile, rfl⟩)
      · simp only [hwrite, Disk.pure_apply] at h
        cases h
        exact Or.inr (Or.inr ⟨hfile, rfl⟩)

theorem append_ok {path : Text} {e : Entry} {fs fs' : FileSystem}
    (h : append path e fs = (.ok (), fs')) :
    ∃ fs₁, Disk.ensureParent path fs = (.ok (), fs₁) ∧
      fs₁.appendFile path (Utf8.encode (e.toLine ++ ['\n'])) = .ok fs' := by
  rcases append_cases h with ⟨_, -, herror⟩ |
    ⟨fs₁, hparent, ⟨_, herror, -⟩ | ⟨_, -, herror⟩ | ⟨hfile, -⟩⟩
  · cases herror
  · cases herror
  · cases herror
  · exact ⟨fs₁, hparent, hfile⟩

/-- However appending ends, nothing is refused that was not refused before. -/
theorem refuses_append (path : Text) (e : Entry) (fs : FileSystem) :
    (append path e fs).2.refuses = fs.refuses := by
  cases happend : append path e fs with
  | mk r fs' =>
    rcases append_cases happend with ⟨_, hparent, -⟩ |
      ⟨fs₁, hparent, ⟨_, -, rfl⟩ | ⟨_, hfile, -⟩ | ⟨hfile, -⟩⟩
    · exact refuses_ensureParent hparent
    · exact refuses_ensureParent hparent
    · exact (refuses_updateFile hfile).trans (refuses_ensureParent hparent)
    · exact (refuses_updateFile hfile).trans (refuses_ensureParent hparent)

theorem append_error_ne {path : Text} {e : Entry} {fs fs' : FileSystem} {fault : LedgerError}
    (h : append path e fs = (.error fault, fs')) : fault ≠ .emptyInput := by
  rcases append_cases h with ⟨_, -, herror⟩ |
    ⟨fs₁, -, ⟨_, herror, -⟩ | ⟨_, -, herror⟩ | ⟨-, hdone⟩⟩
  · cases herror
    exact LedgerError.noConfusion
  · cases herror
    exact LedgerError.noConfusion
  · cases herror
    exact LedgerError.noConfusion
  · cases hdone

/-- Appending that fails before anything is written leaves every file alone. -/
theorem keeps_append_error {path : Text} {e : Entry} {fs fs' : FileSystem} {fault : LedgerError}
    (h : append path e fs = (.error fault, fs')) (hopened : ∀ f, fault ≠ .notWritten f)
    (m : Location) : Keeps m fs fs' := by
  rcases append_cases h with ⟨_, hparent, -⟩ |
    ⟨fs₁, hparent, ⟨_, -, rfl⟩ | ⟨f, -, herror⟩ | ⟨-, hdone⟩⟩
  · exact keeps_ensureParent hparent
  · exact keeps_ensureParent hparent
  · cases herror
    exact absurd rfl (hopened f)
  · cases hdone

/-- However appending ends, it leaves every other file alone. -/
theorem keeps_append (e : Entry) {path : Text} {m : Location} (fs : FileSystem)
    (hne : Path.location path ≠ m) : Keeps m fs (append path e fs).2 := by
  cases happend : append path e fs with
  | mk r fs' =>
    rcases append_cases happend with ⟨_, hparent, -⟩ |
      ⟨fs₁, hparent, ⟨_, -, rfl⟩ | ⟨_, hfile, -⟩ | ⟨hfile, -⟩⟩
    · exact keeps_ensureParent hparent
    · exact keeps_ensureParent hparent
    · exact (keeps_ensureParent hparent).trans (keeps_updateFile hfile hne)
    · exact (keeps_ensureParent hparent).trans (keeps_updateFile hfile hne)

/-- If the file does not take the whole line, the front of the line stands behind what the file
held. -/
theorem contents_append_notWritten {path : Text} {e : Entry} {fs fs' : FileSystem}
    {fault : FileFault} (h : append path e fs = (.error (.notWritten fault), fs')) :
    ∃ part, part <+: Utf8.encode (e.toLine ++ ['\n']) ∧
      fs'.contents path = .ok ((fs.bytes? (Path.location path)).getD [] ++ part) := by
  rcases append_cases h with ⟨_, -, herror⟩ |
    ⟨fs₁, hparent, ⟨_, herror, -⟩ | ⟨_, hfile, -⟩ | ⟨-, hdone⟩⟩
  · cases herror
  · cases herror
  · refine ⟨_, taken_prefix fs₁ _, ?_⟩
    rw [contents_updateFile hfile, (keeps_ensureParent hparent).bytes]
  · cases hdone

/-- Appending puts the line of an entry behind what the file holds, if there is one. -/
theorem contents_append_getD {path : Text} {e : Entry} {fs fs' : FileSystem}
    (h : append path e fs = (.ok (), fs')) :
    fs'.contents path = .ok ((fs.bytes? (Path.location path)).getD [] ++
      Utf8.encode (e.toLine ++ ['\n'])) := by
  obtain ⟨fs₁, hparent, hfile⟩ := append_ok h
  rw [contents_updateFile hfile, (keeps_ensureParent hparent).bytes]

theorem contents_append {path : Text} {e : Entry} {fs fs' : FileSystem} {bytes : Bytes}
    (hread : fs.contents path = .ok bytes) (h : append path e fs = (.ok (), fs')) :
    fs'.contents path = .ok (bytes ++ Utf8.encode (e.toLine ++ ['\n'])) := by
  obtain ⟨-, -, -, hbytes⟩ := contents_eq_ok_iff.mp hread
  rw [contents_append_getD h, hbytes, Option.getD_some]

/-- Behind lines of entries there is one line more. -/
theorem contents_append_linesOf {path : Text} {e : Entry} {es : List Entry} {fs fs' : FileSystem}
    (hread : fs.contents path = .ok (Utf8.encode (linesOf es)))
    (h : append path e fs = (.ok (), fs')) :
    fs'.contents path = .ok (Utf8.encode (linesOf (es ++ [e]))) := by
  rw [contents_append hread h, ← Utf8.encode_append]
  simp [linesOf]

/-- If a file can be read, the directory around it is there. -/
theorem ensureParent_of_contents {path : Text} {fs : FileSystem} {bytes : Bytes}
    (h : fs.contents path = .ok bytes) : Disk.ensureParent path fs = (.ok (), fs) := by
  obtain ⟨hpath, hslash, hway, -⟩ := contents_eq_ok_iff.mp h
  exact makeDirectories_eq_self fun m hm =>
    hway m (Path.mem_stations_of_parent hpath hslash hm)

/-- Something can be appended to every file that can be read, unless the system refuses to write. -/
theorem exists_append {path : Text} {fs : FileSystem} {bytes : Bytes} (e : Entry)
    (h : fs.contents path = .ok bytes) (hwrite : fs.refuses.write = none) :
    ∃ fs', append path e fs = (.ok (), fs') := by
  obtain ⟨hpath, hslash, hway, hbytes⟩ := contents_eq_ok_iff.mp h
  obtain ⟨fs', hfile⟩ := exists_updateFile
    (fun old => old ++ Utf8.encode (e.toLine ++ ['\n']))
    (reach_eq_ok_iff.mpr ⟨hpath, rfl, hway⟩) hslash (not_isDirectory_of_bytes? hbytes)
  have hdone := @write_of_put (·.appendFile path) _ _ _ hfile
    (shortage?_eq_none_iff.mpr (Or.inr hwrite))
  refine ⟨fs', ?_⟩
  simp only [append, Disk.bind_apply, ensureParent_of_contents h, hdone, Disk.pure_apply]

/-- The ways in which recording an entry can end, with all that each of them leaves behind. -/
theorem recordAndAppend_cases {l l' : Ledger} {path : Text} {e : Entry} {fs fs' : FileSystem}
    {r : Except LedgerError Bool} (h : l.recordAndAppend path e fs = ((l', r), fs')) :
    (e.input = [] ∧ r = .error .emptyInput ∧ l' = l ∧ fs' = fs) ∨
    (e.input ≠ [] ∧ l.contains e.input = true ∧ r = .ok false ∧ l' = l ∧ fs' = fs) ∨
    (e.input ≠ [] ∧ l.contains e.input = false ∧ l' = l.insert e ∧
      ((∃ fault, append path e fs = (.error fault, fs') ∧ r = .error fault) ∨
        (append path e fs = (.ok (), fs') ∧ r = .ok true))) := by
  unfold recordAndAppend record at h
  by_cases hinput : e.input = []
  · simp only [hinput, List.isEmpty_nil, if_true, Disk.pure_apply] at h
    cases h
    exact Or.inl ⟨hinput, rfl, rfl, rfl⟩
  · have hempty : List.isEmpty e.input = false := by simpa using hinput
    cases hcontains : l.contains e.input with
    | true =>
      simp only [hempty, hcontains, Bool.false_eq_true, if_false, Bool.not_false, Bool.and_self,
        if_true, Disk.pure_apply] at h
      cases h
      exact Or.inr (Or.inl ⟨hinput, rfl, rfl, rfl, rfl⟩)
    | false =>
      simp only [hempty, hcontains, Bool.false_eq_true, if_false, Bool.and_false,
        Disk.bind_apply] at h
      refine Or.inr (Or.inr ⟨hinput, rfl, ?_⟩)
      cases happend : append path e fs with
      | mk outcome fs₁ =>
        cases outcome with
        | error fault =>
          simp only [happend, Disk.pure_apply] at h
          cases h
          exact ⟨rfl, Or.inl ⟨fault, rfl, rfl⟩⟩
        | ok u =>
          simp only [happend, Disk.pure_apply] at h
          cases h
          exact ⟨rfl, Or.inr ⟨rfl, rfl⟩⟩

theorem refuses_recordAndAppend (l : Ledger) (path : Text) (e : Entry) (fs : FileSystem) :
    (l.recordAndAppend path e fs).2.refuses = fs.refuses := by
  rcases hrecord : l.recordAndAppend path e fs with ⟨⟨l', r⟩, fs'⟩
  have happended := refuses_append path e fs
  rcases recordAndAppend_cases hrecord with ⟨-, -, -, rfl⟩ | ⟨-, -, -, -, rfl⟩ |
    ⟨-, -, -, ⟨_, happend, -⟩ | ⟨happend, -⟩⟩
  · rfl
  · rfl
  · rwa [happend] at happended
  · rwa [happend] at happended

/-- The ways in which the temporary file can be written, with all that each of them leaves behind. -/
theorem putTemporary_cases {path : Text} {bytes : Bytes} {fs fs' : FileSystem}
    {r : Except LedgerError Unit} (h : putTemporary path bytes fs = (r, fs')) :
    (∃ fault, r = .error (.noTemporary fault) ∧ fs' = fs) ∨
    (∃ fault, fs.writeFile (Path.temporary path) (fs.taken bytes) = .ok fs' ∧
      fs.shortage? bytes = some fault ∧ r = .error (.notWritten fault)) ∨
    (fs.writeFile (Path.temporary path) bytes = .ok fs' ∧ fs.shortage? bytes = none ∧
      ((∃ fault, fs.refuses.sync = some fault ∧ r = .error (.notSynced fault)) ∨
        (fs.refuses.sync = none ∧ r = .ok ()))) := by
  simp only [putTemporary, Disk.bind_apply] at h
  cases hwrite : Disk.write (·.writeFile (Path.temporary path)) bytes fs with
  | mk written fs₁ =>
    rcases write_cases hwrite with ⟨fault, -, rfl, rfl⟩ | ⟨fault, hfile, hshort, rfl⟩ |
      ⟨hfile, hshort, rfl⟩
    · simp only [hwrite, Disk.pure_apply] at h
      cases h
      exact Or.inl ⟨fault, rfl, rfl⟩
    · simp only [hwrite, Disk.pure_apply] at h
      cases h
      exact Or.inr (Or.inl ⟨fault, hfile, hshort, rfl⟩)
    · have hsame := refuses_updateFile hfile
      simp only [hwrite, Disk.bind_apply, Disk.get_apply, hsame] at h
      cases hsync : fs.refuses.sync with
      | some fault =>
        simp only [hsync, Disk.pure_apply] at h
        cases h
        exact Or.inr (Or.inr ⟨hfile, hshort, Or.inl ⟨fault, rfl, rfl⟩⟩)
      | none =>
        simp only [hsync, Disk.pure_apply] at h
        cases h
        exact Or.inr (Or.inr ⟨hfile, hshort, Or.inr ⟨rfl, rfl⟩⟩)

theorem putTemporary_ok {path : Text} {bytes : Bytes} {fs fs' : FileSystem}
    (h : putTemporary path bytes fs = (.ok (), fs')) :
    fs.writeFile (Path.temporary path) bytes = .ok fs' ∧ fs.shortage? bytes = none ∧
      fs.refuses.sync = none := by
  rcases putTemporary_cases h with ⟨_, herror, -⟩ | ⟨_, -, -, herror⟩ |
    ⟨hfile, hshort, ⟨_, -, herror⟩ | ⟨hsync, -⟩⟩
  · cases herror
  · cases herror
  · cases herror
  · exact ⟨hfile, hshort, hsync⟩

theorem keeps_putTemporary {path : Text} {bytes : Bytes} {fs fs' : FileSystem}
    {r : Except LedgerError Unit} {m : Location} (h : putTemporary path bytes fs = (r, fs'))
    (hne : Path.location (Path.temporary path) ≠ m) : Keeps m fs fs' := by
  rcases putTemporary_cases h with ⟨_, -, rfl⟩ | ⟨_, hfile, -⟩ | ⟨hfile, -⟩
  · exact Keeps.refl m fs'
  · exact keeps_updateFile hfile hne
  · exact keeps_updateFile hfile hne

theorem refuses_putTemporary {path : Text} {bytes : Bytes} {fs fs' : FileSystem}
    {r : Except LedgerError Unit} (h : putTemporary path bytes fs = (r, fs')) :
    fs'.refuses = fs.refuses := by
  rcases putTemporary_cases h with ⟨_, -, rfl⟩ | ⟨_, hfile, -⟩ | ⟨hfile, -⟩
  · rfl
  · exact refuses_updateFile hfile
  · exact refuses_updateFile hfile

/-- The ways in which a flush can end, with all that each of them leaves behind. Where the
temporary file could not be given its path, it is removed: it can be read, so nothing prevents
that but a system that refuses. -/
theorem flush_cases {l : Ledger} {path : Text} {fs fs' : FileSystem}
    {r : Except LedgerError Unit} (h : l.flush path fs = (r, fs')) :
    (∃ fault, Disk.ensureParent path fs = (.error fault, fs') ∧ r = .error (.noDirectory fault)) ∨
    ∃ fs₁, Disk.ensureParent path fs = (.ok (), fs₁) ∧
      ((∃ fault, putTemporary path l.toBytes fs₁ = (.error fault, fs') ∧ r = .error fault) ∨
      ∃ fs₂, putTemporary path l.toBytes fs₁ = (.ok (), fs₂) ∧
        ((∃ fault, fs₂.rename (Path.temporary path) path = .error fault ∧
            r = .error (.notRenamed fault) ∧
            (fs₂.removeFile (Path.temporary path) = .ok fs' ∨
              fs₂.refuses.remove ≠ none ∧ fs' = fs₂)) ∨
          (fs₂.rename (Path.temporary path) path = .ok fs' ∧ r = .ok ()))) := by
  simp only [flush, Disk.bind_apply] at h
  rcases hparent : Disk.ensureParent path fs with ⟨fault | u, fs₁⟩
  · simp only [hparent, Disk.pure_apply] at h
    cases h
    exact Or.inl ⟨fault, rfl, rfl⟩
  · refine Or.inr ⟨fs₁, rfl, ?_⟩
    simp only [hparent, Disk.bind_apply] at h
    rcases hput : putTemporary path l.toBytes fs₁ with ⟨fault | u, fs₂⟩
    · simp only [hput, Disk.pure_apply] at h
      cases h
      exact Or.inl ⟨fault, rfl, rfl⟩
    · refine Or.inr ⟨fs₂, rfl, ?_⟩
      simp only [hput, Disk.bind_apply, Disk.attempt_apply] at h
      cases hrename : fs₂.rename (Path.temporary path) path with
      | ok fs₃ =>
        simp only [hrename, Disk.pure_apply] at h
        cases h
        exact Or.inr ⟨rfl, rfl⟩
      | error fault =>
        simp only [hrename, Disk.bind_apply, Disk.attempt_apply] at h
        cases hremove : fs₂.removeFile (Path.temporary path) with
        | ok fs₃ =>
          simp only [hremove, Disk.pure_apply] at h
          cases h
          exact Or.inl ⟨fault, rfl, rfl, Or.inl rfl⟩
        | error refusal =>
          simp only [hremove, Disk.pure_apply] at h
          cases h
          refine Or.inl ⟨fault, rfl, rfl, Or.inr ⟨fun hallowed => ?_, rfl⟩⟩
          obtain ⟨hfile, -, -⟩ := putTemporary_ok hput
          obtain ⟨fs₃, hdone⟩ := exists_removeFile (contents_updateFile hfile) hallowed
          cases hremove.symm.trans hdone

/-- A flush that succeeds has done each of its steps. -/
theorem flush_ok {l : Ledger} {path : Text} {fs fs' : FileSystem}
    (h : l.flush path fs = (.ok (), fs')) :
    ∃ fs₁ fs₂, Disk.ensureParent path fs = (.ok (), fs₁) ∧
      putTemporary path l.toBytes fs₁ = (.ok (), fs₂) ∧
      fs₂.rename (Path.temporary path) path = .ok fs' := by
  rcases flush_cases h with ⟨fault, -, herror⟩ | ⟨fs₁, hparent, ⟨fault, -, herror⟩ |
    ⟨fs₂, hput, ⟨fault, -, herror, -⟩ | ⟨hrename, -⟩⟩⟩
  · cases herror
  · cases herror
  · cases herror
  · exact ⟨fs₁, fs₂, hparent, hput, hrename⟩

/-- However a flush ends, nothing is refused that was not refused before. -/
theorem refuses_flush (l : Ledger) (path : Text) (fs : FileSystem) :
    (l.flush path fs).2.refuses = fs.refuses := by
  rcases hflush : l.flush path fs with ⟨r, fs'⟩
  rcases flush_cases hflush with ⟨_, hparent, -⟩ | ⟨fs₁, hparent, hrest⟩
  · exact refuses_ensureParent hparent
  have hfirst := refuses_ensureParent hparent
  rcases hrest with ⟨_, hput, -⟩ | ⟨fs₂, hput, hrest⟩
  · exact (refuses_putTemporary hput).trans hfirst
  have hsecond := (refuses_putTemporary hput).trans hfirst
  rcases hrest with ⟨_, -, -, hremove | ⟨-, rfl⟩⟩ | ⟨hrename, -⟩
  · exact (refuses_removeFile hremove).trans hsecond
  · exact hsecond
  · exact (refuses_rename hrename).2.trans hsecond

/-- A flush that succeeds was allowed, and is allowed again. -/
theorem allows_of_flush {l : Ledger} {path : Text} {fs fs' : FileSystem}
    (h : l.flush path fs = (.ok (), fs')) : fs.Allows l.toBytes ∧ fs'.Allows l.toBytes := by
  obtain ⟨fs₁, fs₂, hparent, hput, hrename⟩ := flush_ok h
  obtain ⟨hfile, hshort, hsync⟩ := putTemporary_ok hput
  obtain ⟨hallowed, -⟩ := refuses_rename hrename
  have hfirst : fs₁.Allows l.toBytes := ⟨hshort, hsync, refuses_updateFile hfile ▸ hallowed⟩
  have hallows := hfirst.of_refuses (refuses_ensureParent hparent).symm
  have hsame := refuses_flush l path fs
  rw [h] at hsame
  exact ⟨hallows, hallows.of_refuses hsame⟩

/-- A flush that fails leaves every file alone but the temporary one. In particular the old ledger
file is still there. -/
theorem keeps_flush_error {l : Ledger} {path : Text} {fs fs' : FileSystem} {e : LedgerError}
    {m : Location} (h : l.flush path fs = (.error e, fs'))
    (hne : Path.location (Path.temporary path) ≠ m) : Keeps m fs fs' := by
  rcases flush_cases h with ⟨_, hparent, -⟩ | ⟨fs₁, hparent, hrest⟩
  · exact keeps_ensureParent hparent
  have hway := keeps_ensureParent (l := m) hparent
  rcases hrest with ⟨_, hput, -⟩ | ⟨fs₂, hput, hrest⟩
  · exact hway.trans (keeps_putTemporary hput hne)
  have hwritten := hway.trans (keeps_putTemporary hput hne)
  rcases hrest with ⟨_, -, -, hremove | ⟨-, rfl⟩⟩ | ⟨-, hdone⟩
  · exact hwritten.trans (keeps_removeFile hremove hne)
  · exact hwritten
  · cases hdone

/-- However a flush ends, it leaves every file alone but its own two. -/
theorem keeps_flush (l : Ledger) {path : Text} {m : Location} (fs : FileSystem)
    (hledger : Path.location path ≠ m) (htemporary : Path.location (Path.temporary path) ≠ m) :
    Keeps m fs (l.flush path fs).2 := by
  cases hflush : l.flush path fs with
  | mk r fs' =>
    cases r with
    | error e => exact keeps_flush_error hflush htemporary
    | ok u =>
      obtain ⟨fs₁, fs₂, hparent, hput, hrename⟩ := flush_ok hflush
      have hwritten := (keeps_ensureParent hparent).trans (keeps_putTemporary hput htemporary)
      by_cases hsame : Path.location (Path.temporary path) = Path.location path
      · obtain ⟨rfl, -⟩ := rename_self_cases hrename hsame
        exact hwritten
      · exact hwritten.trans (keeps_rename hrename hsame htemporary hledger)

/-- The steps of a flush, when each of them can be done and none is refused. -/
theorem flush_of_steps {l : Ledger} {path : Text} {fs fs₁ fs₂ fs' : FileSystem}
    (hparent : Disk.ensureParent path fs = (.ok (), fs₁))
    (hfile : fs₁.writeFile (Path.temporary path) l.toBytes = .ok fs₂)
    (hrename : fs₂.rename (Path.temporary path) path = .ok fs')
    (hallows : fs.Allows l.toBytes) : l.flush path fs = (.ok (), fs') := by
  have hfirst := hallows.of_refuses (refuses_ensureParent hparent)
  have hwrite := @write_of_put (·.writeFile (Path.temporary path)) _ _ _ hfile hfirst.write
  have hsync : fs₂.refuses.sync = none := (refuses_updateFile hfile) ▸ hfirst.sync
  simp only [flush, putTemporary, Disk.bind_apply, Disk.attempt_apply, Disk.get_apply, hparent,
    hwrite, hsync, hrename, Disk.pure_apply]

/-- After a flush the file holds one line for each entry and nothing else. -/
theorem contents_flush {l : Ledger} {path : Text} {fs fs' : FileSystem}
    (h : l.flush path fs = (.ok (), fs')) : fs'.contents path = .ok l.toBytes := by
  obtain ⟨fs₁, fs₂, -, hput, hrename⟩ := flush_ok h
  obtain ⟨hfile, -, -⟩ := putTemporary_ok hput
  obtain ⟨-, -, -, hbytes⟩ := contents_eq_ok_iff.mp (contents_updateFile hfile)
  exact contents_rename hrename hbytes

/-- A file that can be read can still be read when the temporary file for it has been written. -/
theorem exists_contents_written {path : Text} {fs fs₁ : FileSystem} {bytes content : Bytes}
    (hread : fs.contents path = .ok bytes)
    (hfile : fs.writeFile (Path.temporary path) content = .ok fs₁) :
    ∃ bytes', fs₁.contents path = .ok bytes' := by
  obtain ⟨hpath, hslash, hway, hbytes⟩ := contents_eq_ok_iff.mp hread
  have hway₁ : ∀ m ∈ (Path.stations path).dropLast, fs₁.IsDirectory m :=
    fun m hm => (isDirectory_updateFile hfile).mpr (hway m hm)
  by_cases hsame : Path.location (Path.temporary path) = Path.location path
  · exact ⟨content, contents_eq_ok_iff.mpr ⟨hpath, hslash, hway₁, hsame ▸ bytes?_updateFile hfile⟩⟩
  · have hkept := (keeps_updateFile hfile hsame).bytes
    exact ⟨bytes, contents_eq_ok_iff.mpr ⟨hpath, hslash, hway₁, hkept.trans hbytes⟩⟩

/-- A temporary file that was written can be given the path it was written for where a file can be
read there, unless the system refuses that. -/
theorem exists_rename_temporary {path : Text} {fs fs₁ : FileSystem} {bytes content : Bytes}
    (hfile : fs.writeFile (Path.temporary path) content = .ok fs₁)
    (hread : fs₁.contents path = .ok bytes) (hallowed : fs₁.refuses.rename = none) :
    ∃ fs', fs₁.rename (Path.temporary path) path = .ok fs' := by
  obtain ⟨hpath, hslash, hway, hbytes⟩ := contents_eq_ok_iff.mp hread
  obtain ⟨hpath', -, hway', hbytes'⟩ := contents_eq_ok_iff.mp (contents_updateFile hfile)
  exact exists_rename (reach_eq_ok_iff.mpr ⟨hpath', rfl, hway'⟩) hbytes'
    (reach_eq_ok_iff.mpr ⟨hpath, rfl, hway⟩) hslash (not_isDirectory_of_bytes? hbytes) hallowed

/-- Every file that can be read can be replaced, unless a directory is in the place of the
temporary file or the system refuses a step. -/
theorem exists_flush {path : Text} {fs : FileSystem} {bytes : Bytes} (l : Ledger)
    (hread : fs.contents path = .ok bytes)
    (hfree : ¬ fs.IsDirectory (Path.location (Path.temporary path)))
    (hallows : fs.Allows l.toBytes) : ∃ fs', l.flush path fs = (.ok (), fs') := by
  obtain ⟨hpath, hslash, hway, -⟩ := contents_eq_ok_iff.mp hread
  have hway' : ∀ m ∈ (Path.stations (Path.temporary path)).dropLast, fs.IsDirectory m :=
    fun m hm => hway m (Path.mem_stations_of_temporary hpath hslash hm)
  obtain ⟨fs₁, hfile⟩ := exists_updateFile (fun _ => l.toBytes)
    (reach_eq_ok_iff.mpr ⟨Path.temporary_ne_nil hpath, rfl, hway'⟩)
    (Path.isSlashed_temporary hslash) hfree
  obtain ⟨_, hread₁⟩ := exists_contents_written hread hfile
  obtain ⟨fs₂, hrename⟩ := exists_rename_temporary hfile hread₁
    (refuses_updateFile hfile ▸ hallows.rename)
  exact ⟨fs₂, flush_of_steps (ensureParent_of_contents hread) hfile hrename hallows⟩

/-- A flush that has succeeded can be made again, of any ledger if it was not of an empty one. -/
theorem flush_again {l : Ledger} {path : Text} {fs fs' : FileSystem} (l' : Ledger)
    (h : l.flush path fs = (.ok (), fs')) (hempty : l.toBytes = [] → l'.toBytes = []) :
    ∃ fs'', l'.flush path fs' = (.ok (), fs'') := by
  obtain ⟨fs₁, fs₂, -, -, hrename⟩ := flush_ok h
  exact exists_flush l' (contents_flush h) (not_isDirectory_rename hrename)
    ((allows_of_flush h).2.of_ne_nil hempty)

/-- To make the same flush again changes no file. -/
theorem sameFiles_of_flush_again {l : Ledger} {path : Text} {fs fs' fs'' : FileSystem}
    (hne : Path.location (Path.temporary path) ≠ Path.location path)
    (h : l.flush path fs = (.ok (), fs')) (hagain : l.flush path fs' = (.ok (), fs'')) :
    SameFiles fs' fs'' := by
  have hread := contents_flush h
  obtain ⟨fs₁, fs₂, hparent, hput, hrename⟩ := flush_ok hagain
  obtain ⟨hfile, -, -⟩ := putTemporary_ok hput
  cases (ensureParent_of_contents hread).symm.trans hparent
  refine ⟨fun m => (isDirectory_rename hrename).trans (isDirectory_updateFile hfile),
    fun m => ?_⟩
  by_cases hledger : Path.location path = m
  · obtain ⟨-, -, -, hold⟩ := contents_eq_ok_iff.mp hread
    obtain ⟨-, -, -, hnew⟩ := contents_eq_ok_iff.mp (contents_flush hagain)
    rw [← hledger, hnew, hold]
  by_cases htemporary : Path.location (Path.temporary path) = m
  · -- The first flush has left no temporary file either.
    obtain ⟨_, _, -, -, hrename'⟩ := flush_ok h
    rw [← htemporary, bytes?_rename hrename hne, bytes?_rename hrename' hne]
  · have hkeep := keeps_flush l fs' hledger htemporary
    rw [hagain] at hkeep
    exact hkeep.bytes

def soleFile (bytes : Bytes) : FileSystem :=
  ⟨[([['l']], .file bytes (.moment 1)), ([], .directory (.moment 0))], 2, {}⟩

def directoryInPlace : FileSystem :=
  ⟨[([['l']], .directory (.moment 1)), ([], .directory (.moment 0))], 2, {}⟩

theorem contents_soleFile (bytes : Bytes) : (soleFile bytes).contents ['l'] = .ok bytes := rfl

end Phrasebook.Ledger
