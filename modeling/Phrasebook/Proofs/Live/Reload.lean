import Phrasebook.Live.Watcher
import Phrasebook.Proofs.Ledger.Storage

/-!
What a reload can do, step by step, and what a failed one leaves as it was. A reload takes the
new dictionary into use before it turns to the ledger file. A fault of the ledger therefore
comes too late to keep the old generation; only a dictionary that cannot be loaded does. A poll
of a watcher does nothing or makes one reload.
-/

namespace Phrasebook

/-- The dictionary file, the ledger file and the temporary file of the ledger are three files, all of
them below the working directory. -/
structure DistinctFiles (dictionaryPath ledgerPath : Text) : Prop where
  ledger : Path.location ledgerPath ≠ Path.location dictionaryPath
  temporary : Path.location (Path.temporary ledgerPath) ≠ Path.location dictionaryPath
  own : Path.location (Path.temporary ledgerPath) ≠ Path.location ledgerPath

/-- A dictionary that cannot be loaded leaves the disk as it is. -/
theorem Dictionary.load_error_disk {path : Text} {fs fs' : FileSystem} {e : LoadError}
    (h : Dictionary.load path fs = (.error e, fs')) : fs' = fs := by
  rw [load, Disk.bind_apply, Disk.get_apply] at h
  by_cases hhas : fs.has path = true
  · rw [if_pos hhas] at h
    cases hread : fs.contents path with
    | error fault => simp only [hread, Disk.pure_apply] at h; cases h; rfl
    | ok bytes =>
      simp only [hread, Disk.pure_apply] at h
      exact (congrArg Prod.snd h).symm
  · rw [if_neg hhas] at h
    cases h

/-- A dictionary file that is there is only read. -/
theorem Dictionary.load_disk_of_has {path : Text} {fs : FileSystem} (h : fs.has path = true) :
    (Dictionary.load path fs).2 = fs := by
  rw [load, Disk.bind_apply, Disk.get_apply, if_pos h]
  cases fs.contents path <;> rfl

theorem Dictionary.load_of_contents {path : Text} {fs : FileSystem} {bytes : Bytes}
    (h : fs.contents path = .ok bytes) :
    load path fs = ((read (Utf8.decodeLossy bytes)).mapError .invalid, fs) := by
  rw [load, Disk.bind_apply, Disk.get_apply, if_pos (FileSystem.has_of_contents h)]
  simp only [h, Disk.pure_apply]

/-- A dictionary that was loaded from a file that is there stands in its bytes. -/
theorem Dictionary.contents_of_load_ok {path : Text} {fs fs' : FileSystem} {d : Dictionary}
    (hhas : fs.has path = true) (h : load path fs = (.ok d, fs')) :
    ∃ bytes, fs.contents path = .ok bytes := by
  rw [load, Disk.bind_apply, Disk.get_apply, if_pos hhas] at h
  cases hread : fs.contents path with
  | error fault => simp only [hread, Disk.pure_apply] at h; cases h
  | ok bytes => exact ⟨bytes, rfl⟩

/-- The ways in which a dictionary file that is missing can be created. However that ends, the
dictionary is empty. -/
theorem Dictionary.load_cases_of_missing {path : Text} {fs fs' : FileSystem}
    {r : Except LoadError Dictionary} (hmissing : ¬ fs.has path = true)
    (h : load path fs = (r, fs')) : r = .ok {} ∧
      ((∃ fault, Disk.ensureParent path fs = (.error fault, fs')) ∨
        ∃ fs₁, Disk.ensureParent path fs = (.ok (), fs₁) ∧
          ((∃ fault, fs₁.writeFile path [] = .error fault ∧ fs' = fs₁) ∨
            fs₁.writeFile path [] = .ok fs')) := by
  rw [load, Disk.bind_apply, Disk.get_apply, if_neg hmissing] at h
  simp only [createEmpty, Disk.bind_apply, Disk.pure_apply] at h
  rcases hparent : Disk.ensureParent path fs with ⟨fault | u, fs₁⟩
  · simp only [hparent, Disk.pure_apply] at h
    cases h
    exact ⟨rfl, Or.inl ⟨fault, rfl⟩⟩
  · simp only [hparent, Disk.bind_apply, Disk.attempt_apply, Disk.pure_apply] at h
    cases hfile : fs₁.writeFile path [] with
    | error fault =>
      simp only [hfile] at h
      cases h
      exact ⟨rfl, Or.inr ⟨_, rfl, Or.inl ⟨fault, hfile, rfl⟩⟩⟩
    | ok fs₂ =>
      simp only [hfile] at h
      cases h
      exact ⟨rfl, Or.inr ⟨fs₁, rfl, Or.inr hfile⟩⟩

/-- Loading a dictionary leaves every file alone but its own. -/
theorem Dictionary.keeps_load {l : Location} {path : Text} {fs : FileSystem}
    (hne : Path.location path ≠ l) : FileSystem.Keeps l fs (Dictionary.load path fs).2 := by
  by_cases hhas : fs.has path = true
  · rw [load_disk_of_has hhas]
    exact FileSystem.Keeps.refl l fs
  · cases hload : load path fs with
    | mk r fs' =>
      rcases (load_cases_of_missing hhas hload).2 with ⟨_, hparent⟩ |
        ⟨fs₁, hparent, ⟨_, -, rfl⟩ | hfile⟩
      · exact FileSystem.keeps_ensureParent hparent
      · exact FileSystem.keeps_ensureParent hparent
      · exact (FileSystem.keeps_ensureParent hparent).trans
          (FileSystem.keeps_updateFile hfile hne)

theorem Dictionary.refuses_load (path : Text) (fs : FileSystem) :
    (Dictionary.load path fs).2.refuses = fs.refuses := by
  by_cases hhas : fs.has path = true
  · rw [load_disk_of_has hhas]
  · rcases hload : load path fs with ⟨r, fs'⟩
    rcases (load_cases_of_missing hhas hload).2 with ⟨_, hparent⟩ |
      ⟨fs₁, hparent, ⟨_, -, rfl⟩ | hfile⟩
    · exact FileSystem.refuses_ensureParent hparent
    · exact FileSystem.refuses_ensureParent hparent
    · exact (FileSystem.refuses_updateFile hfile).trans (FileSystem.refuses_ensureParent hparent)

/-- A dictionary that was loaded is loaded again from the file that is there then, also if this file
was created by the first loading. -/
theorem Dictionary.load_again {path : Text} {fs fs' : FileSystem} {d : Dictionary} {bytes : Bytes}
    (h : load path fs = (.ok d, fs')) (hread : fs'.contents path = .ok bytes) :
    load path fs' = (.ok d, fs') := by
  by_cases hhas : fs.has path = true
  · have hdisk := load_disk_of_has hhas
    rw [h] at hdisk
    dsimp only at hdisk
    rwa [← hdisk] at h
  · obtain ⟨hd, hcreated⟩ := load_cases_of_missing hhas h
    cases hd
    rcases hcreated with ⟨fault, hparent⟩ | ⟨fs₁, -, ⟨fault, hfile, rfl⟩ | hfile⟩
    · -- The way to a file that can be read is clear.
      obtain ⟨hpath, hslash, hway, -⟩ := FileSystem.contents_eq_ok_iff.mp hread
      obtain ⟨m, hm, hdir⟩ := FileSystem.exists_not_isDirectory_of_makeDirectories hparent
      exact absurd (hway m (Path.mem_stations_of_parent hpath hslash hm)) hdir
    · -- A file that can be read can be written.
      obtain ⟨hpath, hslash, hway, hbytes⟩ := FileSystem.contents_eq_ok_iff.mp hread
      obtain ⟨fs₂, hdone⟩ := FileSystem.exists_updateFile (fun _ => [])
        (FileSystem.reach_eq_ok_iff.mpr ⟨hpath, rfl, hway⟩) hslash
        (FileSystem.not_isDirectory_of_bytes? hbytes)
      cases hfile.symm.trans hdone
    · exact load_of_contents (FileSystem.contents_updateFile hfile)

/-- A dictionary file that is kept is loaded as before. -/
theorem Dictionary.load_of_keeps {path : Text} {fs fs' : FileSystem} {d : Dictionary}
    {bytes : Bytes} (h : load path fs = (.ok d, fs)) (hread : fs.contents path = .ok bytes)
    (hkeep : FileSystem.Keeps (Path.location path) fs fs') : load path fs' = (.ok d, fs') := by
  rw [load_of_contents hread] at h
  rw [load_of_contents (hkeep.contents hread), (Prod.mk.inj h).1]

namespace Live

theorem reconcileAndFlush_eq (live : Live) (fs : FileSystem) :
    live.reconcileAndFlush fs =
      (({ live with ledger := live.ledger.reconcile live.dictionary },
        ((live.ledger.reconcile live.dictionary).flush live.ledgerPath fs).1.map
          fun () => live.ledger.reconciliation live.dictionary),
        ((live.ledger.reconcile live.dictionary).flush live.ledgerPath fs).2) := by
  simp only [reconcileAndFlush, Disk.bind_apply]
  cases (((live.ledger.reconcile live.dictionary).flush live.ledgerPath fs).1) <;> rfl

def renew (live : Live) (d : Dictionary) (l : Ledger) : Live :=
  { live with dictionary := d, ledger := l, generation := live.generation + 1 }

/-- The three steps of a reload, when each of them can be done. -/
theorem reload_of_steps {live : Live} {d : Dictionary} {l : Ledger} {fs fs₁ fs' : FileSystem}
    (hload : Dictionary.load live.dictionaryPath fs = (.ok d, fs₁))
    (hread : Ledger.load live.ledgerPath fs₁ = (.ok l, fs₁))
    (hflush : (l.reconcile d).flush live.ledgerPath fs₁ = (.ok (), fs')) :
    live.reload fs = ((live.renew d (l.reconcile d),
      .ok ⟨live.generation + 1, l.reconciliation d⟩), fs') := by
  simp only [reload, Disk.bind_apply, hload, replaceDictionary, hread, reconcileAndFlush_eq,
    hflush, Except.map, Disk.pure_apply, renew]

/-- The ways in which a reload can end, with all that each of them leaves behind. -/
theorem reload_cases {live live' : Live} {fs fs' : FileSystem}
    {r : Except ReloadError ReloadSummary} (h : live.reload fs = ((live', r), fs')) :
    (∃ e, Dictionary.load live.dictionaryPath fs = (.error e, fs') ∧
      live' = live ∧ r = .error (.load e)) ∨
    ∃ d fs₁, Dictionary.load live.dictionaryPath fs = (.ok d, fs₁) ∧
      ((∃ e, Ledger.load live.ledgerPath fs₁ = (.error e, fs₁) ∧ fs' = fs₁ ∧
        live' = live.replaceDictionary d ∧ r = .error (.ledger e)) ∨
      ∃ l, Ledger.load live.ledgerPath fs₁ = (.ok l, fs₁) ∧
        live' = { live.replaceDictionary d with ledger := l.reconcile d } ∧
        ((∃ e, (l.reconcile d).flush live.ledgerPath fs₁ = (.error e, fs') ∧
          r = .error (.ledger e)) ∨
        ((l.reconcile d).flush live.ledgerPath fs₁ = (.ok (), fs') ∧
          r = .ok ⟨live.generation + 1, l.reconciliation d⟩))) := by
  simp only [reload, Disk.bind_apply] at h
  cases hload : Dictionary.load live.dictionaryPath fs with
  | mk loaded fs₁ =>
    cases loaded with
    | error e =>
      simp only [hload, Disk.pure_apply] at h
      cases h
      exact Or.inl ⟨e, rfl, rfl, rfl⟩
    | ok d =>
      refine Or.inr ⟨d, fs₁, rfl, ?_⟩
      simp only [hload, Disk.bind_apply, replaceDictionary] at h
      cases hread : Ledger.load live.ledgerPath fs₁ with
      | mk read fs₂ =>
        obtain rfl := Ledger.load_disk hread
        cases read with
        | error e =>
          simp only [hread, Disk.pure_apply] at h
          cases h
          exact Or.inl ⟨e, rfl, rfl, rfl, rfl⟩
        | ok l =>
          refine Or.inr ⟨l, rfl, ?_⟩
          simp only [hread, Disk.bind_apply, reconcileAndFlush_eq] at h
          cases hflush : (l.reconcile d).flush live.ledgerPath fs₂ with
          | mk flushed fs₃ =>
            cases flushed with
            | error e =>
              simp only [hflush, Except.map, Disk.pure_apply] at h
              cases h
              exact ⟨rfl, Or.inl ⟨e, rfl, rfl⟩⟩
            | ok u =>
              simp only [hflush, Except.map, Disk.pure_apply] at h
              cases h
              exact ⟨rfl, Or.inr ⟨rfl, rfl⟩⟩

/-- A reload changes nothing if the dictionary cannot be loaded; otherwise, however it ends, a new
generation is in use. -/
theorem reload_generation {live live' : Live} {fs fs' : FileSystem}
    {r : Except ReloadError ReloadSummary} (h : live.reload fs = ((live', r), fs')) :
    (∃ e, r = .error (.load e) ∧ live' = live ∧ fs' = fs) ∨
      ((∀ e, r ≠ .error (.load e)) ∧ live'.generation = live.generation + 1) := by
  rcases reload_cases h with ⟨e, hload, rfl, rfl⟩ | ⟨d, fs₁, -, hrest⟩
  · exact Or.inl ⟨e, rfl, rfl, Dictionary.load_error_disk hload⟩
  rcases hrest with ⟨e, -, -, rfl, rfl⟩ | ⟨l, -, rfl, ⟨e, -, rfl⟩ | ⟨-, rfl⟩⟩
  · exact Or.inr ⟨nofun, rfl⟩
  · exact Or.inr ⟨nofun, rfl⟩
  · exact Or.inr ⟨nofun, rfl⟩

/-- The ways in which a poll can end, with all that each of them leaves behind. -/
theorem poll_cases {w w' : Watcher} {live live' : Live} {o : PollOutcome} {fs fs' : FileSystem}
    (h : w.poll live fs = (((w', live'), o), fs')) :
    (fs.stamp? live.dictionaryPath = none ∧ w' = w ∧ live' = live ∧ o = .missing ∧ fs' = fs) ∨
    ∃ stamp, fs.stamp? live.dictionaryPath = some stamp ∧
      w' = { w with lastSeen := some stamp } ∧
      ((w.changed stamp = false ∧ live' = live ∧ fs' = fs ∧
          o = if w.lastSeen.isNone then .baseline else .unchanged) ∨
        (w.changed stamp = true ∧
          ∃ r, live.reload fs = ((live', r), fs') ∧ o = .ofReload r)) := by
  rw [Watcher.poll, Disk.bind_apply, Disk.get_apply] at h
  cases hstamp : fs.stamp? live.dictionaryPath with
  | none =>
    simp only [hstamp, Disk.pure_apply] at h
    cases h
    exact Or.inl ⟨rfl, rfl, rfl, rfl, rfl⟩
  | some stamp =>
    refine Or.inr ⟨stamp, rfl, ?_⟩
    simp only [hstamp] at h
    cases hchanged : w.changed stamp with
    | false =>
      simp only [hchanged, Bool.false_eq_true, if_false] at h
      cases hseen : w.lastSeen.isNone with
      | false =>
        simp only [hseen, Bool.false_eq_true, if_false, Disk.pure_apply] at h
        cases h
        exact ⟨rfl, Or.inl ⟨rfl, rfl, rfl, rfl⟩⟩
      | true =>
        simp only [hseen, if_true, Disk.pure_apply] at h
        cases h
        exact ⟨rfl, Or.inl ⟨rfl, rfl, rfl, rfl⟩⟩
    | true =>
      simp only [hchanged, if_true, Disk.bind_apply] at h
      cases hreload : live.reload fs with
      | mk reloaded fs₁ =>
        simp only [hreload, Disk.pure_apply] at h
        cases h
        exact ⟨rfl, Or.inr ⟨rfl, _, rfl, rfl⟩⟩

/-- To start a watcher that does not run is to poll once, if there is a thread for it. -/
theorem start_of_idle {w : Watcher} (hidle : w.running = false) (live : Live) (fs : FileSystem) :
    w.start live fs =
      match fs.refuses.spawn with
      | some fault => (.error (.notSpawned fault), fs)
      | none =>
        (.ok (Watcher.poll { w with state := .watching, running := true } live fs).1.1,
          (Watcher.poll { w with state := .watching, running := true } live fs).2) := by
  simp only [Watcher.start, hidle, Bool.false_eq_true, if_false, Disk.bind_apply, Disk.get_apply]
  cases fs.refuses.spawn <;> rfl

/-- Just after a flush, and with the dictionary file there, no fault of the ledger can come. -/
theorem reload_error_of_flushed {live live' : Live} {l : Ledger} {fs₀ fs fs' : FileSystem}
    {fault : ReloadError}
    (hflush : l.flush live.ledgerPath fs₀ = (.ok (), fs))
    (hhas : fs.has live.dictionaryPath = true)
    (h : live.reload fs = ((live', .error fault), fs')) : ∃ e, fault = .load e := by
  rcases reload_cases h with ⟨e, -, -, hfault⟩ | ⟨d, fs₁, hload, hrest⟩
  · cases hfault
    exact ⟨e, rfl⟩
  · have hdisk := Dictionary.load_disk_of_has hhas
    rw [hload] at hdisk
    dsimp only at hdisk
    subst hdisk
    have hread := Ledger.load_of_contents (Ledger.contents_flush hflush)
    rcases hrest with ⟨e, herror, -⟩ | ⟨l', hloaded, -, ⟨e, herror, -⟩ | ⟨-, hdone⟩⟩
    · rw [hread] at herror
      cases herror
    · cases hread.symm.trans hloaded
      -- What is read from a file without bytes is written without bytes.
      have hempty : l.toBytes = [] → ((Ledger.ofBytes l.toBytes).reconcile d).toBytes = [] := by
        intro hnil
        rw [hnil]
        rfl
      obtain ⟨fs₂, hagain⟩ := Ledger.flush_again _ hflush hempty
      rw [hagain] at herror
      cases herror
    · cases hdone

def SameGeneration (live live' : Live) : Prop :=
  live'.dictionary = live.dictionary ∧ live'.generation = live.generation ∧
    live'.ledger = live.ledger

theorem sameGeneration_refl (live : Live) : SameGeneration live live := ⟨rfl, rfl, rfl⟩

/-- A reload that fails keeps the old generation exactly if the dictionary could not be loaded.
If it could, the new dictionary is in use and its number is one higher, although the reload
has failed. -/
theorem reload_error_sameGeneration_iff {live live' : Live} {fs fs' : FileSystem}
    {fault : ReloadError} (h : live.reload fs = ((live', .error fault), fs')) :
    (SameGeneration live live' ↔ ∃ e, (Dictionary.load live.dictionaryPath fs).1 = .error e) ∧
    (SameGeneration live live' ↔ ∃ e, fault = .load e) ∧
    ∀ d, (Dictionary.load live.dictionaryPath fs).1 = .ok d →
      live'.dictionary = d ∧ live'.generation = live.generation + 1 := by
  rcases reload_cases h with ⟨e, hload, rfl, hfault⟩ | ⟨d, fs₁, hload, hrest⟩
  · cases hfault
    refine ⟨?_, ?_, ?_⟩
    · exact ⟨fun _ => ⟨e, by rw [hload]⟩, fun _ => sameGeneration_refl live'⟩
    · exact ⟨fun _ => ⟨e, rfl⟩, fun _ => sameGeneration_refl live'⟩
    · intro d hd
      rw [hload] at hd
      cases hd
  · have hnew : live'.dictionary = d ∧ live'.generation = live.generation + 1 ∧
        ∃ e, fault = .ledger e := by
      rcases hrest with ⟨e, -, -, rfl, hfault⟩ | ⟨l, -, rfl, hrest⟩
      · cases hfault
        exact ⟨rfl, rfl, e, rfl⟩
      · rcases hrest with ⟨e, -, hfault⟩ | ⟨-, hdone⟩
        · cases hfault
          exact ⟨rfl, rfl, e, rfl⟩
        · cases hdone
    obtain ⟨hdict, hgen, e, rfl⟩ := hnew
    have hchanged : ¬ SameGeneration live live' := by
      intro hsameGeneration
      obtain ⟨-, hsame, -⟩ := hsameGeneration
      omega
    refine ⟨?_, ?_, ?_⟩
    · refine iff_of_false hchanged ?_
      intro hfailed
      obtain ⟨e', he'⟩ := hfailed
      rw [hload] at he'
      cases he'
    · refine iff_of_false hchanged ?_
      intro hfailed
      obtain ⟨e', he'⟩ := hfailed
      cases he'
    · intro d' hd'
      rw [hload] at hd'
      cases hd'
      exact ⟨hdict, hgen⟩

def blockedDisk : FileSystem where
  nodes := [([], .directory (.moment 0)), ([['d']], .file [] (.moment 1)),
    ([['l']], .directory (.moment 2))]
  clock := 3

def oneWord (dictionaryPath ledgerPath : Text) : Live :=
  ⟨dictionaryPath, ledgerPath, { words := ⟨[⟨['a'], ['b']⟩], by decide⟩ }, .empty, 0⟩

/-- With a directory for its dictionary file a reload fails and keeps the old word. -/
theorem sameGeneration_of_unreadable_dictionary :
    ∃ fault, (oneWord ['l'] ['x']).reload blockedDisk =
        ((oneWord ['l'] ['x'], .error fault), blockedDisk) ∧
      SameGeneration (oneWord ['l'] ['x']) (oneWord ['l'] ['x']) := by
  have hreload : (oneWord ['l'] ['x']).reload blockedDisk =
      ((oneWord ['l'] ['x'], .error (.load (.unreadable ['l'] .isDirectory))), blockedDisk) := rfl
  exact ⟨_, hreload, (reload_error_sameGeneration_iff hreload).2.1.mpr ⟨_, rfl⟩⟩

/-- With a directory where the ledger file should be a reload fails too, but the old word is
gone and the number is one higher: not every failed reload keeps the old generation. -/
theorem not_sameGeneration_of_unreadable_ledger :
    (∃ live' fs', (oneWord ['d'] ['l']).reload blockedDisk =
        ((live', .error (.ledger (.unreadable ['l'] .isDirectory))), fs') ∧
      (oneWord ['d'] ['l']).dictionary.lookup ['a'] = some ['b'] ∧
      live'.dictionary.lookup ['a'] = none ∧ live'.generation = 1) ∧
    ¬ ∀ (live live' : Live) (fs fs' : FileSystem) (fault : ReloadError),
      live.reload fs = ((live', .error fault), fs') → SameGeneration live live' := by
  have hreload : (oneWord ['d'] ['l']).reload blockedDisk =
      (((oneWord ['d'] ['l']).replaceDictionary {},
        .error (.ledger (.unreadable ['l'] .isDirectory))), blockedDisk) := rfl
  refine ⟨⟨_, _, hreload, by decide, by decide, rfl⟩, fun h => ?_⟩
  have hnumber := (h _ _ _ _ _ hreload).2.1
  exact absurd hnumber (by decide)

end Live

end Phrasebook
