import Phrasebook.Proofs.Translator.Coherence

/-!
What a start that fails leaves behind. Settings are only read. Of all files, a start can create the
dictionary file, where its path leads to nothing, and the temporary file of the ledger; the ledger
file itself is replaced by the last step but one, and if this step fails it is left alone. The last
step is to watch, and there can be no thread for that. So the files that were there before a failed
start are there afterwards with their bytes, except that the ledger file has been brought up to date
if the watcher was all that failed.

A path that leads to nothing is not the path of a missing file only: dots on it can lead back over
a directory that is missing. When this directory has been made, the path leads to a file that was
there, and the file is emptied.
-/

namespace Phrasebook

open FileSystem

/-- Settings are only read. -/
theorem JsonSettings.load_disk (path : Text) (fs : FileSystem) : (load path fs).2 = fs := by
  rw [load, Disk.bind_apply, Disk.get_apply]
  by_cases hhas : fs.has path = true
  · rw [if_pos hhas]
    cases hread : fs.contents path with
    | error fault => rfl
    | ok bytes =>
      dsimp only
      cases Utf8.decode? bytes with
      | none => rfl
      | some content => rfl
  · rw [if_neg hhas]
    rfl

/-- A dictionary file that is there is left alone by loading it, and so is every other file. -/
theorem Dictionary.keeps_load_of_has_or_ne {l : Location} {path : Text} {fs : FileSystem}
    (h : fs.has path = true ∨ Path.location path ≠ l) : Keeps l fs (load path fs).2 := by
  rcases h with hhas | hne
  · rw [load_disk_of_has hhas]
    exact Keeps.refl l fs
  · exact keeps_load hne

namespace Translator

def configured (settingsPath : Option Text) (fs : FileSystem) : Except SettingsError Config :=
  match (JsonSettings.load (settingsPath.getD defaultSettingsPath) fs).1 with
  | .error fault => .error fault
  | .ok s => Config.ofJson s

/-- To set up is to read the settings, and then to start as they say. -/
theorem setup_eq (settingsPath : Option Text) (fs : FileSystem) :
    setup settingsPath fs =
      match configured settingsPath fs with
      | .error fault => (.error (.settings fault), fs)
      | .ok config => ((start config fs).1.mapError .translator, (start config fs).2) := by
  simp only [setup, configured, Disk.bind_apply, JsonSettings.load_disk]
  cases (JsonSettings.load (settingsPath.getD defaultSettingsPath) fs).1 with
  | error fault => rfl
  | ok s =>
    dsimp only
    cases Config.ofJson s with
    | error fault => rfl
    | ok config => rfl

/-- A start that fails leaves all directories, and every file but the temporary one of the ledger
and a dictionary file whose path led to nothing, unless only the watcher has failed. -/
theorem keeps_start_error {config : Config} {fs fs' : FileSystem} {fault : TranslatorError}
    {l : Location} (h : start config fs = (.error fault, fs')) (hfault : ∀ e, fault ≠ .watcher e)
    (htemporary : Path.location (Path.temporary config.ledgerPath) ≠ l)
    (hdictionary : fs.has config.dictionaryPath = true ∨
      Path.location config.dictionaryPath ≠ l) : Keeps l fs fs' := by
  rcases start_cases h with ⟨e, hload, -⟩ | ⟨d, fs₁, hload, hrest⟩
  · obtain rfl := Dictionary.load_error_disk hload
    exact Keeps.refl l fs'
  have hloaded := Dictionary.keeps_load_of_has_or_ne hdictionary
  rw [hload] at hloaded
  rcases hrest with ⟨e, -, rfl, -⟩ | ⟨ledger, -, ⟨e, hflush, -⟩ | ⟨fs₂, -, hobserve⟩⟩
  · exact hloaded
  · exact hloaded.trans (Ledger.keeps_flush_error hflush htemporary)
  · rcases observe_cases hobserve with ⟨-, hdone, -⟩ | ⟨-, ⟨_, -, herror, -⟩ | ⟨_, _, _, -, hdone⟩⟩
    · cases hdone
    · cases herror
      exact absurd rfl (hfault _)
    · cases hdone

/-- If the watcher has failed, there was no thread for it, and all steps before were done. -/
theorem start_watcher_error {config : Config} {fs fs' : FileSystem} {e : WatcherError}
    (h : start config fs = (.error (.watcher e), fs')) :
    (config.observe = true ∧ ∃ f, fs.refuses.spawn = some f ∧ e = .notSpawned f) ∧
    ∃ d l fs₁, Dictionary.load config.dictionaryPath fs = (.ok d, fs₁) ∧
      Ledger.load config.ledgerPath fs₁ = (.ok l, fs₁) ∧
      (l.reconcile d).flush config.ledgerPath fs₁ = (.ok (), fs') := by
  rcases start_cases h with ⟨_, -, herror⟩ | ⟨d, fs₁, hload, ⟨_, -, -, herror⟩ | ⟨l, hread, hrest⟩⟩
  · cases herror
  · cases herror
  rcases hrest with ⟨_, -, herror⟩ | ⟨fs₂, hflush, hobserve⟩
  · cases herror
  rcases observe_cases hobserve with ⟨-, hdone, -⟩ |
    ⟨hasked, ⟨f, hspawn, herror, rfl⟩ | ⟨_, _, _, -, hdone⟩⟩
  · cases hdone
  · cases herror
    have hloaded := Dictionary.refuses_load config.dictionaryPath fs
    have hflushed := Ledger.refuses_flush (l.reconcile d) config.ledgerPath fs₁
    rw [hload] at hloaded
    rw [hflush, hloaded] at hflushed
    exact ⟨⟨hasked, f, hflushed ▸ hspawn, rfl⟩, d, l, fs₁, hload, hread, hflush⟩
  · cases hdone

/-- What a start that fails owes to the files that were there. The dictionary file has its old
bytes, and so has the ledger file unless there was no thread for the watcher; then it has the lines
of what the dictionary leaves of its entries. -/
structure Harmless (config : Config) (fault : TranslatorError) (fs fs' : FileSystem) : Prop where
  dictionary : ∀ bytes, fs.contents config.dictionaryPath = .ok bytes →
    fs'.contents config.dictionaryPath = .ok bytes
  ledger : ∀ bytes, fs.contents config.ledgerPath = .ok bytes → (∀ e, fault ≠ .watcher e) →
    fs'.contents config.ledgerPath = .ok bytes
  unwatched : ∀ e, fault = .watcher e →
    config.observe = true ∧ ∃ f, fs.refuses.spawn = some f ∧ e = .notSpawned f
  renewed : ∀ bytes e, fs.contents config.ledgerPath = .ok bytes → fault = .watcher e →
    ∃ d, (Dictionary.load config.dictionaryPath fs).1 = .ok d ∧
      fs'.contents config.ledgerPath = .ok ((Ledger.ofBytes bytes).reconcile d).toBytes

section Harmless

variable {config : Config} {fs fs' : FileSystem}

theorem harmless_of_error {fault : TranslatorError}
    (hdistinct : DistinctFiles config.dictionaryPath config.ledgerPath)
    (h : start config fs = (.error fault, fs')) (hfault : ∀ e, fault ≠ .watcher e) :
    Harmless config fault fs fs' where
  dictionary := by
    intro bytes hread
    have hhas := has_of_contents hread
    exact (keeps_start_error h hfault hdistinct.temporary (Or.inl hhas)).contents hread
  ledger := by
    intro bytes hread _
    have hne := hdistinct.ledger.symm
    exact (keeps_start_error h hfault hdistinct.own (Or.inr hne)).contents hread
  unwatched := fun e heq => absurd heq (hfault e)
  renewed := fun _ e _ heq => absurd heq (hfault e)

theorem harmless_of_watcher_error {e : WatcherError}
    (hdistinct : DistinctFiles config.dictionaryPath config.ledgerPath)
    (h : start config fs = (.error (.watcher e), fs')) : Harmless config (.watcher e) fs fs' := by
  obtain ⟨hunwatched, d, l, fs₁, hload, hloaded, hflush⟩ := start_watcher_error h
  refine ⟨fun bytes hread => ?_, fun _ _ hne => absurd rfl (hne e), fun _ heq => ?_,
    fun bytes _ hread _ => ?_⟩
  · have hkeep := Dictionary.keeps_load_of_has_or_ne (l := Path.location config.dictionaryPath)
      (Or.inl (has_of_contents hread))
    have hflushed := Ledger.keeps_flush (l.reconcile d) fs₁ hdistinct.ledger hdistinct.temporary
    rw [hload] at hkeep
    rw [hflush] at hflushed
    exact (hkeep.trans hflushed).contents hread
  · cases heq
    exact hunwatched
  · have hkeep := @Dictionary.keeps_load _ _ fs hdistinct.ledger.symm
    rw [hload] at hkeep
    cases (Ledger.load_of_contents (hkeep.contents hread)).symm.trans hloaded
    exact ⟨d, by rw [hload], Ledger.contents_flush hflush⟩

theorem harmless_of_start {fault : TranslatorError}
    (hdistinct : DistinctFiles config.dictionaryPath config.ledgerPath)
    (h : start config fs = (.error fault, fs')) : Harmless config fault fs fs' := by
  cases fault with
  | load e => exact harmless_of_error hdistinct h nofun
  | ledger e => exact harmless_of_error hdistinct h nofun
  | watcher e => exact harmless_of_watcher_error hdistinct h

end Harmless

/-- A failed start harms no file that its paths lead to, whether the configuration is given or comes
from settings. Only where there is no thread for the watcher, the ledger file has been brought up to
date. If the settings are at fault, nothing at all has changed. -/
theorem failed_start_harmless (fs fs' : FileSystem) :
    (∀ config fault, DistinctFiles config.dictionaryPath config.ledgerPath →
      start config fs = (.error fault, fs') → Harmless config fault fs fs') ∧
    ∀ settingsPath fault, setup settingsPath fs = (.error fault, fs') →
      (∀ e, fault = .settings e → fs' = fs) ∧
      (∀ e, configured settingsPath fs = .error e → fault = .settings e) ∧
      ∀ config, configured settingsPath fs = .ok config →
        DistinctFiles config.dictionaryPath config.ledgerPath →
          ∃ e, fault = .translator e ∧ Harmless config e fs fs' := by
  refine ⟨fun config fault hdistinct h => harmless_of_start hdistinct h, ?_⟩
  intro settingsPath fault h
  rw [setup_eq] at h
  cases hconfigured : configured settingsPath fs with
  | error e =>
    simp only [hconfigured] at h
    cases h
    exact ⟨fun _ _ => rfl, fun e' hsame => congrArg _ (Except.error.inj hsame), nofun⟩
  | ok config =>
    simp only [hconfigured] at h
    cases hstart : start config fs with
    | mk started fs₁ =>
      cases started with
      | ok t =>
        rw [hstart] at h
        cases h
      | error e =>
        rw [hstart] at h
        cases h
        refine ⟨nofun, nofun, fun config' hsame hdistinct => ?_⟩
        cases hsame
        exact ⟨e, rfl, harmless_of_start hdistinct hstart⟩

/-- A disk with both files under their default paths, and a directory where the temporary file of
the ledger has to be. -/
def obstructedDisk : FileSystem :=
  ⟨[([], .directory (.moment 0)), (["chs".toList], .directory (.moment 1)),
    (["chs".toList, "dictionary.txt".toList], .file [97, 61, 98] (.moment 2)),
    (["chs".toList, "notMatch.txt".toList], .file [99, 61, 99, 40, 99, 41, 10] (.moment 3)),
    (["chs".toList, "notMatch.tmp".toList], .directory (.moment 4))], 5, {}⟩

/-- Without settings a start on this disk fails for the sake of the ledger and keeps both files. With
a directory for its settings it fails too and changes nothing. -/
theorem failed_start_harmless_obstructed :
    (∃ e fs', setup none obstructedDisk = (.error (.translator (.ledger e)), fs') ∧
      fs'.contents "chs/dictionary.txt".toList = .ok [97, 61, 98] ∧
      fs'.contents "chs/notMatch.txt".toList = .ok [99, 61, 99, 40, 99, 41, 10]) ∧
    ∃ e fs', setup (some "chs".toList) obstructedDisk = (.error (.settings e), fs') ∧
      fs' = obstructedDisk := by
  have hdistinct : DistinctFiles ({} : Config).dictionaryPath ({} : Config).ledgerPath :=
    ⟨by decide, by decide, by decide⟩
  have hread : obstructedDisk.contents ({} : Config).dictionaryPath = .ok [97, 61, 98] := by decide
  have hledger : obstructedDisk.contents ({} : Config).ledgerPath =
      .ok [99, 61, 99, 40, 99, 41, 10] := by decide
  have hdictionary : ∃ d, Dictionary.read (Utf8.decodeLossy [97, 61, 98]) = .ok d :=
    ⟨{ words := ⟨[⟨['a'], ['b']⟩], by decide⟩ }, by decide +kernel⟩
  have hflush : ∀ l : Ledger, l.flush ({} : Config).ledgerPath obstructedDisk =
      (.error (.noTemporary .isDirectory), obstructedDisk) := fun l => rfl
  obtain ⟨d, hd⟩ := hdictionary
  have hstart : start {} obstructedDisk =
      (.error (.ledger (.noTemporary .isDirectory)), obstructedDisk) := by
    simp only [start, Disk.bind_apply, Dictionary.load_of_contents hread, hd, Except.mapError,
      Ledger.load_of_contents hledger, Live.reconcileAndFlush_eq, hflush, Except.map,
      Disk.pure_apply]
  have hconfigured : configured none obstructedDisk = .ok {} := rfl
  have hsetup : setup none obstructedDisk =
      (.error (.translator (.ledger (.noTemporary .isDirectory))), obstructedDisk) := by
    rw [setup_eq, hconfigured]
    simp only [hstart, Except.mapError]
  have hbad : setup (some "chs".toList) obstructedDisk =
      (.error (.settings (.unreadable "chs".toList .isDirectory)), obstructedDisk) := by rfl
  obtain ⟨e, he, hkept⟩ := ((failed_start_harmless _ _).2 _ _ hsetup).2.2 _ hconfigured hdistinct
  cases he
  refine ⟨⟨_, _, hsetup, hkept.dictionary _ hread, hkept.ledger _ hledger fun e heq => ?_⟩,
    _, _, hbad, ((failed_start_harmless _ _).2 _ _ hbad).1 _ rfl⟩
  cases heq

def threadFault : FileFault := .other "Resource temporarily unavailable (os error 11)".toList

def crossedDisk : FileSystem :=
  ⟨[([['d']], .file [1] (.moment 1)), ([['l']], .directory (.moment 2)),
    ([], .directory (.moment 0))], 3, {}⟩

/-- Not every file is harmed by no start that fails. Without a thread for the watcher the ledger file
is brought up to date, and a dictionary path that leads over a missing directory and back empties
the file that it then leads to, although the ledger cannot be read. -/
theorem not_failed_start_harmless :
    (∃ fs', start { here with observe := true }
        { Ledger.soleFile (Utf8.encode "a=x".toList) with refuses := { spawn := some threadFault } } =
          (.error (.watcher (.notSpawned threadFault)), fs') ∧
      fs'.contents ['l'] = .ok (Utf8.encode "a=a(a)\n".toList)) ∧
    (∃ fs', start { here with dictionaryPath := "x/../d".toList } crossedDisk =
        (.error (.ledger (.unreadable ['l'] .isDirectory)), fs') ∧
      crossedDisk.contents ['d'] = .ok [1] ∧ fs'.contents ['d'] = .ok []) ∧
    ¬ ∀ (config : Config) (fs fs' : FileSystem) (fault : TranslatorError),
      DistinctFiles config.dictionaryPath config.ledgerPath →
        start config fs = (.error fault, fs') →
          ∀ path ∈ [config.dictionaryPath, config.ledgerPath], ∀ bytes,
            fs.bytes? (Path.location path) = some bytes →
              fs'.bytes? (Path.location path) = some bytes := by
  have hstart : (start { here with observe := true } { Ledger.soleFile (Utf8.encode "a=x".toList) with
      refuses := { spawn := some threadFault } }).1 =
        .error (.watcher (.notSpawned threadFault)) := by decide +kernel
  refine ⟨⟨_, Prod.ext hstart rfl, by decide +kernel⟩, ⟨_, rfl, rfl, rfl⟩, fun hall => ?_⟩
  have hbytes := hall { here with dictionaryPath := "x/../d".toList } crossedDisk _ _
    ⟨by decide, by decide, by decide⟩ rfl "x/../d".toList List.mem_cons_self [1] rfl
  exact absurd hbytes (by decide)

end Translator

end Phrasebook
