import Phrasebook.Proofs.Ledger.Entries
import Phrasebook.Proofs.Live.Reload
import Phrasebook.Translator.Basic

/-!
The ledger through a whole run of a translator: requests, reloads and reconciliations in any
order, looks of the watcher at the dictionary file in between, and anything done to other files.
As long as the ledger file can be read and written, its lines say what the ledger holds, each
entry is what the dictionary in use makes of its input, and an unresolved text stays until a
dictionary that resolves it comes into use.
-/

namespace Phrasebook

theorem Answer.isTranslated_ofResolution (r : Resolution) :
    (Answer.ofResolution r).isTranslated = r.resolved := by
  cases hr : r.resolved with
  | false => simp [Answer.ofResolution, hr, Answer.isTranslated]
  | true => simp [Answer.ofResolution, hr, Answer.isTranslated]

namespace Translator

open Text FileSystem

/-- The ledger file is neither the dictionary file nor its own temporary file. -/
structure Apart (config : Config) : Prop where
  dictionary : Path.location config.dictionaryPath ≠ Path.location config.ledgerPath
  temporary : Path.location (Path.temporary config.ledgerPath) ≠ Path.location config.ledgerPath

/-- The file, the entries and the dictionary of a translator belong together. -/
structure Coherent (config : Config) (t : Translator) (fs : FileSystem) : Prop where
  config_eq : t.config = config
  dictionaryPath_eq : t.live.dictionaryPath = config.dictionaryPath
  ledgerPath_eq : t.live.ledgerPath = config.ledgerPath
  /-- The file has a line for each of some entries, which make the ledger one after the other. -/
  written : ∃ es, (∀ e ∈ es, e.Legible) ∧ es.foldl Ledger.insert .empty = t.live.ledger ∧
    fs.contents config.ledgerPath = .ok (Utf8.encode (Ledger.linesOf es))
  input_ne : ∀ e ∈ t.live.ledger.entries, e.input ≠ []
  current : ∀ e ∈ t.live.ledger.entries, Ledger.refresh t.live.dictionary e = some e

namespace Coherent

variable {config : Config} {t : Translator} {fs fs' : FileSystem}

/-- The file is read as the ledger. -/
theorem contents (h : Coherent config t fs) : ∃ bytes,
    fs.contents config.ledgerPath = .ok bytes ∧ Ledger.ofBytes bytes = t.live.ledger := by
  obtain ⟨es, hlegible, hledger, hread⟩ := h.written
  exact ⟨_, hread, (Ledger.ofBytes_linesOf hlegible).trans hledger⟩

/-- What leaves the ledger file alone keeps the translator coherent. -/
theorem of_keeps (h : Coherent config t fs)
    (hkeep : Keeps (Path.location config.ledgerPath) fs fs') : Coherent config t fs' := by
  obtain ⟨es, hlegible, hledger, hread⟩ := h.written
  exact { h with written := ⟨es, hlegible, hledger, hkeep.contents hread⟩ }

end Coherent

/-- A ledger that was reconciled and flushed makes a translator coherent. -/
theorem coherent_of_flush {config : Config} {d : Dictionary} {l : Ledger} {fs fs' : FileSystem}
    (generation : Nat) (watcher : Option Watcher)
    (hinputs : ∀ e ∈ l.entries, e.input ≠ [])
    (hflush : (l.reconcile d).flush config.ledgerPath fs = (.ok (), fs')) :
    Coherent config
      ⟨config, ⟨config.dictionaryPath, config.ledgerPath, d, l.reconcile d, generation⟩, watcher⟩
      fs' := by
  have hrefreshed : ∀ e ∈ (l.reconcile d).entries, e.input ≠ [] ∧
      Ledger.refresh d e = some e ∧ e.Legible := by
    intro e he
    obtain ⟨a, ha, hrefresh⟩ := Ledger.mem_reconcile.mp he
    obtain ⟨hopen, rfl⟩ := Ledger.refresh_eq_some_iff.mp hrefresh
    exact ⟨hinputs a ha, Ledger.refresh_eq_some_iff.mpr ⟨hopen, rfl⟩,
      Entry.legible_ofResolution d (hinputs a ha)⟩
  refine ⟨rfl, rfl, rfl, ?_, fun e he => (hrefreshed e he).1, fun e he => (hrefreshed e he).2.1⟩
  exact ⟨(l.reconcile d).entries, fun e he => (hrefreshed e he).2.2,
    Ledger.foldl_insert_entries _, Ledger.contents_flush hflush⟩

section Step

variable {config : Config} {t : Translator} {fs fs' : FileSystem}

/-- Recording an unresolved text keeps a translator coherent, and the text is in the ledger. -/
theorem Coherent.record {input : Text} {l : Ledger} {new : Bool} (h : Coherent config t fs)
    (hopen : (t.live.dictionary.resolve input).resolved = false)
    (hrecord : t.live.ledger.recordAndAppend config.ledgerPath
      (.ofResolution input (t.live.dictionary.resolve input)) fs = ((l, .ok new), fs')) :
    Coherent config { t with live := { t.live with ledger := l } } fs' ∧
      l.contains input = true ∧ ∀ x, t.live.ledger.contains x = true → l.contains x = true := by
  rcases Ledger.recordAndAppend_cases hrecord with ⟨-, herror, -⟩ |
    ⟨-, hcontains, -, rfl, rfl⟩ | ⟨hinput, -, rfl, happend⟩
  · cases herror
  · exact ⟨h, hcontains, fun _ hx => hx⟩
  · rcases happend with ⟨fault, -, herror⟩ | ⟨happend, -⟩
    · cases herror
    · obtain ⟨es, hlegible, hledger, hread⟩ := h.written
      have hwritten := Ledger.contents_append_linesOf hread happend
      refine ⟨⟨h.config_eq, h.dictionaryPath_eq, h.ledgerPath_eq, ?_, ?_, ?_⟩,
        Ledger.contains_insert.mpr (Or.inl rfl),
        fun x hx => Ledger.contains_insert.mpr (Or.inr hx)⟩
      · refine ⟨_, ?_, ?_, hwritten⟩
        · intro e he
          rcases List.mem_append.mp he with he | he
          · exact hlegible e he
          · exact List.mem_singleton.mp he ▸ Entry.legible_ofResolution _ hinput
        · rw [List.foldl_append, hledger]
          rfl
      · intro e he
        rcases Ledger.mem_insertEntry he with rfl | he
        · exact hinput
        · exact h.input_ne e he
      · intro e he
        rcases Ledger.mem_insertEntry he with rfl | he
        · exact Ledger.refresh_eq_some_iff.mpr ⟨hopen, rfl⟩
        · exact h.current e he

/-- A reload keeps a translator coherent unless it fails for the sake of the ledger: what it has
read from the file, it brings up to date and writes back. -/
theorem Coherent.renewed {live' : Live} {r : Except ReloadError ReloadSummary}
    (watcher : Option Watcher) (h : Coherent config t fs)
    (hreload : t.live.reload fs = ((live', r), fs')) (hfile : ∀ fault, r ≠ .error (.ledger fault)) :
    Coherent config ⟨config, live', watcher⟩ fs' := by
  rcases Live.reload_cases hreload with ⟨e, hload, rfl, -⟩ | ⟨d, fs₁, hload, hrest⟩
  · have hfs := Dictionary.load_error_disk hload
    subst hfs
    exact { h with config_eq := rfl }
  rcases hrest with ⟨e, -, -, -, rfl⟩ | ⟨l, hl, rfl, hflush⟩
  · exact absurd rfl (hfile e)
  rcases hflush with ⟨e, -, rfl⟩ | ⟨hflush, -⟩
  · exact absurd rfl (hfile e)
  rw [h.ledgerPath_eq] at hl hflush
  have hdone := coherent_of_flush (t.live.generation + 1) watcher (Ledger.input_ne_of_load hl) hflush
  rw [← h.dictionaryPath_eq, ← h.ledgerPath_eq] at hdone
  exact hdone

/-- A reload that succeeds, or that cannot load the dictionary, keeps a translator coherent. In
the first case the ledger is the old one under the new dictionary. -/
theorem Coherent.reload {live' : Live} {r : Except ReloadError ReloadSummary}
    (watcher : Option Watcher) (h : Coherent config t fs) (hapart : Apart config)
    (hreload : t.live.reload fs = ((live', r), fs')) (hfile : ∀ fault, r ≠ .error (.ledger fault)) :
    Coherent config ⟨config, live', watcher⟩ fs' ∧
      ((∃ e, r = .error (.load e) ∧ live' = t.live) ∨
        (∃ summary, r = .ok summary) ∧ live'.generation = t.live.generation + 1 ∧
          live'.ledger = t.live.ledger.reconcile live'.dictionary) := by
  refine ⟨h.renewed watcher hreload hfile, ?_⟩
  rcases Live.reload_cases hreload with ⟨e, -, rfl, rfl⟩ | ⟨d, fs₁, hload, hrest⟩
  · exact Or.inl ⟨e, rfl, rfl⟩
  have hkeep : Keeps (Path.location config.ledgerPath) fs fs₁ := by
    have hkept : Keeps (Path.location config.ledgerPath) fs
        (Dictionary.load t.live.dictionaryPath fs).2 :=
      Dictionary.keeps_load (h.dictionaryPath_eq.symm ▸ hapart.dictionary)
    rwa [hload] at hkept
  obtain ⟨bytes, hread, hledger⟩ := (h.of_keeps hkeep).contents
  have hloaded := Ledger.load_of_contents hread
  rw [hledger, ← h.ledgerPath_eq] at hloaded
  rcases hrest with ⟨e, -, -, -, rfl⟩ | ⟨l, hl, rfl, hflush⟩
  · exact absurd rfl (hfile e)
  rw [hloaded] at hl
  cases hl
  rcases hflush with ⟨e, -, rfl⟩ | ⟨-, rfl⟩
  · exact absurd rfl (hfile e)
  · exact Or.inr ⟨⟨_, rfl⟩, rfl, rfl⟩

/-- Reconciling keeps a translator coherent. -/
theorem Coherent.reconcile {t' : Translator} {done : Reconciliation} (h : Coherent config t fs)
    (hreconcile : t.reconcile fs = ((t', .ok done), fs')) :
    Coherent config t' fs' ∧ t'.live.dictionary = t.live.dictionary ∧
      t'.live.ledger = t.live.ledger.reconcile t.live.dictionary := by
  simp only [Translator.reconcile, Disk.bind_apply, Live.reconcileAndFlush_eq] at hreconcile
  cases hflush : (t.live.ledger.reconcile t.live.dictionary).flush t.live.ledgerPath fs with
  | mk flushed fs₁ =>
    cases flushed with
    | error e =>
      simp only [hflush, Except.map, Except.mapError, Disk.pure_apply] at hreconcile
      cases hreconcile
    | ok u =>
      simp only [hflush, Except.map, Except.mapError, Disk.pure_apply] at hreconcile
      cases hreconcile
      rw [h.ledgerPath_eq] at hflush
      have hdone := coherent_of_flush t.live.generation t.watcher h.input_ne hflush
      rw [← h.dictionaryPath_eq, ← h.ledgerPath_eq, ← h.config_eq] at hdone
      have hconfig := h.config_eq
      refine ⟨?_, rfl, rfl⟩
      subst hconfig
      exact hdone

end Step

/-- The ways in which a text can be resolved, with all that each of them leaves behind. -/
theorem resolve_cases {t t' : Translator} {input : Text} {r : Resolution} {fs fs' : FileSystem}
    (h : t.resolve input fs = ((t', r), fs')) :
    r = t.live.dictionary.resolve input ∧
      (((r.resolved = true ∨ input = []) ∧ t' = t ∧ fs' = fs) ∨
        (r.resolved = false ∧ input ≠ [] ∧ ∃ l outcome,
          t.live.ledger.recordAndAppend t.config.ledgerPath (.ofResolution input r) fs =
            ((l, outcome), fs') ∧
          t' = { t with live := { t.live with ledger := l } })) := by
  unfold resolve at h
  cases hresolved : (t.live.dictionary.resolve input).resolved with
  | true =>
    simp only [hresolved, if_true, Disk.pure_apply] at h
    cases h
    exact ⟨rfl, Or.inl ⟨Or.inl hresolved, rfl, rfl⟩⟩
  | false =>
    simp only [hresolved, Bool.false_eq_true, if_false, Disk.bind_apply, recordUnresolved] at h
    by_cases hinput : input = []
    · simp only [hinput, List.isEmpty_nil, if_true, Disk.pure_apply] at h
      cases h
      exact ⟨by rw [hinput], Or.inl ⟨Or.inr hinput, rfl, rfl⟩⟩
    · have hempty : List.isEmpty input = false := by simpa using hinput
      simp only [hempty, Bool.false_eq_true, if_false, Disk.bind_apply, Disk.pure_apply] at h
      cases h
      exact ⟨rfl, Or.inr ⟨hresolved, hinput, _, _, rfl, rfl⟩⟩

theorem translate_cases {t t' : Translator} {input : Text} {answer : Answer}
    {fs fs' : FileSystem} (h : t.translate input fs = ((t', answer), fs')) :
    ∃ r, t.resolve input fs = ((t', r), fs') ∧ answer = .ofResolution r := by
  simp only [translate, Disk.bind_apply, Disk.pure_apply] at h
  cases h
  exact ⟨_, rfl, rfl⟩

theorem reload_cases {t t' : Translator} {done : Except TranslatorError ReloadSummary}
    {fs fs' : FileSystem} (h : t.reload fs = ((t', done), fs')) :
    ∃ live' r, t.live.reload fs = ((live', r), fs') ∧ t' = { t with live := live' } ∧
      done = r.mapError .ofReload := by
  simp only [reload, Disk.bind_apply, Disk.pure_apply] at h
  cases h
  exact ⟨_, _, rfl, rfl, rfl⟩

/-- A look of the watcher leaves the files and all that is live alone, or it is a reload. -/
theorem tick_cases {t t' : Translator} {fs fs' : FileSystem} (h : t.tick fs = (t', fs')) :
    (∃ watcher, t' = { t with watcher } ∧ fs' = fs) ∨
      ∃ w live' r watcher, t.watcher = some w ∧ t.live.reload fs = ((live', r), fs') ∧
        (w.poll t.live fs).1.2 = .ofReload r ∧ t' = ⟨t.config, live', watcher⟩ := by
  unfold tick at h
  cases hwatcher : t.watcher with
  | none =>
    simp only [hwatcher, Disk.pure_apply] at h
    cases h
    exact Or.inl ⟨t.watcher, rfl, rfl⟩
  | some w =>
    simp only [hwatcher, Disk.bind_apply, Watcher.tick] at h
    cases hrunning : w.running with
    | false =>
      simp only [hrunning, Bool.false_eq_true, if_false, Disk.pure_apply] at h
      cases h
      exact Or.inl ⟨some w, rfl, rfl⟩
    | true =>
      cases hpoll : w.poll t.live fs with
      | mk polled fs₁ =>
        obtain ⟨⟨w', live'⟩, o⟩ := polled
        simp only [hrunning, if_true, Disk.bind_apply, hpoll, Disk.pure_apply] at h
        cases h
        rcases Live.poll_cases hpoll with ⟨-, -, rfl, -, rfl⟩ | ⟨stamp, -, -, hrest⟩
        · exact Or.inl ⟨some w', rfl, rfl⟩
        rcases hrest with ⟨-, rfl, rfl, -⟩ | ⟨-, r, hreload, rfl⟩
        · exact Or.inl ⟨some w', rfl, rfl⟩
        · exact Or.inr ⟨w, live', r, some w', rfl, hreload, by rw [hpoll], rfl⟩

inductive Event where
  /-- A text was translated, with this answer. -/
  | translated (input : Text) (answer : Answer)
  /-- A text was resolved, in this way. -/
  | resolved (input : Text) (r : Resolution)
  /-- The ledger was brought up to date with this dictionary. -/
  | renewed (d : Dictionary)
  | quiet

/-- A text was answered as unresolved. -/
def Event.LeavesOpen (input : Text) : Event → Prop
  | .translated x answer => x = input ∧ answer.isTranslated = false
  | .resolved x r => x = input ∧ r.resolved = false
  | .renewed _ => False
  | .quiet => False

/-- If a text has to go into the ledger, its line can be written. -/
def CanRecord (t : Translator) (input : Text) (fs : FileSystem) : Prop :=
  input ≠ [] → (t.live.dictionary.resolve input).resolved = false →
    ∀ fault, (t.live.ledger.recordAndAppend t.config.ledgerPath
      (.ofResolution input (t.live.dictionary.resolve input)) fs).1.2 ≠ .error fault

/-- One step of a run in which the ledger file can always be read and written. A reload may fail
for the sake of the dictionary. What is not the translator's own work leaves the ledger file
alone; it may do anything to the dictionary file. -/
inductive Step : Translator → FileSystem → Event → Translator → FileSystem → Prop
  | translate {t t' : Translator} {fs fs' : FileSystem} {input : Text} {answer : Answer}
      (hdone : t.translate input fs = ((t', answer), fs')) (hfile : t.CanRecord input fs) :
      Step t fs (.translated input answer) t' fs'
  | resolve {t t' : Translator} {fs fs' : FileSystem} {input : Text} {r : Resolution}
      (hdone : t.resolve input fs = ((t', r), fs')) (hfile : t.CanRecord input fs) :
      Step t fs (.resolved input r) t' fs'
  | reload {t t' : Translator} {fs fs' : FileSystem} {summary : ReloadSummary}
      (hdone : t.reload fs = ((t', .ok summary), fs')) :
      Step t fs (.renewed t'.live.dictionary) t' fs'
  | reloadFailed {t t' : Translator} {fs fs' : FileSystem} {fault : LoadError}
      (hdone : t.reload fs = ((t', .error (.load fault)), fs')) : Step t fs .quiet t' fs'
  | reconcile {t t' : Translator} {fs fs' : FileSystem} {done : Reconciliation}
      (hdone : t.reconcile fs = ((t', .ok done), fs')) :
      Step t fs (.renewed t'.live.dictionary) t' fs'
  | tick {t t' : Translator} {fs fs' : FileSystem} (hdone : t.tick fs = (t', fs'))
      (hfile : ∀ w fault, t.watcher = some w →
        (w.poll t.live fs).1.2 ≠ .failed (.ledger fault)) :
      Step t fs (if t'.live.generation = t.live.generation then .quiet
        else .renewed t'.live.dictionary) t' fs'
  | elsewhere {t : Translator} {fs fs' : FileSystem}
      (hkeep : Keeps (Path.location t.config.ledgerPath) fs fs') : Step t fs .quiet t fs'

/-- Whatever is written into the dictionary file, its removal and a new time of it are steps. -/
theorem Step.of_dictionary_edit {t : Translator} {fs fs' : FileSystem} (hapart : Apart t.config)
    (hedit : (∃ bytes, fs.writeFile t.config.dictionaryPath bytes = .ok fs') ∨
      fs.removeFile t.config.dictionaryPath = .ok fs' ∨
      ∃ stamp, fs.setStamp t.config.dictionaryPath stamp = .ok fs') : Step t fs .quiet t fs' := by
  refine Step.elsewhere ?_
  rcases hedit with ⟨bytes, hdone⟩ | hdone | ⟨stamp, hdone⟩
  · exact keeps_updateFile hdone hapart.dictionary
  · exact keeps_removeFile hdone hapart.dictionary
  · exact keeps_setStamp hdone hapart.dictionary

inductive Run (t₀ : Translator) (fs₀ : FileSystem) :
    List Event → Translator → FileSystem → Prop
  | nil : Run t₀ fs₀ [] t₀ fs₀
  | snoc {t t' : Translator} {fs fs' : FileSystem} {events : List Event} {e : Event}
      (hrun : Run t₀ fs₀ events t fs) (hstep : Step t fs e t' fs') :
      Run t₀ fs₀ (events ++ [e]) t' fs'

/-- What one step does to a coherent translator: it stays coherent, what is left open is in the
ledger, and only a dictionary that resolves an input takes it out again. -/
structure Upholds (config : Config) (t : Translator) (e : Event) (t' : Translator)
    (fs' : FileSystem) : Prop where
  coherent : Coherent config t' fs'
  leaves : ∀ input, input ≠ [] → e.LeavesOpen input → t'.live.ledger.contains input = true
  keeps : ∀ input, t.live.ledger.contains input = true →
    (∀ d, e = .renewed d → (d.resolve input).resolved = false) →
    t'.live.ledger.contains input = true

section Step

variable {config : Config} {t t' : Translator} {fs fs' : FileSystem}

theorem Coherent.upholds_quiet (h : Coherent config t' fs')
    (hledger : t'.live.ledger = t.live.ledger) :
    Upholds config t .quiet t' fs' where
  coherent := h
  leaves := fun _ _ hopen => False.elim hopen
  keeps := fun _ hcontains _ => hledger ▸ hcontains

theorem Coherent.upholds_renewed (h : Coherent config t' fs')
    (hledger : t'.live.ledger = t.live.ledger.reconcile t'.live.dictionary) :
    Upholds config t (.renewed t'.live.dictionary) t' fs' where
  coherent := h
  leaves := fun _ _ hopen => False.elim hopen
  keeps := by
    intro input hcontains hopen
    rw [hledger]
    exact Ledger.contains_reconcile.mpr ⟨hcontains, hopen _ rfl⟩

/-- Resolving a text keeps a translator coherent; an unresolved text is in the ledger after. -/
theorem Coherent.resolve {input : Text} {r : Resolution} (h : Coherent config t fs)
    (hdone : t.resolve input fs = ((t', r), fs')) (hfile : t.CanRecord input fs) :
    Coherent config t' fs' ∧
      (input ≠ [] → r.resolved = false → t'.live.ledger.contains input = true) ∧
      ∀ x, t.live.ledger.contains x = true → t'.live.ledger.contains x = true := by
  obtain ⟨rfl, ⟨hsettled, rfl, rfl⟩ | ⟨hopen, hinput, l, outcome, hrecord, rfl⟩⟩ :=
    resolve_cases hdone
  · refine ⟨h, fun hinput hopen => ?_, fun _ hx => hx⟩
    rcases hsettled with hresolved | hnil
    · rw [hopen] at hresolved
      cases hresolved
    · exact absurd hnil hinput
  · cases outcome with
    | error fault =>
      have hnever := hfile hinput hopen fault
      rw [hrecord] at hnever
      exact absurd rfl hnever
    | ok new =>
      rw [h.config_eq] at hrecord
      obtain ⟨hcoherent, hcontains, hkept⟩ := h.record hopen hrecord
      exact ⟨hcoherent, fun _ _ => hcontains, hkept⟩

/-- What a step can be, apart from what it shows: a text is resolved, the dictionary file is loaded
again, the ledger is reconciled, or only the watcher or other files change. -/
theorem Step.cases {e : Event} (hstep : Step t fs e t' fs') :
    (∃ input r, t.resolve input fs = ((t', r), fs') ∧ t.CanRecord input fs ∧
      ∀ x, e.LeavesOpen x → x = input ∧ r.resolved = false) ∨
    (∃ live' r watcher, t.live.reload fs = ((live', r), fs') ∧
      (∀ fault, r ≠ .error (.ledger fault)) ∧ t' = ⟨t.config, live', watcher⟩ ∧
      e = if live'.generation = t.live.generation then .quiet else .renewed live'.dictionary) ∨
    (∃ done, t.reconcile fs = ((t', .ok done), fs') ∧ e = .renewed t'.live.dictionary) ∨
    (∃ watcher, Keeps (Path.location t.config.ledgerPath) fs fs' ∧ t' = { t with watcher } ∧
      e = .quiet) := by
  cases hstep with
  | translate hdone hfile =>
    obtain ⟨r, hresolve, rfl⟩ := translate_cases hdone
    refine Or.inl ⟨_, r, hresolve, hfile, ?_⟩
    intro x hleft
    exact ⟨hleft.1.symm, (Answer.isTranslated_ofResolution r).symm.trans hleft.2⟩
  | resolve hdone hfile =>
    refine Or.inl ⟨_, _, hdone, hfile, ?_⟩
    intro x hleft
    exact ⟨hleft.1.symm, hleft.2⟩
  | reload hdone =>
    obtain ⟨live', r, hreload, rfl, hr⟩ := reload_cases hdone
    rcases Live.reload_generation hreload with ⟨e, rfl, -⟩ | ⟨-, hnumber⟩
    · cases hr
    · refine Or.inr (Or.inl ⟨live', r, t.watcher, hreload, ?_, rfl, (if_neg (by omega)).symm⟩)
      rintro fault rfl
      cases hr
  | reloadFailed hdone =>
    obtain ⟨live', r, hreload, rfl, hr⟩ := reload_cases hdone
    rcases Live.reload_generation hreload with ⟨e, rfl, rfl, -⟩ | ⟨hloaded, -⟩
    · exact Or.inr (Or.inl ⟨t.live, _, t.watcher, hreload, nofun, rfl, (if_pos rfl).symm⟩)
    · cases r with
      | ok summary => cases hr
      | error e =>
        cases e with
        | ledger fault => cases hr
        | load fault => exact absurd rfl (hloaded fault)
  | reconcile hdone => exact Or.inr (Or.inr (Or.inl ⟨_, hdone, rfl⟩))
  | tick hdone hfile =>
    rcases tick_cases hdone with ⟨watcher, rfl, rfl⟩ |
      ⟨w, live', r, watcher, hwatcher, hreload, houtcome, rfl⟩
    · exact Or.inr (Or.inr (Or.inr ⟨watcher, Keeps.refl _ _, rfl, if_pos rfl⟩))
    · refine Or.inr (Or.inl ⟨live', r, watcher, hreload, ?_, rfl, rfl⟩)
      rintro fault rfl
      exact hfile w fault hwatcher houtcome
  | elsewhere hkeep => exact Or.inr (Or.inr (Or.inr ⟨t.watcher, hkeep, rfl, rfl⟩))

/-- Each kind of step keeps a translator coherent, even if the dictionary file is the ledger file
itself. -/
theorem Step.coherent {e : Event} (hstep : Step t fs e t' fs') (h : Coherent config t fs) :
    Coherent config t' fs' := by
  have hconfig := h.config_eq
  rcases hstep.cases with ⟨input, r, hresolve, hfile, -⟩ |
    ⟨live', r, watcher, hreload, hfile, rfl, -⟩ | ⟨done, hreconcile, -⟩ | ⟨watcher, hkeep, rfl, -⟩
  · exact (h.resolve hresolve hfile).1
  · subst hconfig
    exact h.renewed watcher hreload hfile
  · exact (h.reconcile hreconcile).1
  · subst hconfig
    exact { h.of_keeps hkeep with config_eq := rfl }

/-- What each kind of step does to a coherent translator. -/
theorem Step.upholds {e : Event} (hstep : Step t fs e t' fs') (h : Coherent config t fs)
    (hapart : Apart config) : Upholds config t e t' fs' := by
  have hafter := hstep.coherent h
  rcases hstep.cases with ⟨input, r, hresolve, hfile, hleaves⟩ |
    ⟨live', r, watcher, hreload, hfile, rfl, rfl⟩ | ⟨done, hreconcile, rfl⟩ |
    ⟨watcher, hkeep, rfl, rfl⟩
  · obtain ⟨-, hopen, hkept⟩ := h.resolve hresolve hfile
    refine ⟨hafter, ?_, fun x hx _ => hkept x hx⟩
    intro x hx hleft
    obtain ⟨rfl, hr⟩ := hleaves x hleft
    exact hopen hx hr
  · rcases (h.reload watcher hapart hreload hfile).2 with ⟨-, -, rfl⟩ | ⟨-, hnumber, hledger⟩
    · rw [if_pos rfl]
      exact hafter.upholds_quiet rfl
    · rw [if_neg (by omega)]
      exact hafter.upholds_renewed hledger
  · obtain ⟨-, hdictionary, hledger⟩ := h.reconcile hreconcile
    rw [← hdictionary] at hledger
    exact hafter.upholds_renewed hledger
  · exact hafter.upholds_quiet rfl

end Step

/-- The ways in which a start can end, with all that each of them leaves behind. -/
theorem start_cases {config : Config} {fs fs' : FileSystem} {r : Except TranslatorError Translator}
    (h : start config fs = (r, fs')) :
    (∃ e, Dictionary.load config.dictionaryPath fs = (.error e, fs') ∧ r = .error (.load e)) ∨
    ∃ d fs₁, Dictionary.load config.dictionaryPath fs = (.ok d, fs₁) ∧
      ((∃ e, Ledger.load config.ledgerPath fs₁ = (.error e, fs₁) ∧ fs' = fs₁ ∧
        r = .error (.ledger e)) ∨
      ∃ l, Ledger.load config.ledgerPath fs₁ = (.ok l, fs₁) ∧
        ((∃ e, (l.reconcile d).flush config.ledgerPath fs₁ = (.error e, fs') ∧
          r = .error (.ledger e)) ∨
        ∃ fs₂, (l.reconcile d).flush config.ledgerPath fs₁ = (.ok (), fs₂) ∧
          observe config ⟨config.dictionaryPath, config.ledgerPath, d, l.reconcile d, 0⟩ fs₂ =
            (r, fs'))) := by
  simp only [start, Disk.bind_apply] at h
  cases hload : Dictionary.load config.dictionaryPath fs with
  | mk loaded fs₁ =>
    cases loaded with
    | error e =>
      simp only [hload, Disk.pure_apply] at h
      cases h
      exact Or.inl ⟨e, rfl, rfl⟩
    | ok d =>
      refine Or.inr ⟨d, fs₁, rfl, ?_⟩
      simp only [hload, Disk.bind_apply] at h
      cases hread : Ledger.load config.ledgerPath fs₁ with
      | mk read fs₂ =>
        obtain rfl := Ledger.load_disk hread
        cases read with
        | error e =>
          simp only [hread, Disk.pure_apply] at h
          cases h
          exact Or.inl ⟨e, rfl, rfl, rfl⟩
        | ok l =>
          refine Or.inr ⟨l, rfl, ?_⟩
          simp only [hread, Disk.bind_apply, Live.reconcileAndFlush_eq] at h
          cases hflush : (l.reconcile d).flush config.ledgerPath fs₂ with
          | mk flushed fs₃ =>
            cases flushed with
            | error e =>
              simp only [hflush, Except.map, Disk.pure_apply] at h
              cases h
              exact Or.inl ⟨e, rfl, rfl⟩
            | ok u =>
              simp only [hflush, Except.map] at h
              exact Or.inr ⟨fs₃, rfl, h⟩

/-- The ways in which beginning to watch can end. If it is asked for, it is one poll, or there is
no thread for it, and nothing is done. -/
theorem observe_cases {config : Config} {live : Live} {fs fs' : FileSystem}
    {r : Except TranslatorError Translator} (h : observe config live fs = (r, fs')) :
    (config.observe = false ∧ r = .ok ⟨config, live, none⟩ ∧ fs' = fs) ∨
    (config.observe = true ∧
      ((∃ fault, fs.refuses.spawn = some fault ∧ r = .error (.watcher (.notSpawned fault)) ∧
        fs' = fs) ∨
      ∃ w' live' o, Watcher.poll { config := config.watcher, state := .watching, running := true }
        live fs = (((w', live'), o), fs') ∧ r = .ok ⟨config, live', some w'⟩)) := by
  unfold observe at h
  cases hasked : config.observe with
  | false =>
    simp only [hasked, Bool.false_eq_true, if_false, Disk.pure_apply] at h
    cases h
    exact Or.inl ⟨rfl, rfl, rfl⟩
  | true =>
    refine Or.inr ⟨rfl, ?_⟩
    simp only [hasked, if_true, Disk.bind_apply, Live.start_of_idle] at h
    cases hspawn : fs.refuses.spawn with
    | some fault =>
      simp only [hspawn, Disk.pure_apply] at h
      cases h
      exact Or.inl ⟨fault, rfl, rfl, rfl⟩
    | none =>
      simp only [hspawn, Disk.pure_apply] at h
      cases h
      exact Or.inr ⟨_, _, _, rfl, rfl⟩

/-- Beginning to watch keeps a translator coherent: just after a flush the first poll cannot fail
for the sake of the ledger. -/
theorem coherent_of_observe {config : Config} {live : Live} {t : Translator} {l : Ledger}
    {fs₀ fs fs' : FileSystem} (h : Coherent config ⟨config, live, none⟩ fs)
    (hflush : l.flush config.ledgerPath fs₀ = (.ok (), fs))
    (hobserve : observe config live fs = (.ok t, fs')) : Coherent config t fs' := by
  rcases observe_cases hobserve with ⟨-, ht, rfl⟩ | ⟨-, ⟨_, -, herror, -⟩ | ⟨w', live', o, hpoll, ht⟩⟩
  · cases ht
    exact h
  · cases herror
  cases ht
  rcases Live.poll_cases hpoll with ⟨-, -, rfl, -, rfl⟩ | ⟨stamp, hstamp, -, hrest⟩
  · exact { h with }
  rcases hrest with ⟨-, rfl, rfl, -⟩ | ⟨-, r, hreload, -⟩
  · exact { h with }
  · refine h.renewed (some w') hreload ?_
    rintro fault rfl
    obtain ⟨e, he⟩ := Live.reload_error_of_flushed (h.ledgerPath_eq.symm ▸ hflush)
      (has_of_stamp? hstamp) hreload
    cases he

/-- A translator that has been set up is coherent, whatever the ledger file held before. -/
theorem coherent_of_start {config : Config} {t : Translator} {fs fs' : FileSystem}
    (hstart : start config fs = (.ok t, fs')) : Coherent config t fs' := by
  rcases start_cases hstart with ⟨e, -, herror⟩ | ⟨d, fs₁, -, ⟨e, -, -, herror⟩ | ⟨l, hread, hrest⟩⟩
  · cases herror
  · cases herror
  rcases hrest with ⟨e, -, herror⟩ | ⟨fs₂, hflush, hobserve⟩
  · cases herror
  · exact coherent_of_observe (coherent_of_flush 0 none (Ledger.input_ne_of_load hread) hflush) hflush
      hobserve

/-- A text was left open, and no dictionary that resolves it has come into use since. -/
def Pending (events : List Event) (input : Text) : Prop :=
  ∃ before e after, events = before ++ e :: after ∧ e.LeavesOpen input ∧
    ∀ d, Event.renewed d ∈ after → (d.resolve input).resolved = false

/-- A coherent translator stays coherent through a run, and what is pending is in the ledger. -/
theorem Run.coherent {config : Config} {t₀ t : Translator} {fs₀ fs : FileSystem}
    {events : List Event} (hrun : Run t₀ fs₀ events t fs) (h : Coherent config t₀ fs₀)
    (hapart : Apart config) : Coherent config t fs ∧
      ∀ input, input ≠ [] → Pending events input → t.live.ledger.contains input = true := by
  induction hrun with
  | nil =>
    refine ⟨h, ?_⟩
    intro input _ hpending
    obtain ⟨before, e, after, hsplit, -⟩ := hpending
    simp at hsplit
  | snoc hrun hstep ih =>
    obtain ⟨hcoherent, hpending⟩ := ih
    have hupholds := hstep.upholds hcoherent hapart
    refine ⟨hupholds.coherent, ?_⟩
    intro input hinput hleft
    obtain ⟨before, x, after, hsplit, hopen, hsince⟩ := hleft
    rcases append_singleton_eq_append_cons hsplit with ⟨rfl, rfl⟩ | ⟨middle, rfl, hbefore⟩
    · exact hupholds.leaves input hinput hopen
    · refine hupholds.keeps input (hpending input hinput ⟨before, x, middle, hbefore, hopen, ?_⟩) ?_
      · intro d hd
        exact hsince d (by simp [hd])
      · intro d hlast
        subst hlast
        exact hsince d (by simp)

/-- From its start on and after every step of a run, a translator has a ledger file that is read
as its ledger; every entry has an input by which it is found, is unresolved under the dictionary
in use, and has the draft and the tokens that the dictionary gives it; and every text that was
left open is in the ledger, until a dictionary that resolves it comes into use. -/
theorem ledger_coherent {config : Config} {t₀ t : Translator} {fs fs₀ fs' : FileSystem}
    {events : List Event} (hapart : Apart config) (hstart : start config fs = (.ok t₀, fs₀))
    (hrun : Run t₀ fs₀ events t fs') :
    (∃ bytes, fs'.contents config.ledgerPath = .ok bytes ∧
      Ledger.ofBytes bytes = t.live.ledger) ∧
    (∀ e ∈ t.live.ledger.entries, e.input ≠ [] ∧ t.live.ledger.get? e.input = some e ∧
      (t.live.dictionary.resolve e.input).resolved = false ∧
      e.draft = (t.live.dictionary.resolve e.input).value ∧
      e.tokens = (t.live.dictionary.resolve e.input).tokens) ∧
    ∀ input, input ≠ [] → Pending events input → t.live.ledger.contains input = true := by
  obtain ⟨hcoherent, hpending⟩ := hrun.coherent (coherent_of_start hstart) hapart
  refine ⟨hcoherent.contents, fun e he => ?_, hpending⟩
  obtain ⟨hopen, heq⟩ := Ledger.refresh_eq_some_iff.mp (hcoherent.current e he)
  refine ⟨hcoherent.input_ne e he, Ledger.get?_of_mem he, hopen, ?_, ?_⟩
  · exact congrArg Entry.draft heq
  · exact congrArg Entry.tokens heq

def here : Config := { dictionaryPath := ['d'], ledgerPath := ['l'] }

theorem apart_here : Apart here := ⟨by decide, by decide⟩

def wordless (l : Ledger) : Translator := ⟨here, ⟨['d'], ['l'], {}, l, 0⟩, none⟩

def oneOpen : Ledger := Ledger.empty.insert ⟨['a'], ['a'], [['a']]⟩

/-- Set up on an empty disk, a translator cannot resolve the text `a`. The dictionary file gets a
value for it, but as long as no reload takes that into use, a reconciliation leaves the text in
the ledger and its file. -/
theorem ledger_coherent_here : ∃ t₀ fs₀ t fs, start here {} = (.ok t₀, fs₀) ∧
    Run t₀ fs₀ [.translated ['a'] (.unresolved ['a'] [['a']]), .quiet, .renewed {}] t fs ∧
    (∃ bytes, fs.contents ['l'] = .ok bytes ∧ Ledger.ofBytes bytes = t.live.ledger) ∧
    t.live.ledger.contains ['a'] = true := by
  let fs₀ : FileSystem := ⟨[([], .directory (.moment 6)), ([['l']], .file [] (.moment 4)),
    ([['d']], .file [] (.moment 2))], 7, {}⟩
  let fs₁ : FileSystem := ⟨[([['l']], .file [97, 61, 97, 40, 97, 41, 10] (.moment 7)),
    ([], .directory (.moment 6)), ([['d']], .file [] (.moment 2))], 8, {}⟩
  let fs₂ : FileSystem := ⟨[([['d']], .file [97, 61, 98] (.moment 8)),
    ([['l']], .file [97, 61, 97, 40, 97, 41, 10] (.moment 7)), ([], .directory (.moment 6))], 9, {}⟩
  let fs₃ : FileSystem := ⟨[([], .directory (.moment 12)),
    ([['l']], .file [97, 61, 97, 40, 97, 41, 10] (.moment 10)),
    ([['d']], .file [97, 61, 98] (.moment 8))], 13, {}⟩
  have hstart : start here {} = (.ok (wordless .empty), fs₀) := rfl
  have hanswer : (wordless .empty).translate ['a'] fs₀ =
      ((wordless oneOpen, .unresolved ['a'] [['a']]), fs₁) := rfl
  have hrecord : (Ledger.empty.recordAndAppend ['l']
      (.ofResolution ['a'] (({} : Dictionary).resolve ['a'])) fs₀).1.2 = .ok true := rfl
  have hwrite : fs₁.writeFile ['d'] [97, 61, 98] = .ok fs₂ := rfl
  have hdone : (wordless oneOpen).reconcile fs₂ = ((wordless oneOpen, .ok ⟨0, 1⟩), fs₃) := rfl
  have htranslate : Step (wordless .empty) fs₀
      (.translated ['a'] (.unresolved ['a'] [['a']])) (wordless oneOpen) fs₁ := by
    refine Step.translate hanswer fun _ _ fault herror => ?_
    cases hrecord.symm.trans herror
  have helsewhere : Step (wordless oneOpen) fs₁ .quiet (wordless oneOpen) fs₂ :=
    Step.of_dictionary_edit apart_here (Or.inl ⟨_, hwrite⟩)
  have hrun := ((Run.nil.snoc htranslate).snoc helsewhere).snoc (Step.reconcile hdone)
  obtain ⟨hfile, -, hpending⟩ := ledger_coherent apart_here hstart hrun
  refine ⟨_, fs₀, wordless oneOpen, fs₃, hstart, hrun, hfile, hpending ['a'] (by simp) ?_⟩
  refine ⟨[], _, [.quiet, .renewed {}], rfl, ⟨rfl, rfl⟩, ?_⟩
  intro d hd
  rcases List.mem_cons.mp hd with hd | hd
  · cases hd
  · cases List.mem_singleton.mp hd
    decide

end Translator

end Phrasebook
