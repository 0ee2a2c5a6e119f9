import Phrasebook.Proofs.Live.Polling

/-!
Whether the dictionary in use is the one in its file. A watcher only knows the time at which it
last saw the file, so this holds as long as no two contents of the file have one time: as soon as
the time that is remembered is that of the file, nothing was written since. What carries a run is
that the time remembered is one that the file has had, so that every writing makes it out of date.
Only a reload that failed leaves an old dictionary behind a time that is known already.
-/

namespace Phrasebook

open FileSystem

/-- The dictionary in use is the one that its file, which is there, is loaded as. -/
structure Live.Fresh (live : Live) (fs : FileSystem) : Prop where
  has : fs.has live.dictionaryPath = true
  loaded : Dictionary.load live.dictionaryPath fs = (.ok live.dictionary, fs)

theorem Live.reload_paths {live live' : Live} {fs fs' : FileSystem}
    {r : Except ReloadError ReloadSummary} (h : live.reload fs = ((live', r), fs')) :
    live'.dictionaryPath = live.dictionaryPath ∧ live'.ledgerPath = live.ledgerPath := by
  rcases reload_cases h with ⟨_, -, rfl, -⟩ | ⟨d, fs₁, -, ⟨_, -, -, rfl, -⟩ | ⟨l, -, rfl, -⟩⟩
  · exact ⟨rfl, rfl⟩
  · exact ⟨rfl, rfl⟩
  · exact ⟨rfl, rfl⟩

theorem Poll.paths_after (p : Poll) : p.liveAfter.dictionaryPath = p.live.dictionaryPath ∧
    p.liveAfter.ledgerPath = p.live.ledgerPath := by
  by_cases hattempted : p.Attempted
  · obtain ⟨r, hreload, -⟩ := hattempted
    exact Live.reload_paths hreload
  · obtain ⟨hlive, -⟩ := idle_of_not_attempted hattempted
    rw [hlive]
    exact ⟨rfl, rfl⟩

/-- After a reload that succeeds the dictionary in use is the one in the file: what the reload
writes is not the dictionary file. -/
theorem Live.fresh_of_reload {live live' : Live} {fs fs' : FileSystem} {summary : ReloadSummary}
    (hdistinct : DistinctFiles live.dictionaryPath live.ledgerPath)
    (hhas : fs.has live.dictionaryPath = true)
    (h : live.reload fs = ((live', .ok summary), fs')) : live'.Fresh fs' := by
  rcases reload_cases h with ⟨_, -, -, herror⟩ | ⟨d, fs₁, hload, hrest⟩
  · cases herror
  rcases hrest with ⟨_, -, -, -, herror⟩ | ⟨l, -, rfl, ⟨_, -, herror⟩ | ⟨hflush, -⟩⟩
  · cases herror
  · cases herror
  obtain ⟨bytes, hread⟩ := Dictionary.contents_of_load_ok hhas hload
  obtain rfl : fs = fs₁ := by rw [← Dictionary.load_disk_of_has hhas, hload]
  have hkeep := Ledger.keeps_flush (l.reconcile d) fs hdistinct.ledger hdistinct.temporary
  rw [hflush] at hkeep
  exact ⟨has_of_contents (hkeep.contents hread), Dictionary.load_of_keeps hload hread hkeep⟩

def PollOutcome.isAttempt : PollOutcome → Bool
  | .reloaded _ => true
  | .failed _ => true
  | .missing => false
  | .baseline => false
  | .unchanged => false

def LastFailed (outcomes : List PollOutcome) : Prop :=
  ∃ fault, (outcomes.filter PollOutcome.isAttempt).getLast? = some (.failed fault)

theorem lastFailed_concat_failed (outcomes : List PollOutcome) (fault : ReloadError) :
    LastFailed (outcomes ++ [.failed fault]) :=
  ⟨fault, by simp [PollOutcome.isAttempt]⟩

theorem lastFailed_concat_iff {outcomes : List PollOutcome} {o : PollOutcome}
    (h : o.isAttempt = false) : LastFailed (outcomes ++ [o]) ↔ LastFailed outcomes := by
  rw [LastFailed, List.filter_append, List.filter_cons_of_neg (by simp [h]), List.filter_nil,
    List.append_nil, LastFailed]

/-- A new watcher at work, with the disks that it has passed through and the outcomes of its polls.
Between polls the dictionary file is written and removed, whatever else happens on the disk; a
writing gives it a time that it had on no disk before. If the first time is to be a baseline, the
first poll comes before any of this. -/
inductive Vigil (config : WatcherConfig) (live₀ : Live) (fs₀ : FileSystem) :
    List FileSystem → List PollOutcome → Watcher → Live → FileSystem → Prop
  | start : Vigil config live₀ fs₀ [fs₀] [] { config } live₀ fs₀
  | written {disks : List FileSystem} {outcomes : List PollOutcome} {w : Watcher} {live : Live}
      {fs fs' : FileSystem} {bytes : Bytes}
      (hrun : Vigil config live₀ fs₀ disks outcomes w live fs)
      (hready : config.skipFirst = false ∨ outcomes ≠ [])
      (hread : fs'.contents live.dictionaryPath = .ok bytes)
      (hnew : ∀ d ∈ disks, d.stamp? live.dictionaryPath ≠ fs'.stamp? live.dictionaryPath) :
      Vigil config live₀ fs₀ (disks ++ [fs']) outcomes w live fs'
  | removed {disks : List FileSystem} {outcomes : List PollOutcome} {w : Watcher} {live : Live}
      {fs fs' : FileSystem} (hrun : Vigil config live₀ fs₀ disks outcomes w live fs)
      (hready : config.skipFirst = false ∨ outcomes ≠ [])
      (hgone : fs'.stamp? live.dictionaryPath = none) :
      Vigil config live₀ fs₀ (disks ++ [fs']) outcomes w live fs'
  | polled {disks : List FileSystem} {outcomes : List PollOutcome} (p : Poll)
      (hrun : Vigil config live₀ fs₀ disks outcomes p.watcher p.live p.disk) :
      Vigil config live₀ fs₀ (disks ++ [p.diskAfter]) (outcomes ++ [p.outcome]) p.watcherAfter
        p.liveAfter p.diskAfter

/-- What holds at every moment of a vigil. The time that is remembered is one that the file has
had; if it is the time that the file has now, the dictionary in use is fresh, unless the last reload
failed. No time is remembered only before the first poll, or where a first time means a reload. -/
structure Wakeful (config : WatcherConfig) (live₀ : Live) (disks : List FileSystem)
    (outcomes : List PollOutcome) (w : Watcher) (live : Live) (fs : FileSystem) : Prop where
  config_eq : w.config = config
  dictionaryPath_eq : live.dictionaryPath = live₀.dictionaryPath
  ledgerPath_eq : live.ledgerPath = live₀.ledgerPath
  disk_mem : fs ∈ disks
  first : w.lastSeen = none → config.skipFirst = true → outcomes = [] ∧ live.Fresh fs
  seen : ∀ time, w.lastSeen = some time → ∃ d ∈ disks, d.stamp? live.dictionaryPath = some time
  known : ∀ time, w.lastSeen = some time → fs.stamp? live.dictionaryPath = some time →
    ¬ LastFailed outcomes → live.Fresh fs

namespace Wakeful

variable {config : WatcherConfig} {live₀ live : Live} {disks : List FileSystem}
  {outcomes : List PollOutcome} {w : Watcher} {fs fs' : FileSystem}

theorem start (config : WatcherConfig) (hfresh : live₀.Fresh fs) :
    Wakeful config live₀ [fs] [] { config } live₀ fs where
  config_eq := rfl
  dictionaryPath_eq := rfl
  ledgerPath_eq := rfl
  disk_mem := List.mem_singleton_self fs
  first := fun _ _ => ⟨rfl, hfresh⟩
  seen := nofun
  known := nofun

/-- An edit after which the file does not have a time of before. -/
theorem edited (h : Wakeful config live₀ disks outcomes w live fs)
    (hready : config.skipFirst = false ∨ outcomes ≠ [])
    (hnew : ∀ time, fs'.stamp? live.dictionaryPath = some time →
      ∀ d ∈ disks, d.stamp? live.dictionaryPath ≠ some time) :
    Wakeful config live₀ (disks ++ [fs']) outcomes w live fs' where
  config_eq := h.config_eq
  dictionaryPath_eq := h.dictionaryPath_eq
  ledgerPath_eq := h.ledgerPath_eq
  disk_mem := List.mem_append_right _ (List.mem_singleton_self fs')
  first := by
    intro hnone hskip
    obtain ⟨hnil, -⟩ := h.first hnone hskip
    rcases hready with hnoskip | hpolled
    · rw [hskip] at hnoskip
      cases hnoskip
    · exact absurd hnil hpolled
  seen := by
    intro time htime
    obtain ⟨d, hd, hstamp⟩ := h.seen time htime
    exact ⟨d, List.mem_append_left _ hd, hstamp⟩
  known := by
    intro time htime hstamp _
    obtain ⟨d, hd, hold⟩ := h.seen time htime
    exact absurd hold (hnew time hstamp d hd)

section Poll

variable {p : Poll}

/-- What a poll that finds the file leaves in use is fresh, unless the last reload failed. -/
theorem fresh_after_poll (h : Wakeful config live₀ disks outcomes p.watcher p.live p.disk)
    (hdistinct : DistinctFiles live₀.dictionaryPath live₀.ledgerPath)
    (hfound : p.outcome ≠ .missing) (hdone : ¬ LastFailed (outcomes ++ [p.outcome])) :
    p.liveAfter.Fresh p.diskAfter := by
  rcases p.made_cases.2 with ⟨-, houtcome, -⟩ | ⟨time, htime, hrest⟩
  · exact absurd houtcome hfound
  rcases hrest with ⟨hnone, hskip, -, hlive, hdisk⟩ | ⟨hseen, houtcome, hlive, hdisk⟩ |
    ⟨-, -, r, hreload, houtcome⟩
  · rw [hlive, hdisk]
    rw [h.config_eq] at hskip
    exact (h.first hnone hskip).2
  · rw [houtcome, lastFailed_concat_iff rfl] at hdone
    rw [hlive, hdisk]
    exact h.known time hseen htime hdone
  · cases r with
    | error fault =>
      rw [houtcome] at hdone
      exact absurd (lastFailed_concat_failed outcomes fault) hdone
    | ok summary =>
      rw [← h.dictionaryPath_eq, ← h.ledgerPath_eq] at hdistinct
      exact Live.fresh_of_reload hdistinct (has_of_stamp? htime) hreload

theorem polled (h : Wakeful config live₀ disks outcomes p.watcher p.live p.disk)
    (hdistinct : DistinctFiles live₀.dictionaryPath live₀.ledgerPath) :
    Wakeful config live₀ (disks ++ [p.diskAfter]) (outcomes ++ [p.outcome]) p.watcherAfter
      p.liveAfter p.diskAfter := by
  obtain ⟨hdictionaryPath, hledgerPath⟩ := p.paths_after
  have hwatcher := p.watcherAfter_eq
  refine ⟨?_, hdictionaryPath.trans h.dictionaryPath_eq, hledgerPath.trans h.ledgerPath_eq,
    List.mem_append_right _ (List.mem_singleton_self _), ?_, ?_, ?_⟩
  · rw [hwatcher]
    exact h.config_eq
  · intro hnone hskip
    rw [hwatcher, Option.or_eq_none_iff] at hnone
    obtain ⟨time, htime⟩ := exists_stamp?_of_has (h.first hnone.2 hskip).2.has
    rw [Poll.time?, htime] at hnone
    cases hnone.1
  · intro time hseen
    rw [hwatcher] at hseen
    rw [hdictionaryPath]
    cases htime : p.time? with
    | none =>
      rw [htime, Option.none_or] at hseen
      obtain ⟨d, hd, hstamp⟩ := h.seen time hseen
      exact ⟨d, List.mem_append_left _ hd, hstamp⟩
    | some found =>
      rw [htime, Option.some_or] at hseen
      exact ⟨p.disk, List.mem_append_left _ h.disk_mem, htime.trans hseen⟩
  · intro time _ hstamp hdone
    refine h.fresh_after_poll hdistinct (fun hmissing => ?_) hdone
    have hidle := Poll.idle_of_not_attempted fun hattempted => hattempted.outcome_ne.1 hmissing
    rw [hdictionaryPath, hidle.2] at hstamp
    have hnone := p.outcome_eq_missing_iff.mp hmissing
    rw [Poll.time?, hstamp] at hnone
    cases hnone

end Poll

end Wakeful

namespace Vigil

variable {config : WatcherConfig} {live₀ live : Live} {fs₀ fs fs' : FileSystem}
  {disks : List FileSystem} {outcomes : List PollOutcome} {w : Watcher}

theorem wakeful (hrun : Vigil config live₀ fs₀ disks outcomes w live fs)
    (hdistinct : DistinctFiles live₀.dictionaryPath live₀.ledgerPath) (hfresh : live₀.Fresh fs₀) :
    Wakeful config live₀ disks outcomes w live fs := by
  induction hrun with
  | start => exact Wakeful.start config hfresh
  | written hrun hready hread hnew ih =>
    refine ih.edited hready fun time htime d hd => ?_
    rw [← htime]
    exact hnew d hd
  | removed hrun hready hgone ih =>
    refine ih.edited hready fun time htime => ?_
    rw [hgone] at htime
    cases htime
  | polled p hrun ih => exact ih.polled hdistinct

/-- To write the dictionary file is a step, if the time that this gives it is new. -/
theorem write {bytes : Bytes} (hrun : Vigil config live₀ fs₀ disks outcomes w live fs)
    (hready : config.skipFirst = false ∨ outcomes ≠ [])
    (hdone : fs.writeFile live.dictionaryPath bytes = .ok fs')
    (hnew : ∀ d ∈ disks, d.stamp? live.dictionaryPath ≠ fs'.stamp? live.dictionaryPath) :
    Vigil config live₀ fs₀ (disks ++ [fs']) outcomes w live fs' :=
  hrun.written hready (contents_updateFile hdone) hnew

/-- To remove the dictionary file is a step. -/
theorem remove (hrun : Vigil config live₀ fs₀ disks outcomes w live fs)
    (hready : config.skipFirst = false ∨ outcomes ≠ [])
    (hdone : fs.removeFile live.dictionaryPath = .ok fs') :
    Vigil config live₀ fs₀ (disks ++ [fs']) outcomes w live fs' :=
  hrun.removed hready (stamp?_removeFile hdone)

/-- Through writings, removals and polls in any order, a poll that finds the dictionary file leaves
in use what this file is loaded as then, unless the last reload that was tried has failed. A poll
that finds no file leaves in use what was in use. -/
theorem poll_serves_current (hdistinct : DistinctFiles live₀.dictionaryPath live₀.ledgerPath)
    (hfresh : live₀.Fresh fs₀) (p : Poll)
    (hrun : Vigil config live₀ fs₀ disks outcomes p.watcher p.live p.disk) :
    (p.outcome ≠ .missing → ¬ LastFailed (outcomes ++ [p.outcome]) →
      p.liveAfter.Fresh p.diskAfter) ∧
    (p.outcome = .missing → p.liveAfter = p.live ∧ p.diskAfter = p.disk) := by
  refine ⟨fun hfound hdone => ?_, fun hmissing => ?_⟩
  · exact (hrun.wakeful hdistinct hfresh).fresh_after_poll hdistinct hfound hdone
  · exact Poll.idle_of_not_attempted fun hattempted => hattempted.outcome_ne.1 hmissing

def dictionaryDisk (bytes : Bytes) (moment : Nat) : FileSystem :=
  ⟨[([['d']], .file bytes (.moment moment)), ([], .directory (.moment 0))], moment + 1, {}⟩

/-- After a first poll for the baseline the value of the one word is written anew; the next poll
takes it into use. -/
theorem poll_serves_current_rewritten : ∃ (p : Poll) (summary : ReloadSummary),
    Vigil {} (Live.oneWord ['d'] ['l']) (dictionaryDisk [97, 61, 98] 1)
      [dictionaryDisk [97, 61, 98] 1, dictionaryDisk [97, 61, 98] 1,
        dictionaryDisk [97, 61, 99] 2] [.baseline] p.watcher p.live p.disk ∧
    p.outcome = .reloaded summary ∧ p.liveAfter.Fresh p.diskAfter ∧
    p.liveAfter.dictionary.lookup ['a'] = some ['c'] := by
  let first : Poll := ⟨{ config := {} }, Live.oneWord ['d'] ['l'], dictionaryDisk [97, 61, 98] 1⟩
  let p : Poll := ⟨first.watcherAfter, first.liveAfter, dictionaryDisk [97, 61, 99] 2⟩
  have hdistinct : DistinctFiles ['d'] ['l'] := ⟨by decide, by decide, by decide⟩
  have hread : Dictionary.read (Utf8.decodeLossy [97, 61, 98]) =
      .ok (Live.oneWord ['d'] ['l']).dictionary := by decide +kernel
  have hcontents : (dictionaryDisk [97, 61, 98] 1).contents ['d'] = .ok [97, 61, 98] := rfl
  have hfresh : (Live.oneWord ['d'] ['l']).Fresh (dictionaryDisk [97, 61, 98] 1) :=
    ⟨rfl, (Dictionary.load_of_contents hcontents).trans (by rw [hread]; rfl)⟩
  have hwrite : first.diskAfter.writeFile first.liveAfter.dictionaryPath [97, 61, 99] =
      .ok (dictionaryDisk [97, 61, 99] 2) := rfl
  have hrun := (Vigil.start.polled first).write (Or.inr (List.cons_ne_nil _ _)) hwrite (by decide)
  have houtcome : p.outcome = .reloaded ⟨1, ⟨0, 0⟩⟩ := by decide +kernel
  have hdone : ¬ LastFailed [.baseline, p.outcome] := by
    intro hfailed
    obtain ⟨fault, hlast⟩ := hfailed
    rw [houtcome] at hlast
    cases hlast
  refine ⟨p, _, hrun, houtcome, ?_, by decide +kernel⟩
  refine (poll_serves_current hdistinct hfresh p hrun).1 (fun hmissing => ?_) hdone
  rw [houtcome] at hmissing
  cases hmissing

end Vigil

end Phrasebook
