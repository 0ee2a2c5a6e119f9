import Phrasebook.Proofs.Live.Reload

/-!
What a watcher makes of the times at which its polls find the dictionary file. It remembers the
time of the last poll that found the file at all, so what a poll does is told by the times of the
polls before it: the first time is a baseline or a change, later ones are compared with the last
one found, and a change is tried with one reload, however it ends. Between polls everything but
the memory of the watcher may change, the dictionary in use and the disk in any way.
-/

namespace Phrasebook

open Text

structure Poll where
  watcher : Watcher
  live : Live
  disk : FileSystem

namespace Poll

def made (p : Poll) : ((Watcher × Live) × PollOutcome) × FileSystem :=
  p.watcher.poll p.live p.disk

def watcherAfter (p : Poll) : Watcher := p.made.1.1.1

def liveAfter (p : Poll) : Live := p.made.1.1.2

def outcome (p : Poll) : PollOutcome := p.made.1.2

def diskAfter (p : Poll) : FileSystem := p.made.2

def time? (p : Poll) : Option Stamp := p.disk.stamp? p.live.dictionaryPath

def Idle (p : Poll) : Prop := p.liveAfter = p.live ∧ p.diskAfter = p.disk

/-- The poll does what one reload does and tells how the reload has ended. -/
def Attempted (p : Poll) : Prop :=
  ∃ r, p.live.reload p.disk = ((p.liveAfter, r), p.diskAfter) ∧ p.outcome = .ofReload r

/-- What one poll can do: it finds no file, finds a first time or finds the time that it knows,
and then leaves everything alone, or it makes one reload. -/
theorem made_cases (p : Poll) :
    p.watcherAfter = { p.watcher with lastSeen := p.time?.or p.watcher.lastSeen } ∧
    ((p.time? = none ∧ p.outcome = .missing ∧ p.Idle) ∨
      ∃ time, p.time? = some time ∧
        ((p.watcher.lastSeen = none ∧ p.watcher.config.skipFirst = true ∧
            p.outcome = .baseline ∧ p.Idle) ∨
          (p.watcher.lastSeen = some time ∧ p.outcome = .unchanged ∧ p.Idle) ∨
          (p.watcher.lastSeen ≠ some time ∧
            (p.watcher.lastSeen = none → p.watcher.config.skipFirst = false) ∧
            p.Attempted))) := by
  have hmade : p.watcher.poll p.live p.disk =
      (((p.watcherAfter, p.liveAfter), p.outcome), p.diskAfter) := rfl
  rcases Live.poll_cases hmade with
    ⟨htime, hwatcher, hlive, houtcome, hdisk⟩ | ⟨time, htime, hwatcher, hrest⟩
  · refine ⟨?_, Or.inl ⟨htime, houtcome, hlive, hdisk⟩⟩
    rw [hwatcher, time?, htime, Option.none_or]
  · refine ⟨by rw [hwatcher, time?, htime, Option.some_or], Or.inr ⟨time, htime, ?_⟩⟩
    rcases hrest with ⟨hsame, hlive, hdisk, houtcome⟩ | ⟨hchanged, hreload⟩
    · cases hseen : p.watcher.lastSeen with
      | none =>
        simp only [hseen, Option.isNone_none, if_true] at houtcome
        have hskip : p.watcher.config.skipFirst = true := by
          simpa only [Watcher.changed, hseen, Bool.not_eq_false'] using hsame
        exact Or.inl ⟨rfl, hskip, houtcome, hlive, hdisk⟩
      | some seen =>
        simp only [hseen, Option.isNone_some, Bool.false_eq_true, if_false] at houtcome
        have heq : seen = time := by
          simpa only [Watcher.changed, hseen, bne_eq_false_iff_eq] using hsame
        exact Or.inr (Or.inl ⟨congrArg some heq, houtcome, hlive, hdisk⟩)
    · refine Or.inr (Or.inr ⟨fun hseen => ?_, fun hseen => ?_, ?_⟩)
      · simp [Watcher.changed, hseen] at hchanged
      · simpa only [Watcher.changed, hseen, Bool.not_eq_true'] using hchanged
      · exact hreload

theorem watcherAfter_eq (p : Poll) :
    p.watcherAfter = { p.watcher with lastSeen := p.time?.or p.watcher.lastSeen } := p.made_cases.1

/-- The outcome of a reload is none of those of a poll without one. -/
theorem Attempted.outcome_ne {p : Poll} (h : p.Attempted) :
    p.outcome ≠ .missing ∧ p.outcome ≠ .baseline ∧ p.outcome ≠ .unchanged := by
  obtain ⟨r, -, houtcome⟩ := h
  rw [houtcome]
  cases r <;> exact ⟨nofun, nofun, nofun⟩

theorem outcome_eq_missing_iff (p : Poll) : p.outcome = .missing ↔ p.time? = none := by
  rcases p.made_cases.2 with ⟨htime, houtcome, -⟩ | ⟨time, htime, hrest⟩
  · exact iff_of_true houtcome htime
  · refine iff_of_false ?_ (by rw [htime]; exact nofun)
    rcases hrest with ⟨-, -, houtcome, -⟩ | ⟨-, houtcome, -⟩ | ⟨-, -, hattempted⟩
    · rw [houtcome]; exact nofun
    · rw [houtcome]; exact nofun
    · exact hattempted.outcome_ne.1

theorem outcome_eq_baseline_iff (p : Poll) : p.outcome = .baseline ↔
    p.time? ≠ none ∧ p.watcher.lastSeen = none ∧ p.watcher.config.skipFirst = true := by
  rcases p.made_cases.2 with ⟨htime, houtcome, -⟩ | ⟨time, htime, hrest⟩
  · exact iff_of_false (by rw [houtcome]; exact nofun) fun h => h.1 htime
  · have hfound : p.time? ≠ none := by rw [htime]; exact nofun
    rcases hrest with ⟨hseen, hskip, houtcome, -⟩ | ⟨hseen, houtcome, -⟩ | ⟨-, hskip, hattempted⟩
    · exact iff_of_true houtcome ⟨hfound, hseen, hskip⟩
    · refine iff_of_false (by rw [houtcome]; exact nofun) fun h => ?_
      rw [hseen] at h
      exact nomatch h.2.1
    · refine iff_of_false hattempted.outcome_ne.2.1 fun h => ?_
      rw [hskip h.2.1] at h
      exact nomatch h.2.2

theorem outcome_eq_unchanged_iff (p : Poll) : p.outcome = .unchanged ↔
    p.time? ≠ none ∧ p.time? = p.watcher.lastSeen := by
  rcases p.made_cases.2 with ⟨htime, houtcome, -⟩ | ⟨time, htime, hrest⟩
  · exact iff_of_false (by rw [houtcome]; exact nofun) fun h => h.1 htime
  · have hfound : p.time? ≠ none := by rw [htime]; exact nofun
    rcases hrest with ⟨hseen, -, houtcome, -⟩ | ⟨hseen, houtcome, -⟩ | ⟨hseen, -, hattempted⟩
    · refine iff_of_false (by rw [houtcome]; exact nofun) fun h => ?_
      exact hfound (h.2.trans hseen)
    · exact iff_of_true houtcome ⟨hfound, htime.trans hseen.symm⟩
    · refine iff_of_false hattempted.outcome_ne.2.2 fun h => ?_
      exact hseen (h.2.symm.trans htime)

theorem attempted_iff (p : Poll) : p.Attempted ↔
    p.time? ≠ none ∧ p.time? ≠ p.watcher.lastSeen ∧
      (p.watcher.lastSeen = none → p.watcher.config.skipFirst = false) := by
  constructor
  · intro hattempted
    obtain ⟨hmissing, hbaseline, hunchanged⟩ := hattempted.outcome_ne
    rw [Ne, outcome_eq_missing_iff] at hmissing
    rw [Ne, outcome_eq_baseline_iff] at hbaseline
    rw [Ne, outcome_eq_unchanged_iff] at hunchanged
    refine ⟨hmissing, fun heq => hunchanged ⟨hmissing, heq⟩, fun hseen => ?_⟩
    exact Bool.eq_false_iff.mpr fun hskip => hbaseline ⟨hmissing, hseen, hskip⟩
  · rintro ⟨hfound, hne, hskip⟩
    rcases p.made_cases.2 with ⟨htime, -⟩ | ⟨time, htime, hrest⟩
    · exact absurd htime hfound
    · rcases hrest with ⟨hseen, hskipped, -⟩ | ⟨hseen, -⟩ | ⟨-, -, hattempted⟩
      · rw [hskip hseen] at hskipped
        exact nomatch hskipped
      · exact absurd (htime.trans hseen.symm) hne
      · exact hattempted

/-- Without a reload a poll leaves everything alone. -/
theorem idle_of_not_attempted {p : Poll} (h : ¬ p.Attempted) : p.Idle := by
  rcases p.made_cases.2 with
    ⟨-, -, hidle⟩ | ⟨_, -, ⟨-, -, -, hidle⟩ | ⟨-, -, hidle⟩ | ⟨-, -, hattempted⟩⟩
  · exact hidle
  · exact hidle
  · exact hidle
  · exact absurd hattempted h

/-- A dictionary that cannot be loaded is not taken into use, and the ledger file is left. -/
theorem idle_of_load_fault {p : Poll} {e : LoadError} (h : p.outcome = .failed (.load e)) :
    p.Idle := by
  by_cases hattempted : p.Attempted
  · obtain ⟨r, hreload, houtcome⟩ := hattempted
    rw [h] at houtcome
    have hr : r = .error (.load e) := by
      cases r with
      | ok summary => exact nomatch houtcome
      | error fault => exact congrArg Except.error (PollOutcome.failed.inj houtcome).symm
    subst hr
    rcases Live.reload_cases hreload with ⟨e', hload, hlive, -⟩ | ⟨d, fs₁, -, hrest⟩
    · exact ⟨hlive, Dictionary.load_error_disk hload⟩
    · rcases hrest with ⟨e', -, -, -, hr⟩ | ⟨l, -, -, ⟨e', -, hr⟩ | ⟨-, hr⟩⟩ <;> exact nomatch hr
  · exact idle_of_not_attempted hattempted

end Poll

/-- The time that the last of these polls to find the file found. -/
def lastTime? (polls : List Poll) : Option Stamp := (polls.filterMap Poll.time?).getLast?

theorem lastTime?_concat (polls : List Poll) (p : Poll) :
    lastTime? (polls ++ [p]) = p.time?.or (lastTime? polls) := by
  rw [lastTime?, lastTime?, List.filterMap_append, List.getLast?_append]
  cases htime : p.time? <;> simp [htime]

theorem lastTime?_eq_none_iff {polls : List Poll} :
    lastTime? polls = none ↔ ∀ p ∈ polls, p.time? = none := by
  rw [lastTime?, List.getLast?_eq_none_iff, List.filterMap_eq_nil_iff]

namespace Watcher

/-- The same watcher at another moment: a start or a stop leaves alone what it remembers. -/
def Resumes (w w' : Watcher) : Prop := w'.config = w.config ∧ w'.lastSeen = w.lastSeen

theorem resumes_stop (w : Watcher) : w.Resumes w.stop ∧ w.stop.running = false := by
  rw [stop]
  cases hrunning : w.running with
  | false => exact ⟨⟨rfl, rfl⟩, hrunning⟩
  | true => exact ⟨⟨rfl, rfl⟩, rfl⟩

end Watcher

/-- Polls of a watcher one after the other, from its first on. -/
inductive History (config : WatcherConfig) : List Poll → Watcher → Prop
  | nil : History config [] { config }
  | snoc {polls : List Poll} {w : Watcher} (p : Poll) (hrun : History config polls w)
      (hsame : w.Resumes p.watcher) : History config (polls ++ [p]) p.watcherAfter

namespace History

variable {config : WatcherConfig} {polls earlier later : List Poll} {w : Watcher} {p : Poll}

/-- A watcher remembers the last time found. -/
theorem remembers (hrun : History config polls w) :
    w.config = config ∧ w.lastSeen = lastTime? polls := by
  induction hrun with
  | nil => exact ⟨rfl, rfl⟩
  | snoc p hrun hsame ih =>
    rw [p.watcherAfter_eq, lastTime?_concat]
    refine ⟨hsame.1.trans ih.1, ?_⟩
    dsimp only
    rw [hsame.2, ih.2]

/-- To stop a watcher that runs, and to start it again, is one more poll, if there is a thread for
it. -/
theorem restart (hrun : History config polls w) (live : Live) {fs : FileSystem}
    (hspawn : fs.refuses.spawn = none) :
    ∃ p : Poll, p.live = live ∧ p.disk = fs ∧
      w.stop.start live fs = (.ok (p.watcherAfter, p.liveAfter), p.diskAfter) ∧
      History config (polls ++ [p]) p.watcherAfter := by
  obtain ⟨hsame, hidle⟩ := w.resumes_stop
  refine ⟨⟨{ w.stop with state := .watching, running := true }, live, fs⟩, rfl, rfl, ?_,
    hrun.snoc _ hsame⟩
  rw [Live.start_of_idle hidle, hspawn]
  rfl

theorem remembers_before (hrun : History config polls w) (hsplit : polls = earlier ++ p :: later) :
    p.watcher.config = config ∧ p.watcher.lastSeen = lastTime? earlier := by
  induction hrun generalizing later with
  | nil => simp at hsplit
  | snoc x hrun hsame ih =>
    rcases append_singleton_eq_append_cons hsplit with ⟨rfl, rfl⟩ | ⟨middle, -, hbefore⟩
    · obtain rfl := List.append_inj_left' hsplit rfl
      exact ⟨hsame.1.trans hrun.remembers.1, hsame.2.trans hrun.remembers.2⟩
    · exact ih hbefore

/-- As long as no poll makes a reload, the last time found stays the one of the last reload. -/
theorem lastTime?_since {before middle : List Poll} {q : Poll} (hrun : History config polls w)
    (hsplit : polls = before ++ q :: (middle ++ later)) (hfound : q.time? ≠ none)
    (hidle : ∀ x ∈ middle, ¬ x.Attempted) : lastTime? (before ++ q :: middle) = q.time? := by
  induction middle using List.reverseRecOn generalizing later with
  | nil =>
    rw [lastTime?_concat]
    cases htime : q.time? with
    | none => exact absurd htime hfound
    | some time => rfl
  | append_singleton middle x ih =>
    rw [List.append_assoc] at hsplit
    have hlast := ih hsplit fun y hy => hidle y (List.mem_append_left _ hy)
    rw [← List.cons_append, ← List.append_assoc] at hsplit ⊢
    have hseen : x.watcher.lastSeen = q.time? :=
      (hrun.remembers_before hsplit).2.trans hlast
    rw [lastTime?_concat, hlast]
    cases htime : x.time? with
    | none => rfl
    | some time =>
      have hnot := hidle x (List.mem_append_right _ (List.mem_singleton_self x))
      rw [x.attempted_iff, hseen, htime] at hnot
      by_contra hne
      exact hnot ⟨nofun, hne, fun hnone => absurd hnone hfound⟩

/-- What a poll does is told by the times that the polls before it found. No file is missing and
changes nothing; the first time is a baseline if the watcher is told so; the last time found
means no change, however often the file has been missing since; and any other time means exactly
one reload. Whatever happens, a time that was found is remembered and the rest of the watcher
stays as it is. Two reloads with none between them are never for the same time. -/
theorem poll_by_times (hrun : History config polls w) (hsplit : polls = earlier ++ p :: later) :
    (p.outcome = .missing ↔ p.time? = none) ∧
    (p.outcome = .baseline ↔
      p.time? ≠ none ∧ (∀ q ∈ earlier, q.time? = none) ∧ config.skipFirst = true) ∧
    (p.outcome = .unchanged ↔ p.time? ≠ none ∧ p.time? = lastTime? earlier) ∧
    (p.Attempted ↔ p.time? ≠ none ∧ p.time? ≠ lastTime? earlier ∧
      ((∀ q ∈ earlier, q.time? = none) → config.skipFirst = false)) ∧
    p.watcher.lastSeen = lastTime? earlier ∧
    p.watcherAfter = { p.watcher with lastSeen := lastTime? (earlier ++ [p]) } ∧
    (p.outcome = .missing → p.watcherAfter = p.watcher) ∧
    (¬ p.Attempted ∨ (∃ e, p.outcome = .failed (.load e)) →
      p.liveAfter = p.live ∧ p.diskAfter = p.disk) ∧
    ∀ before q middle, earlier = before ++ q :: middle → q.Attempted →
      (∀ x ∈ middle, ¬ x.Attempted) → p.Attempted → p.time? ≠ q.time? := by
  obtain ⟨hconfig, hseen⟩ := hrun.remembers_before hsplit
  have hafter := p.watcherAfter_eq
  refine ⟨p.outcome_eq_missing_iff, ?_, ?_, ?_, hseen, ?_, fun hmissing => ?_, ?_, ?_⟩
  · rw [p.outcome_eq_baseline_iff, hseen, hconfig, lastTime?_eq_none_iff]
  · rw [p.outcome_eq_unchanged_iff, hseen]
  · rw [p.attempted_iff, hseen, hconfig, lastTime?_eq_none_iff]
  · rw [hafter, lastTime?_concat, hseen]
  · rw [hafter, p.outcome_eq_missing_iff.mp hmissing, Option.none_or]
  · rintro (hnot | ⟨e, hfailed⟩)
    · exact Poll.idle_of_not_attempted hnot
    · exact Poll.idle_of_load_fault hfailed
  · rintro before q middle rfl hq hidle hp
    have hfound := (q.attempted_iff.mp hq).1
    have hcut : polls = before ++ q :: (middle ++ p :: later) := by
      rw [hsplit, List.append_assoc, List.cons_append]
    rw [hrun.lastTime?_since hcut hfound hidle] at hseen
    rw [p.attempted_iff, hseen] at hp
    exact hp.2.1

/-- A poll by a watcher without a baseline that remembers one time and finds another, which is
that of a directory in place of the dictionary file. -/
def unreadableAt (seen time : Option Int) : Poll where
  watcher := { config := { skipFirst := false }, lastSeen := seen.map .given }
  live := Live.oneWord ['d'] ['l']
  disk :=
    { nodes := ([], .directory (.moment 0)) ::
        (time.map fun n => ([['d']], Node.directory (.given n))).toList
      clock := 1 }

/-- A time that is earlier than the one tried in vain is tried too, also after a poll without a
file. The old word stays in use. -/
theorem poll_by_times_unreadable :
    let polls := [unreadableAt none (some 5), unreadableAt (some 5) none]
    let p := unreadableAt (some 5) (some 3)
    History { skipFirst := false } (polls ++ [p]) p.watcherAfter ∧ p.Attempted ∧
      p.watcherAfter.lastSeen = some (.given 3) ∧ p.liveAfter = p.live ∧ p.diskAfter = p.disk ∧
      p.time? ≠ (unreadableAt none (some 5)).time? := by
  intro polls p
  have hrun : History { skipFirst := false } (polls ++ [p]) p.watcherAfter :=
    .snoc p (.snoc (unreadableAt (some 5) none) (.snoc (unreadableAt none (some 5)) .nil
      ⟨rfl, rfl⟩) ⟨rfl, rfl⟩) ⟨rfl, rfl⟩
  have hfirst : (unreadableAt none (some 5)).Attempted := ⟨_, rfl, rfl⟩
  have hmissing : ¬ (unreadableAt (some 5) none).Attempted := fun h => h.outcome_ne.1 rfl
  obtain ⟨-, -, -, hattempted, -, hafter, -, hidle, htwice⟩ := poll_by_times hrun rfl
  have hlast : p.Attempted := hattempted.mpr ⟨nofun, by decide, fun _ => rfl⟩
  obtain ⟨hlive, hdisk⟩ := hidle (Or.inr ⟨_, rfl⟩)
  refine ⟨hrun, hlast, by rw [hafter]; decide, hlive, hdisk, ?_⟩
  refine htwice [] _ [unreadableAt (some 5) none] rfl hfirst (fun x hx => ?_) hlast
  rw [List.mem_singleton.mp hx]
  exact hmissing

end History

end Phrasebook
