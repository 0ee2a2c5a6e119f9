import Phrasebook.Live.Basic

/-!
Watching the dictionary file. A poll compares the time of the file with the one that the last
poll saw and reloads if it has changed; the new time is remembered even if the reload fails,
so that one change is tried once. While the watcher runs it polls at a fixed interval.
-/

namespace Phrasebook

structure WatcherConfig where
  /-- Milliseconds between two polls. -/
  interval : UInt64 := 1000
  /-- The first time seen is a baseline and no change. -/
  skipFirst : Bool := true
deriving DecidableEq, Repr

inductive WatcherState where
  | idle
  | watching
  | reloading
deriving DecidableEq, Repr

inductive PollOutcome where
  | missing
  | baseline
  | unchanged
  | reloaded (summary : ReloadSummary)
  | failed (error : ReloadError)
deriving DecidableEq, Repr

def PollOutcome.ofReload : Except ReloadError ReloadSummary → PollOutcome
  | .ok summary => .reloaded summary
  | .error fault => .failed fault

inductive WatcherError where
  | alreadyRunning
  /-- There was no thread to be had. -/
  | notSpawned (fault : FileFault)
deriving DecidableEq, Repr

def WatcherError.message : WatcherError → Text
  | .alreadyRunning => "Supervisor is already running".toList
  | .notSpawned fault => "Failed to spawn supervisor thread: ".toList ++ fault.message

structure Watcher where
  config : WatcherConfig
  /-- The time of the file as of the last poll that found it. -/
  lastSeen : Option Stamp := none
  state : WatcherState := .idle
  running : Bool := false
deriving DecidableEq, Repr

namespace Watcher

def changed (w : Watcher) (stamp : Stamp) : Bool :=
  match w.lastSeen with
  | none => !w.config.skipFirst
  | some seen => seen != stamp

/-- Looks at the file once. While it reloads, a watcher says so; then it is again in the state
in which it was. -/
def poll (w : Watcher) (live : Live) : Disk ((Watcher × Live) × PollOutcome) := do
  match (← get).stamp? live.dictionaryPath with
  | none => pure ((w, live), .missing)
  | some stamp =>
    let seen := { w with lastSeen := some stamp }
    if w.changed stamp then
      let busy := { seen with state := .reloading }
      let (live, done) ← live.reload
      pure (({ busy with state := w.state }, live), .ofReload done)
    else if w.lastSeen.isNone then pure ((seen, live), .baseline)
    else pure ((seen, live), .unchanged)

def tick (w : Watcher) (live : Live) : Disk (Watcher × Live) := do
  if w.running then pure (← w.poll live).1 else pure (w, live)

/-- Begins to watch, on a thread of its own; the first poll comes at once. A watcher that gets no
thread stays idle. -/
def start (w : Watcher) (live : Live) : Disk (Except WatcherError (Watcher × Live)) := do
  if w.running then pure (.error .alreadyRunning)
  else
    match (← get).refuses.spawn with
    | some fault => pure (.error (.notSpawned fault))
    | none => pure (.ok (← tick { w with state := .watching, running := true } live))

def stop (w : Watcher) : Watcher :=
  if w.running then { w with state := .idle, running := false } else w

/-- Lets a watcher poll up to `polls` times, until a generation is in use. -/
def await (w : Watcher) (live : Live) (generation : Nat) : Nat → Disk (Watcher × Live)
  | 0 => pure (w, live)
  | polls + 1 => do
    if generation ≤ live.generation then pure (w, live)
    else
      let (w, live) ← w.tick live
      w.await live generation polls

end Watcher

end Phrasebook
