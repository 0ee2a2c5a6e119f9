import Phrasebook.Pattern.Match
import Phrasebook.Pattern.Program

/-!
Search for the leftmost match, earlier alternatives preferred. The search goes depth first
through the program and never comes twice to the same instruction at the same place, so its
length is bounded by the product of program and text.
-/

namespace Phrasebook.Pattern

/-- What is left to try: an instruction at a place, or an old mark to be put back. -/
inductive Job where
  | visit (address place : Nat)
  | restore (slot : Nat) (mark : Option Nat)
deriving DecidableEq, Repr

/-- The places that the groups of a match begin and end at; slots 0 and 1 are the match. -/
abbrev Marks := Array (Option Nat)

structure Trail where
  jobs : List Job
  seen : Array Bool
  marks : Marks

def Trail.step (trail : Trail) (p : Program) (t : Array Char) (jobs : List Job) :
    Job → Trail × Option Nat
  | .restore slot mark => ({ trail with jobs, marks := trail.marks.setIfInBounds slot mark }, none)
  | .visit address place =>
    let index := address * (t.size + 1) + place
    if trail.seen.getD index true then ({ trail with jobs }, none)
    else
      let trail := { trail with jobs, seen := trail.seen.setIfInBounds index true }
      match p[address]? with
      | none => (trail, none)
      | some .done => (trail, some place)
      | some (.set s next) =>
        match t[place]? with
        | some c =>
          if s.contains c then ({ trail with jobs := .visit next (place + 1) :: jobs }, none)
          else (trail, none)
        | none => (trail, none)
      | some (.look l next) =>
        let before := if place = 0 then none else t[place - 1]?
        if l.holds before t[place]? then ({ trail with jobs := .visit next place :: jobs }, none)
        else (trail, none)
      | some (.save slot next) =>
        let old := (trail.marks[slot]?).join
        ({ trail with
            jobs := .visit next place :: .restore slot old :: jobs
            marks := trail.marks.setIfInBounds slot (some place) }, none)
      | some (.split preferred other) =>
        ({ trail with jobs := .visit preferred place :: .visit other place :: jobs }, none)

def Trail.run (trail : Trail) (p : Program) (t : Array Char) : Nat → Trail × Option Nat
  | 0 => (trail, none)
  | fuel + 1 =>
    match trail.jobs with
    | [] => (trail, none)
    | job :: jobs =>
      match trail.step p t jobs job with
      | (trail, some place) => (trail, some place)
      | (trail, none) => trail.run p t fuel

/-- More steps than a search can take: every pair of an instruction and a place is visited
once and leaves at most two jobs. -/
def searchBound (p : Program) (t : Array Char) : Nat := 3 * (p.size + 1) * (t.size + 2)

/-- Searches from the places `start`, `start + 1` and so on, `count` of them. -/
def searchFrom (p : Program) (entry : Nat) (t : Array Char) (slots : Nat) :
    Nat → Nat → Array Bool → Option Marks
  | 0, _, _ => none
  | count + 1, start, seen =>
    let trail : Trail := ⟨[.visit entry start], seen, Array.replicate slots none⟩
    match trail.run p t (searchBound p t) with
    | (trail, some stop) =>
      some ((trail.marks.setIfInBounds 0 (some start)).setIfInBounds 1 (some stop))
    | (trail, none) => searchFrom p entry t slots count (start + 1) trail.seen

structure Searcher where
  program : Program
  entry : Nat
  slots : Nat
  text : Array Char

def Searcher.ofExpr (e : Expr) (groups : Nat) (t : Text) : Searcher :=
  let (entry, program) := e.program
  ⟨program, entry, 2 * (groups + 1), t.toArray⟩

def Searcher.find? (s : Searcher) (start : Nat) : Option Marks :=
  searchFrom s.program s.entry s.text s.slots (s.text.size + 1 - start) start
    (Array.replicate (s.program.size * (s.text.size + 1)) false)

def Marks.group? (m : Marks) (k : Nat) : Option (Nat × Nat) :=
  match (m[2 * k]?).join, (m[2 * k + 1]?).join with
  | some start, some stop => some (start, stop)
  | _, _ => none

/-- The matches from `start` on, one after the other. An empty match just behind the last one
does not count; the search goes on a place later. -/
def Searcher.allFrom (s : Searcher) : Nat → Nat → Option Nat → List Marks
  | 0, _, _ => []
  | fuel + 1, start, last =>
    match s.find? start with
    | none => []
    | some marks =>
      match marks.group? 0 with
      | none => []
      | some (first, stop) =>
        if first = stop ∧ last = some stop then s.allFrom fuel (start + 1) last
        else marks :: s.allFrom fuel stop (some stop)

def Searcher.all (s : Searcher) : List Marks := s.allFrom (2 * s.text.size + 4) 0 none

end Phrasebook.Pattern
