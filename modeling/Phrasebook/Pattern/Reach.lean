import Phrasebook.Pattern.Match

/-!
Whether a pattern matches somewhere in a text, by sets of places. A set of places is a number
whose bits stand for the places; a tree takes the places where a match may begin to those
where it may end. No choice is ever preferred, so none can hide another.
-/

namespace Phrasebook.Pattern

/-- The number with the given bits, lowest first. -/
def ofBits : List Bool → Nat
  | [] => 0
  | b :: rest => 2 * ofBits rest + b.toNat

def setPlaces (s : CharSet) (t : Text) : Nat := ofBits (t.map s.contains)

/-- For each place of a text whose last character so far is `before`, whether the condition
holds there. -/
def lookBits (l : Look) (before : Option Char) : Text → List Bool
  | [] => [l.holds before none]
  | c :: rest => l.holds before (some c) :: lookBits l (some c) rest

def lookPlaces (l : Look) (t : Text) : Nat := ofBits (lookBits l none t)

structure Advance where
  run : Nat → Nat

/-- Exactly `n` times, or until nothing changes any more. -/
def Advance.exactly (f : Advance) : Nat → Nat → Nat
  | 0, places => places
  | n + 1, places =>
    let next := f.run places
    if next = places then places else f.exactly n next

def Advance.upTo (f : Advance) : Nat → Nat → Nat
  | 0, places => places
  | n + 1, places =>
    let next := places ||| f.run places
    if next = places then places else f.upTo n next

/-- How a tree advances through a text. Without an upper bound as many rounds are enough as
the text has places. -/
def advance (t : Text) : Expr → Advance
  | .empty => ⟨id⟩
  | .set s _ =>
    let allowed := setPlaces s t
    ⟨fun places => (places &&& allowed) <<< 1⟩
  | .look l =>
    let allowed := lookPlaces l t
    ⟨fun places => places &&& allowed⟩
  | .group _ body => advance t body
  | .seq first second =>
    let f := advance t first
    let g := advance t second
    ⟨fun places => g.run (f.run places)⟩
  | .alt preferred other =>
    let f := advance t preferred
    let g := advance t other
    ⟨fun places => f.run places ||| g.run places⟩
  | .times least extra _ body =>
    let f := advance t body
    let rounds := extra.getD (t.length + 1)
    ⟨fun places => f.upTo rounds (f.exactly least places)⟩

def allPlaces (t : Text) : Nat := (1 <<< (t.length + 1)) - 1

def Expr.matchesIn (e : Expr) (t : Text) : Bool := (advance t e).run (allPlaces t) != 0

end Phrasebook.Pattern
