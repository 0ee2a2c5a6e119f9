/-!
Sets of characters as spans of code points, in ascending order and without touching
neighbours. Every operation brings its result into this form.
-/

namespace Phrasebook

/-- The code points from `first` up to and including `last`. -/
structure Span where
  first : Nat
  last : Nat
deriving DecidableEq, Repr

structure CharSet where
  spans : List Span
deriving DecidableEq, Repr

namespace CharSet

def greatest : Nat := 0x10FFFF

def containsCode (s : CharSet) (n : Nat) : Bool :=
  s.spans.any fun p => p.first ≤ n && n ≤ p.last

def contains (s : CharSet) (c : Char) : Bool := s.containsCode c.toNat

/-- Puts a span among others; those that it overlaps or touches become part of it. -/
def insertSpan (p : Span) : List Span → List Span
  | [] => [p]
  | q :: rest =>
    if q.last + 1 < p.first then q :: insertSpan p rest
    else if p.last + 1 < q.first then p :: q :: rest
    else insertSpan ⟨min p.first q.first, max p.last q.last⟩ rest

def ofSpans (spans : List Span) : CharSet := ⟨spans.foldr insertSpan []⟩

def empty : CharSet := ⟨[]⟩

def full : CharSet := ⟨[⟨0, greatest⟩]⟩

def single (c : Char) : CharSet := ⟨[⟨c.toNat, c.toNat⟩]⟩

def between (first last : Char) : CharSet := ⟨[⟨first.toNat, last.toNat⟩]⟩

def ofChars (t : List Char) : CharSet := ofSpans (t.map fun c => ⟨c.toNat, c.toNat⟩)

def union (s t : CharSet) : CharSet := ⟨s.spans.foldr insertSpan t.spans⟩

def unions (sets : List CharSet) : CharSet := ofSpans (sets.flatMap CharSet.spans)

def gapsFrom (next : Nat) : List Span → List Span
  | [] => if next ≤ greatest then [⟨next, greatest⟩] else []
  | p :: rest =>
    if next < p.first then ⟨next, p.first - 1⟩ :: gapsFrom (p.last + 1) rest
    else gapsFrom (p.last + 1) rest

def complement (s : CharSet) : CharSet := ⟨gapsFrom 0 s.spans⟩

def inter (s t : CharSet) : CharSet := (s.complement.union t.complement).complement

def diff (s t : CharSet) : CharSet := s.inter t.complement

def symmDiff (s t : CharSet) : CharSet := (s.diff t).union (t.diff s)

def isAscii (s : CharSet) : Bool := s.spans.all fun p => p.last < 0x80

/-- Adds all members of each class that has a member in the set. -/
def saturate (classes : List (List Nat)) (s : CharSet) : CharSet :=
  s.union (ofSpans
    ((classes.filter fun k => k.any s.containsCode).flatten.map fun n => ⟨n, n⟩))

end CharSet

end Phrasebook
