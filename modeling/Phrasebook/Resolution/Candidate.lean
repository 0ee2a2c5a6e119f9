import Phrasebook.Dictionary.Basic

/-!
Where words of a dictionary could be put in: where they stand as whole words. A stretch is a whole
word if no ASCII letter stands just before it or just after it; occurrences may overlap. All
positions count bytes. Literals to be ignored shield what they cover: a
word that begins in a shielded stretch is no candidate. Candidates are taken from left to
right, longer ones first; one that covers the whole text comes last.
-/

namespace Phrasebook

open Text

/-- Whether no letter touches the stretch from `start` to `stop`. The bytes within a wide
character are no letters, so any two numbers may be asked about. -/
def isWholeWord (t : Text) (start stop : Nat) : Bool :=
  (start == 0 || !letterAt t (start - 1)) && !letterAt t stop

def isLetter? (c : Option Char) : Bool := c.any isLetter

/-- Occurrences in what is left of a text, behind `before` and from byte `offset` on. -/
def occurrencesFrom (needle : Text) (before : Option Char) (offset : Nat) : Text → List Nat
  | [] => []
  | c :: rest =>
    let here := needle.isPrefixOf (c :: rest) && !isLetter? before
      && !isLetter? ((c :: rest).drop needle.length).head?
    let later := occurrencesFrom needle (some c) (offset + c.utf8Size) rest
    if here then offset :: later else later

def occurrences (t needle : Text) : List Nat :=
  if needle.isEmpty then [] else occurrencesFrom needle none 0 t

structure Shield where
  text : Text
  index : Nat
  length : Nat
deriving DecidableEq, Repr

def Shield.covers (s : Shield) (position : Nat) : Bool :=
  s.index ≤ position && position < s.index + s.length

def shields (ignores : List Text) (t : Text) : List Shield :=
  ignores.flatMap fun literal =>
    (occurrences t literal).map fun index => ⟨literal, index, width literal⟩

structure Candidate where
  key : Text
  value : Text
  index : Nat
  length : Nat
  full : Bool
deriving DecidableEq, Repr

def Candidate.ofWord (w : Word) (t : Text) (index : Nat) : Candidate :=
  let length := width w.key
  ⟨w.key, w.value, index, length, index == 0 && length == width t⟩

/-- The candidates of all words, in their order, without those that begin in a shield. -/
def candidates (words : List Word) (cover : List Shield) (t : Text) : List Candidate :=
  words.flatMap fun w =>
    ((occurrences t w.key).filter fun index => !cover.any (·.covers index)).map
      (Candidate.ofWord w t)

def Candidate.precedes (a b : Candidate) : Bool :=
  if a.full || b.full then b.full
  else a.index < b.index || (a.index == b.index && b.length ≤ a.length)

def Candidate.insert (c : Candidate) : List Candidate → List Candidate
  | [] => [c]
  | d :: rest => if c.precedes d then c :: d :: rest else d :: c.insert rest

def inOrder (found : List Candidate) : List Candidate := found.foldr Candidate.insert []

end Phrasebook
