import Phrasebook.Pattern.Limits
import Phrasebook.Pattern.Reach
import Phrasebook.Pattern.Reader
import Phrasebook.Pattern.Search
import Phrasebook.Pattern.Template

/-!
Patterns ready for use: whether one matches in a text, and the text with all its matches
replaced.
-/

namespace Phrasebook

open Text

structure Pattern where
  source : Text
  expr : Pattern.Expr
  /-- Number of the numbered groups. -/
  groups : Nat
  names : List (Text × Nat)
deriving DecidableEq, Repr

namespace Pattern

/-- Reads a pattern without regard to the limits. -/
def parse (source : Text) : Except Fault Pattern := do
  let k ← read source
  pure ⟨source, k.frame.expr, k.groups, k.names⟩

def compile (source : Text) : Except Fault Pattern := do
  let p ← parse source
  let _ ← p.expr.limited
  pure p

def isMatch (p : Pattern) (t : Text) : Bool := p.expr.matchesIn t

/-- What a part of a template stands for; groups that are unknown or took no part are empty. -/
def fill (p : Pattern) (t : Array Char) (marks : Marks) : Part → Text
  | .char c => [c]
  | .group ref =>
    let k := match ref with
      | .number k => some k
      | .name name => p.names.lookup name
    match k.bind marks.group? with
    | some (start, stop) => (t.extract start stop).toList
    | none => []

def substituteFrom (p : Pattern) (template : List Part) (t : Array Char) (start : Nat) :
    List Marks → Text
  | [] => (t.extract start t.size).toList
  | marks :: rest =>
    match marks.group? 0 with
    | some (first, stop) =>
      (t.extract start first).toList ++ template.flatMap (p.fill t marks)
        ++ substituteFrom p template t stop rest
    | none => substituteFrom p template t start rest

def replaceAll (p : Pattern) (template t : Text) : Text :=
  let searcher := Searcher.ofExpr p.expr p.groups t
  p.substituteFrom (parts template) searcher.text 0 searcher.all

end Pattern

end Phrasebook
