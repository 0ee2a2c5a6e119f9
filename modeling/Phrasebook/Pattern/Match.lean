import Phrasebook.Pattern.Expr
import Phrasebook.Pattern.Bracket

/-!
What it means for a pattern to match: a relation between a tree and two places of a text. It
leaves every choice open, so it says which stretches can match at all and nothing about
preference.
-/

namespace Phrasebook.Pattern

open Text

def wordAt (ascii : Bool) : Option Char → Bool
  | none => false
  | some c => if ascii then asciiWord.contains c else Unicode.wordSet.contains c

/-- Whether a condition holds between two neighbours; there is none at an end of the text. -/
def Look.holds (l : Look) (before after : Option Char) : Bool :=
  match l with
  | .textStart => before.isNone
  | .textEnd => after.isNone
  | .lineStart => before.isNone || before == some '\n'
  | .lineEnd => after.isNone || after == some '\n'
  | .anyLineStart =>
    before.isNone || before == some '\n' || (before == some '\r' && after != some '\n')
  | .anyLineEnd =>
    after.isNone || after == some '\r' || (after == some '\n' && before != some '\r')
  | .wordEdge ascii => wordAt ascii before != wordAt ascii after
  | .notWordEdge ascii => wordAt ascii before == wordAt ascii after
  | .wordStart ascii => !wordAt ascii before && wordAt ascii after
  | .wordEnd ascii => wordAt ascii before && !wordAt ascii after
  | .noWordBefore ascii => !wordAt ascii before
  | .noWordAfter ascii => !wordAt ascii after

def before? (t : Text) (i : Nat) : Option Char := if i = 0 then none else t[i - 1]?

/-- `Matches t e i j`: the tree can match the stretch of `t` from place `i` to place `j`. -/
inductive Matches (t : Text) : Expr → Nat → Nat → Prop where
  | empty {i : Nat} : i ≤ t.length → Matches t .empty i i
  | set {s : CharSet} {levels i : Nat} {c : Char} :
      t[i]? = some c → s.contains c = true → Matches t (.set s levels) i (i + 1)
  | look {l : Look} {i : Nat} :
      i ≤ t.length → l.holds (before? t i) t[i]? = true → Matches t (.look l) i i
  | group {number : Option Nat} {body : Expr} {i j : Nat} :
      Matches t body i j → Matches t (.group number body) i j
  | seq {first second : Expr} {i k j : Nat} :
      Matches t first i k → Matches t second k j → Matches t (.seq first second) i j
  | preferred {preferred other : Expr} {i j : Nat} :
      Matches t preferred i j → Matches t (.alt preferred other) i j
  | other {preferred other : Expr} {i j : Nat} :
      Matches t other i j → Matches t (.alt preferred other) i j
  | enough {extra : Option Nat} {greedy : Bool} {body : Expr} {i : Nat} :
      i ≤ t.length → Matches t (.times 0 extra greedy body) i i
  | due {least : Nat} {extra : Option Nat} {greedy : Bool} {body : Expr} {i k j : Nat} :
      Matches t body i k → Matches t (.times least extra greedy body) k j →
      Matches t (.times (least + 1) extra greedy body) i j
  | more {extra : Nat} {greedy : Bool} {body : Expr} {i k j : Nat} :
      Matches t body i k → Matches t (.times 0 (some extra) greedy body) k j →
      Matches t (.times 0 (some (extra + 1)) greedy body) i j
  | again {greedy : Bool} {body : Expr} {i k j : Nat} :
      Matches t body i k → Matches t (.times 0 none greedy body) k j →
      Matches t (.times 0 none greedy body) i j

end Phrasebook.Pattern
