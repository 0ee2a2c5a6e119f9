import Phrasebook.CharSet
import Phrasebook.Text.Basic

/-!
Patterns as trees. A look is a condition on a place between two characters and takes no
text. A group remembers what it matched if it has a number.
-/

namespace Phrasebook.Pattern

/-- Conditions on a place in a text. The word conditions take `ascii` to say which characters
make up words: the ASCII letters, digits and the underscore, or those of all scripts. -/
inductive Look where
  | textStart
  | textEnd
  | lineStart
  | lineEnd
  /-- Lines may also end in a carriage return, alone or before a newline. -/
  | anyLineStart
  | anyLineEnd
  | wordEdge (ascii : Bool)
  | notWordEdge (ascii : Bool)
  | wordStart (ascii : Bool)
  | wordEnd (ascii : Bool)
  | noWordBefore (ascii : Bool)
  | noWordAfter (ascii : Bool)
deriving DecidableEq, Repr

inductive Expr where
  | empty
  /-- One character of a set. The set of a class is as many levels deep as the class was nested. -/
  | set (members : CharSet) (levels : Nat := 0)
  | look (condition : Look)
  | group (number : Option Nat) (body : Expr)
  | seq (first second : Expr)
  | alt (preferred other : Expr)
  /-- At least `least` times and up to `extra` times more; without `extra` as often as can be. -/
  | times (least : Nat) (extra : Option Nat) (greedy : Bool) (body : Expr)
deriving DecidableEq, Repr

namespace Expr

def ofSeq : List Expr → Expr
  | [] => .empty
  | [e] => e
  | e :: rest => .seq e (ofSeq rest)

def ofAlts : List Expr → Expr
  | [] => .empty
  | [e] => e
  | e :: rest => .alt e (ofAlts rest)

/-- Whether the empty text may match, looks being left out of account. -/
def nullable : Expr → Bool
  | .empty => true
  | .set _ _ => false
  | .look _ => true
  | .group _ body => body.nullable
  | .seq first second => first.nullable && second.nullable
  | .alt preferred other => preferred.nullable || other.nullable
  | .times least _ _ body => least == 0 || body.nullable

end Expr

structure Flags where
  caseless : Bool := false
  multiline : Bool := false
  dotAll : Bool := false
  swapGreed : Bool := false
  unicode : Bool := true
  extended : Bool := false
  anyLine : Bool := false
deriving DecidableEq, Repr

def Flags.set? (f : Flags) (letter : Char) (on : Bool) : Option Flags :=
  match letter with
  | 'i' => some { f with caseless := on }
  | 'm' => some { f with multiline := on }
  | 's' => some { f with dotAll := on }
  | 'U' => some { f with swapGreed := on }
  | 'u' => some { f with unicode := on }
  | 'x' => some { f with extended := on }
  | 'R' => some { f with anyLine := on }
  | _ => none

inductive Fault where
  | nothingToRepeat
  | badCount
  | unclosedGroup
  | unopenedGroup
  | badGroupName
  | duplicateGroupName
  | badFlags
  | lookaround
  | backreference
  | badEscape
  | badCode
  | unknownProperty
  | badClass
  | notUtf8
  | unfinished
  | tooDeep
  | tooLarge
deriving DecidableEq, Repr

end Phrasebook.Pattern
