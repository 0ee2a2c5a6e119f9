import Phrasebook.Pattern.Expr
import Phrasebook.Unicode.CaseClass
import Phrasebook.Unicode.Query

/-!
Character classes. A class is the union of its items; set operators between unions associate
to the left and bind weaker than the union. Ignoring case closes a class under change of case
before it is negated. Without Unicode a class may hold ASCII characters only, since anything
else would stand for single bytes.
-/

namespace Phrasebook.Pattern

open Text

def asciiCaseClasses : List (List Nat) :=
  (List.range 26).map fun k => ['A'.toNat + k, 'a'.toNat + k]

def Flags.fold (f : Flags) (s : CharSet) : CharSet :=
  if !f.caseless then s
  else if f.unicode then s.saturate Unicode.caseClasses
  else s.saturate asciiCaseClasses

/-- Refuses a set that would match single bytes of a character. -/
def Flags.checked (f : Flags) (s : CharSet) : Except Fault CharSet :=
  if f.unicode || s.isAscii then .ok s else .error .notUtf8

def Flags.foldNegate (f : Flags) (negated : Bool) (s : CharSet) : Except Fault CharSet :=
  let folded := f.fold s
  f.checked (if negated then folded.complement else folded)

def asciiDigit : CharSet := .between '0' '9'

def asciiSpace : CharSet := .ofChars ['\t', '\n', '\x0b', '\x0c', '\r', ' ']

def asciiLetter : CharSet := (CharSet.between 'A' 'Z').union (.between 'a' 'z')

def asciiWord : CharSet := .unions [asciiDigit, asciiLetter, .single '_']

def Flags.shorthand? (f : Flags) (letter : Char) : Option CharSet :=
  match letter with
  | 'd' => some (if f.unicode then Unicode.digitSet else asciiDigit)
  | 's' => some (if f.unicode then Unicode.spaceSet else asciiSpace)
  | 'w' => some (if f.unicode then Unicode.wordSet else asciiWord)
  | _ => none

def asciiNamed : List (String × CharSet) :=
  let digit := asciiDigit
  let letter := asciiLetter
  let punctuation := CharSet.unions
    [.between '!' '/', .between ':' '@', .between '[' '\x60', .between '\x7b' '~']
  [("alnum", digit.union letter), ("alpha", letter), ("ascii", .between '\x00' '\x7f'),
    ("blank", .ofChars ['\t', ' ']),
    ("cntrl", (CharSet.between '\x00' '\x1f').union (.single '\x7f')), ("digit", digit),
    ("graph", .between '!' '~'), ("lower", .between 'a' 'z'), ("print", .between ' ' '~'),
    ("punct", punctuation), ("space", asciiSpace), ("upper", .between 'A' 'Z'),
    ("word", asciiWord),
    ("xdigit", .unions [digit, .between 'A' 'F', .between 'a' 'f'])]

inductive SetOp where
  | inter
  | diff
  | symmDiff
deriving DecidableEq, Repr

def SetOp.apply : SetOp → CharSet → CharSet → CharSet
  | .inter => CharSet.inter
  | .diff => CharSet.diff
  | .symmDiff => CharSet.symmDiff

/-- A class that is still open: what stands before the last operator, and the union after it. -/
structure Bracket where
  negated : Bool := false
  operand : Option (SetOp × CharSet) := none
  union : CharSet := .empty
  /-- The number of items of the union. -/
  items : Nat := 0
  /-- The levels of the deepest item, and those of what stands before the operator. -/
  itemLevels : Nat := 0
  operandLevels : Nat := 0
deriving DecidableEq, Repr

def Bracket.add (b : Bracket) (s : CharSet) (levels : Nat := 0) : Bracket :=
  { b with
    union := b.union.union s, items := b.items + 1, itemLevels := max b.itemLevels levels }

def Bracket.value (f : Flags) (b : Bracket) : CharSet :=
  match b.operand with
  | none => b.union
  | some (op, left) => op.apply (f.fold left) (f.fold b.union)

/-- The levels up to here. A union of several items is a level of its own, and so is an operator. -/
def Bracket.levels (b : Bracket) : Nat :=
  let union := b.itemLevels + if b.items ≤ 1 then 0 else 1
  if b.operand.isNone then union else max b.operandLevels union + 1

def Bracket.operator (f : Flags) (b : Bracket) (op : SetOp) : Bracket :=
  { negated := b.negated, operand := some (op, b.value f), operandLevels := b.levels }

def Bracket.close (f : Flags) (b : Bracket) : Except Fault CharSet :=
  f.foldNegate b.negated (b.value f)

inductive Item where
  | char (c : Char)
  | set (s : CharSet)
deriving DecidableEq, Repr

def Item.members : Item → CharSet
  | .char c => .single c
  | .set s => s

def Item.range (first : Item) (last : Item) : Except Fault CharSet :=
  match first, last with
  | .char a, .char b => if a.toNat ≤ b.toNat then .ok (.between a b) else .error .badClass
  | _, _ => .error .badClass

end Phrasebook.Pattern
