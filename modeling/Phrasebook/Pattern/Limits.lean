import Phrasebook.Pattern.Program

/-!
Limits that keep patterns small enough to run: how deep a tree may be nested, and how large
its program may grow. Whether a text is a pattern at all does not depend on them.
-/

namespace Phrasebook.Pattern

/-- Levels of a tree; the members of one sequence or of one choice are on one level. -/
def Expr.levels (inSeq inAlt : Bool) : Expr → Nat
  | .empty => 0
  | .set _ levels => levels
  | .look _ => 0
  | .group _ body => body.levels false false + 1
  | .seq first second =>
    max (first.levels true false) (second.levels true false) + (if inSeq then 0 else 1)
  | .alt preferred other =>
    max (preferred.levels false true) (other.levels false true) + (if inAlt then 0 else 1)
  | .times _ _ _ body => body.levels false false + 1

def deepest : Nat := 250

/-- The first code points whose UTF-8 form is a byte longer than that of the one before. -/
def widthBorders : List Nat := [0x80, 0x800, 0x10000]

/-- About the number of bytes that the program of a set takes. Beyond ASCII a span is several
instructions, and more of them if the widths of its members differ. -/
def setBulk (s : CharSet) : Nat :=
  if s.isAscii then 32 + (if s.spans.length = 1 then 0 else 8 * s.spans.length)
  else
    64 + 64 * s.spans.length
      + 270 * widthBorders.countP fun n => s.spans.any fun p => p.first < n && n ≤ p.last

def Expr.bulk : Expr → Nat
  | .empty => 32
  | .set s _ => setBulk s
  | .look _ => 32
  | .group none body => body.bulk
  | .group (some _) body => body.bulk + 64
  -- Option switches are members of a sequence, but nothing is laid down for them.
  | .seq .empty second => second.bulk
  | .seq first .empty => first.bulk
  | .seq first second => first.bulk + second.bulk
  | .alt preferred other => preferred.bulk + other.bulk + 40
  | .times least extra _ body =>
    let least := if body.width? then least else min least 1
    match extra with
    | none => max least 1 * body.bulk + 40
    | some extra =>
      let extra := if body.width? then extra else min extra (1 - least)
      least * body.bulk + extra * (body.bulk + 40) + 32

def largest : Nat := 10 * 1024 * 1024

def Expr.limited (e : Expr) : Except Fault Expr :=
  if deepest < e.levels false false then .error .tooDeep
  else if largest < e.bulk then .error .tooLarge
  else .ok e

end Phrasebook.Pattern
