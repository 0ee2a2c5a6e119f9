import Phrasebook.Pattern.Expr

/-!
Patterns as programs for the search. Instructions are laid down from the end: each part is
given the address where the search goes on after it. A loop whose body may match the empty
text is entered by a choice of its own, so that the first round is preferred or not just as
the later ones are.
-/

namespace Phrasebook.Pattern

inductive Instr where
  | set (members : CharSet) (next : Nat)
  | look (condition : Look) (next : Nat)
  | save (slot : Nat) (next : Nat)
  | split (preferred other : Nat)
  | done
deriving DecidableEq, Repr

abbrev Program := Array Instr

def choice (greedy : Bool) (body next : Nat) : Instr :=
  if greedy then .split body next else .split next body

def push (p : Program) (i : Instr) : Nat × Program := (p.size, p.push i)

/-- The bounds that count: a body without width matches again wherever it matched once. -/
def Expr.width? : Expr → Bool
  | .empty => false
  | .set _ _ => true
  | .look _ => false
  | .group _ body => body.width?
  | .seq first second => first.width? || second.width?
  | .alt preferred other => preferred.width? || other.width?
  | .times least extra _ body => (least != 0 || extra != some 0) && body.width?

def copies (part : Nat → Program → Nat × Program) : Nat → Nat → Program → Nat × Program
  | 0, next, p => (next, p)
  | n + 1, next, p =>
    let (entry, p) := part next p
    copies part n entry p

/-- Several copies of a part, each of which may be the first one left out. -/
def options (part : Nat → Program → Nat × Program) (greedy : Bool) (leave : Nat) :
    Nat → Nat → Program → Nat × Program
  | 0, next, p => (next, p)
  | n + 1, next, p =>
    let (body, p) := part next p
    let (entry, p) := push p (choice greedy body leave)
    options part greedy leave n entry p

def loop (part : Nat → Program → Nat × Program) (greedy : Bool) (next : Nat) (p : Program) :
    Nat × Nat × Program :=
  let (again, p) := push p .done
  let (body, p) := part again p
  (again, body, p.setIfInBounds again (choice greedy body next))

/-- Lays down a tree in front of `next`; the address where it begins. -/
def layout : Expr → Nat → Program → Nat × Program
  | .empty, next, p => (next, p)
  | .set s _, next, p => push p (.set s next)
  | .look l, next, p => push p (.look l next)
  | .group none body, next, p => layout body next p
  | .group (some k) body, next, p =>
    let (close, p) := push p (.save (2 * k + 1) next)
    let (body, p) := layout body close p
    push p (.save (2 * k) body)
  | .seq first second, next, p =>
    let (second, p) := layout second next p
    layout first second p
  | .alt preferred other, next, p =>
    let (preferred, p) := layout preferred next p
    let (other, p) := layout other next p
    push p (.split preferred other)
  | .times least extra greedy body, next, p =>
    let least := if body.width? then least else min least 1
    match extra with
    | some extra =>
      let extra := if body.width? then extra else min extra (1 - least)
      let (entry, p) := options (layout body) greedy next extra next p
      copies (layout body) least entry p
    | none =>
      let (again, entry, p) := loop (layout body) greedy next p
      if least = 0 then
        if body.nullable then push p (choice greedy entry next) else (again, p)
      else copies (layout body) (least - 1) entry p

def Expr.program (e : Expr) : Nat × Program := layout e 0 #[.done]

end Phrasebook.Pattern
