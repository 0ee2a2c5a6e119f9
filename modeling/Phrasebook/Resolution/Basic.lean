import Phrasebook.Resolution.Candidate
import Phrasebook.Text.Lines

/-!
Resolution of a text: an exemption leaves it as it is, a word that is the whole text gives its
value, otherwise the rules are applied and words are put in. Runs of letters that are left over
and neither known nor part of an ignored literal stay unresolved.

Candidates are put in one after the other. Their positions are those of the text that was scanned;
the shift says by how much the text has grown since. A candidate whose key no longer stands at its
place is dropped.
-/

namespace Phrasebook

open Text

structure Draft where
  text : Text
  shift : Int := 0
deriving DecidableEq, Repr

def Draft.splice? (d : Draft) (c : Candidate) : Option Draft :=
  match (c.index : Int) + d.shift with
  | .negSucc _ => none
  | .ofNat start =>
    match splitAt? d.text start with
    | none => none
    | some (front, rest) =>
      match splitAt? rest c.length with
      | none => none
      | some (middle, back) =>
        if middle = c.key then
          some ⟨front ++ c.value ++ back, d.shift + width c.value - width c.key⟩
        else none

/-- Puts candidates in up to the first one that covers the whole text; whether there was one. -/
def Draft.apply (d : Draft) : List Candidate → Draft × Bool
  | [] => (d, false)
  | c :: rest =>
    let next := (d.splice? c).getD d
    if c.full then (next, true) else next.apply rest

structure Resolution where
  resolved : Bool
  value : Text
  /-- The runs of letters that nothing accounts for, from left to right. -/
  tokens : List Text
deriving DecidableEq, Repr

namespace Resolution

def complete (value : Text) : Resolution := ⟨true, value, []⟩

def leftover (d : Dictionary) (cover : List Shield) (t : Text) : List Text :=
  (runs isLetter t).filter fun run => !d.isKnown run && !cover.any (fun s => holds run s.text)

def ofLiterals (d : Dictionary) (t : Text) : Resolution :=
  let cover := shields d.ignores t
  let found := inOrder (candidates d.words.entries cover t)
  match Draft.apply { text := t } found with
  | (draft, true) => complete draft.text
  | (draft, false) =>
    let tokens := leftover d cover draft.text
    ⟨tokens.isEmpty, draft.text, tokens⟩

end Resolution

def Dictionary.resolve (d : Dictionary) (t : Text) : Resolution :=
  if d.exemptions.any (·.covers t) then .complete t
  else
    match d.lookup t with
    | some value => .complete value
    | none =>
      let e := Expansion.ofRules d.rules t
      if e.settled then .complete e.text else .ofLiterals d e.text

end Phrasebook
