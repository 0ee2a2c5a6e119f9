import Phrasebook.CharSet
import Phrasebook.Text.Lines

/-!
Tables of Unicode data. The members of a set are written as rows of items in base sixteen:
`s+n` leaves out `s` code points after the previous item and takes the next one and `n` more;
`s` stands for `s+0`. Names are compared in the loose way: case, spaces, underscores, hyphens
and a leading `is` do not count.
-/

namespace Phrasebook.Unicode

open Text

/-- A set with the names it goes by, in their loose form. -/
structure NamedSet where
  names : List String
  rows : List String

def hexValue (t : Text) : Nat := (readDigitsFrom 16 0 t).getD 0

def spansFrom (next : Nat) : List Text → List Span
  | [] => []
  | item :: rest =>
    let first := next + hexValue (item.takeWhile (· != '+'))
    let last := first + hexValue (item.dropWhile (· != '+') |>.drop 1)
    ⟨first, last⟩ :: spansFrom (last + 1) rest

def NamedSet.set (s : NamedSet) : CharSet :=
  ⟨spansFrom 0 (s.rows.flatMap fun row => runs (· != ' ') row.toList)⟩

def looseName (name : Text) : Text :=
  let lower := toLowerAscii name
  let body := if ['i', 's'].isPrefixOf lower then lower.drop 2 else lower
  let loose := body.filter fun c => c.toNat < 0x80 && c != ' ' && c != '_' && c != '-'
  if body.length < lower.length && loose == ['c'] then ['i', 's', 'c'] else loose

def named? (table : List NamedSet) (loose : Text) : Option CharSet :=
  (table.find? fun s => s.names.contains (String.ofList loose)).map NamedSet.set

end Phrasebook.Unicode
