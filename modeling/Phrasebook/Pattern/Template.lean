import Phrasebook.Text.Basic

/-!
Templates for what replaces a match. A dollar sign refers to a group: by the longest run of
letters, digits and underscores behind it, or by anything in braces. Two dollar signs stand
for one, and a dollar sign that refers to nothing stands for itself. What reads as a number is
a number, everything else a name.
-/

namespace Phrasebook.Pattern

open Text

inductive GroupRef where
  | number (k : Nat)
  | name (name : Text)
deriving DecidableEq, Repr

inductive Part where
  | char (c : Char)
  | group (ref : GroupRef)
deriving DecidableEq, Repr

def GroupRef.ofText (t : Text) : GroupRef :=
  match readNumeral? 10 limit64 t with
  | some k => .number k
  | none => .name t

def refChar (c : Char) : Bool := c.isAlphanum || c == '_'

def parts : Text → List Part
  | [] => []
  | '$' :: '$' :: rest => .char '$' :: parts rest
  | '$' :: '{' :: rest =>
    match h : rest.dropWhile (· != '}') with
    | [] => .char '$' :: .char '{' :: parts rest
    | _ :: after =>
      have : after.length < rest.length := by
        have hle := (List.dropWhile_sublist (l := rest) (fun x => x != '}')).length_le
        rw [h] at hle
        exact hle
      .group (.ofText (rest.takeWhile (· != '}'))) :: parts after
  | '$' :: rest =>
    have : (rest.dropWhile refChar).length ≤ rest.length :=
      (List.dropWhile_sublist (l := rest) refChar).length_le
    if rest.takeWhile refChar = [] then .char '$' :: parts rest
    else .group (.ofText (rest.takeWhile refChar)) :: parts (rest.dropWhile refChar)
  | c :: rest => .char c :: parts rest
termination_by t => t.length

end Phrasebook.Pattern
