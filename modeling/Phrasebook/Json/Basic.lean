import Phrasebook.Number.Shortest
import Phrasebook.Text.Basic

/-!
JSON values. The members of an object are in ascending order of their names, each once.
Numbers are kept apart by what their text looks like: natural and negative numbers of 64 bits,
and real ones. A value is printed without white space between tokens, and no more of a string is
escaped than has to be.
-/

namespace Phrasebook

inductive Json where
  | null
  | bool (value : Bool)
  | natural (value : UInt64)
  /-- The number below zero with this magnitude. -/
  | negative (magnitude : Nat)
  | real (minus : Bool) (magnitude : Binary64)
  | text (value : Text)
  | array (items : List Json)
  | object (members : List (Text × Json))
deriving Repr

namespace Json

open Text

def insertMember (name : Text) (value : Json) : List (Text × Json) → List (Text × Json)
  | [] => [(name, value)]
  | (other, old) :: rest =>
    if precedes name other then (name, value) :: (other, old) :: rest
    else if name = other then (name, value) :: rest
    else (other, old) :: insertMember name value rest

/-! Printing -/

def escapeChar (c : Char) : Text :=
  match c with
  | '"' => ['\\', '"']
  | '\\' => ['\\', '\\']
  | '\x08' => ['\\', 'b']
  | '\x0c' => ['\\', 'f']
  | '\n' => ['\\', 'n']
  | '\r' => ['\\', 'r']
  | '\t' => ['\\', 't']
  | c =>
    if c.toNat < 0x10 then "\\u000".toList ++ hexadecimal c.toNat
    else if c.toNat < 0x20 then "\\u00".toList ++ hexadecimal c.toNat
    else [c]

def quote (t : Text) : Text := '"' :: t.flatMap escapeChar ++ ['"']

def realText (minus : Bool) (magnitude : Binary64) : Text :=
  if minus then '-' :: magnitude.toText else magnitude.toText

mutual

def toText : Json → Text
  | .null => "null".toList
  | .bool true => "true".toList
  | .bool false => "false".toList
  | .natural n => decimal n.toNat
  | .negative n => '-' :: decimal n
  | .real minus magnitude => realText minus magnitude
  | .text t => quote t
  | .array items => '[' :: itemsText items ++ [']']
  | .object members => '{' :: membersText members ++ ['}']

def itemsText : List Json → Text
  | [] => []
  | [v] => v.toText
  | v :: w :: rest => v.toText ++ ',' :: itemsText (w :: rest)

def membersText : List (Text × Json) → Text
  | [] => []
  | [(name, v)] => quote name ++ ':' :: v.toText
  | (name, v) :: w :: rest => quote name ++ ':' :: v.toText ++ ',' :: membersText (w :: rest)

end

end Json

end Phrasebook
