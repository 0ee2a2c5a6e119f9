import Phrasebook.Text.Lines

/-!
Paths as they are written. A path leads from name to name to a location, the names on the
straight way there from the working directory; empty names do not count. A slash at the end
asks for a directory.

Nothing is said of the tree above the working directory. Paths are taken to be relative to it and to
stay below it: a slash at the start does not lead to another place, nor do two dots too many.
-/

namespace Phrasebook

open Text

/-- The names on the straight way from the working directory. -/
abbrev Location := List Text

namespace Path

def names (path : Text) : List Text := runs (· != '/') path

/-- One more step of the way. A dot stays, two dots go back, but not beyond the working
directory. -/
def follow (way : Location) (name : Text) : Location :=
  if name = ['.'] then way
  else if name = ['.', '.'] then way.dropLast
  else way ++ [name]

def location (path : Text) : Location := (names path).foldl follow []

def stationsFrom (way : Location) : List Text → List Location
  | [] => []
  | name :: rest => follow way name :: stationsFrom (follow way name) rest

def stations (path : Text) : List Location := stationsFrom [] (names path)

def isSlashed (path : Text) : Bool := path.getLast? == some '/'

def isDotted (path : Text) : Bool :=
  (names path).getLast? == some ['.'] || (names path).getLast? == some ['.', '.']

/-- Without slashes and slashed dots at the end; `reversed` has the last character first. -/
def dropSlashes : Text → Text
  | '/' :: rest => dropSlashes rest
  | '.' :: '/' :: rest => dropSlashes rest
  | reversed => reversed

def splitName (path : Text) : Text × Text :=
  let reversed := dropSlashes path.reverse
  ((reversed.dropWhile (· != '/')).reverse, (reversed.takeWhile (· != '/')).reverse)

/-- A name up to its last dot. A dot at the very start does not count. -/
def stem (name : Text) : Text :=
  match name.reverse.dropWhile (· != '.') with
  | [] => name
  | [_] => name
  | _ :: reversed => reversed.reverse

/-- The path with another extension. A path without a name at its end stays as it is. -/
def withExtension (path extension : Text) : Text :=
  match splitName path with
  | (front, name) =>
    if name = [] ∨ name = ['.'] ∨ name = ['.', '.'] then path
    else front ++ stem name ++ '.' :: extension

def temporary (path : Text) : Text := withExtension path ['t', 'm', 'p']

end Path

end Phrasebook
