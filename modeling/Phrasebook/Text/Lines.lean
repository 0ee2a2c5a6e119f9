import Phrasebook.Text.Basic

/-!
Cutting a sequence at separators, and the lines of a text. Every newline ends a line, and a
carriage return just before it belongs to the line end. What follows the last newline is a
line of its own unless it is empty, and keeps its carriage return. The same rule serves
characters and bytes.
-/

namespace Phrasebook.Text

/-- The parts between separators: one more than there are separators. -/
def pieces {α : Type} (isSeparator : α → Bool) : List α → List (List α)
  | [] => [[]]
  | a :: rest =>
    if isSeparator a then [] :: pieces isSeparator rest
    else
      match pieces isSeparator rest with
      | [] => [[a]]
      | part :: parts => (a :: part) :: parts

theorem pieces_ne_nil {α : Type} (isSeparator : α → Bool) (t : List α) :
    pieces isSeparator t ≠ [] := by
  cases t with
  | nil => simp [pieces]
  | cons a t =>
    simp only [pieces]
    split
    · simp
    · split <;> simp

/-- The maximal runs of characters with a property, from left to right. -/
def runs {α : Type} (inRun : α → Bool) (t : List α) : List (List α) :=
  (pieces (fun a => !inRun a) t).filter (fun run => !run.isEmpty)

def dropLastIf {α : Type} [BEq α] (last : α) (line : List α) : List α :=
  if line.getLast? == some last then line.dropLast else line

def endLines {α : Type} [BEq α] (carriageReturn : α) : List (List α) → List (List α)
  | [] => []
  | [last] => if last.isEmpty then [] else [last]
  | line :: next :: rest =>
    dropLastIf carriageReturn line :: endLines carriageReturn (next :: rest)

def lines (t : Text) : List Text :=
  endLines '\r' (pieces (fun c => c == '\n') t)

def byteLines (bytes : List UInt8) : List (List UInt8) :=
  endLines 13 (pieces (fun b => b == 10) bytes)

end Phrasebook.Text
