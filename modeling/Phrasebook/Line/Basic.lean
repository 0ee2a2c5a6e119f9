import Phrasebook.Text.Basic

/-!
Lines `key=value`, one pair each. A line that starts with two slashes is a comment. A line is cut
at its first separator that no backslash escapes.

Both sides are escaped. A backslash, the separator and the line and tab
characters are always escaped; white space is spelled out at both edges, because readers trim
lines, and so are a slash or a byte order mark at the very start. Reading keeps an escape it
does not know as it stands.
-/

namespace Phrasebook.Line

open Text

def separator : Char := '='

def spell (c : Char) : Text :=
  ['\\', 'u', '{'] ++ hexadecimal c.toNat ++ ['}']

/-- The escapes that hold everywhere. -/
def escapeInner (c : Char) : Text :=
  if c = '\\' then ['\\', '\\']
  else if c = separator then ['\\', separator]
  else if c = '\n' then ['\\', 'n']
  else if c = '\r' then ['\\', 'r']
  else if c = '\t' then ['\\', 't']
  else [c]

/-- White space at an edge: a short escape if there is one, else spelled out. -/
def escapeBlank (c : Char) : Text :=
  if escapeInner c = [c] then spell c else escapeInner c

def escapeFirst (c : Char) : Text :=
  if c = '/' then ['\\', '/']
  else if c = byteOrderMark then spell c
  else escapeInner c

/-- A side whose first character is not white space. -/
def escapeHead : Text → Text
  | [] => []
  | c :: rest => escapeFirst c ++ rest.flatMap escapeInner

def trailingBlanks (t : Text) : Text := (t.reverse.takeWhile isBlank).reverse

def escape (t : Text) : Text :=
  let lead := t.takeWhile isBlank
  let rest := t.dropWhile isBlank
  let core := trimEnd rest
  lead.flatMap escapeBlank
    ++ (if lead.isEmpty then escapeHead core else core.flatMap escapeInner)
    ++ (trailingBlanks rest).flatMap escapeBlank

def charOfCode? (digits : Text) : Option Char :=
  ((readNumeral? 16 limit32 digits).filter Nat.isValidChar).map Char.ofNat

def spelled? : Text → Option (Char × Text)
  | '{' :: body =>
    match body.dropWhile (· != '}') with
    | [] => none
    | _ :: rest => (charOfCode? (body.takeWhile (· != '}'))).map (·, rest)
  | _ => none

theorem length_of_spelled? {t rest : Text} {c : Char} (h : spelled? t = some (c, rest)) :
    rest.length < t.length := by
  unfold spelled? at h
  split at h
  · rename_i body
    have hle := (List.dropWhile_sublist (l := body) (fun x => x != '}')).length_le
    split at h
    · simp at h
    · rename_i rest' hdrop
      obtain ⟨_, _, heq⟩ := Option.map_eq_some_iff.mp h
      rw [hdrop] at hle
      simp only [Prod.mk.injEq] at heq
      simp only [List.length_cons] at hle ⊢
      rw [← heq.2]
      omega
  · simp at h

def unescape : Text → Text
  | [] => []
  | '\\' :: '\\' :: rest => '\\' :: unescape rest
  | '\\' :: '=' :: rest => '=' :: unescape rest
  | '\\' :: 'n' :: rest => '\n' :: unescape rest
  | '\\' :: 'r' :: rest => '\r' :: unescape rest
  | '\\' :: 't' :: rest => '\t' :: unescape rest
  | '\\' :: '/' :: rest => '/' :: unescape rest
  | '\\' :: 'u' :: rest =>
    match h : spelled? rest with
    | some (c, rest') =>
      have := length_of_spelled? h
      c :: unescape rest'
    | none => '\\' :: 'u' :: unescape rest
  | '\\' :: c :: rest => '\\' :: c :: unescape rest
  | c :: rest => c :: unescape rest
termination_by t => t.length

/-! Pairs -/

def encode (key value : Text) : Text :=
  escape key ++ separator :: escape value

def isComment (line : Text) : Bool := ['/', '/'].isPrefixOf line

def cut? : Text → Option (Text × Text)
  | [] => none
  | '\\' :: [] => none
  | '\\' :: c :: rest => (cut? rest).map fun (key, value) => ('\\' :: c :: key, value)
  | c :: rest =>
    if c = separator then some ([], rest)
    else (cut? rest).map fun (key, value) => (c :: key, value)

def decode? (line : Text) : Option (Text × Text) :=
  if isComment line then none
  else (cut? line).map fun (key, value) => (unescape key, unescape value)

end Phrasebook.Line
