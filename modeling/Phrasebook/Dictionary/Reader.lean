import Phrasebook.Dictionary.Basic
import Phrasebook.FileSystem.Basic
import Phrasebook.Line.Basic

/-!
Reading of dictionary texts. A line that begins with five equals signs is a marker; what follows the
signs is the label of the section that begins there. Lines stand in the section of the last marker with a known label;
before the first one they are words. Blank lines, and pairs that cannot be read or lack a side,
are passed over. The first line that offends ends the reading.

A dictionary file that is missing is created empty, if that can be done.
-/

namespace Phrasebook

open Text

inductive Section where
  | word
  | rule
  | ignore
  | exemption
  | known
deriving DecidableEq, Repr

namespace Section

def labels : List (String × Section) := [
  ("word", word), ("words", word), ("文本", word),
  ("regex", rule), ("reg", rule), ("正则", rule),
  ("ignore", ignore), ("忽略", ignore),
  ("ignoreregex", exemption), ("ignorereg", exemption), ("忽略正则", exemption),
  ("ignorecheck", known), ("忽略检测", known)]

/-- The section with a given label; case and white space around the label do not matter. -/
def ofLabel? (label : Text) : Option Section :=
  labels.lookup (String.ofList (toLowerAscii (trim label)))

def label? (line : Text) : Option Text :=
  if (List.replicate 5 '=').isPrefixOf line then some (trim (line.dropWhile (· == '=')))
  else none

end Section

inductive LineFault where
  | invalidPattern (pattern : Text) (fault : Pattern.Fault)
  | duplicateKey (key : Text)
deriving DecidableEq, Repr

structure ReadError where
  line : Nat
  fault : LineFault
deriving DecidableEq, Repr

structure DictionaryReader where
  dictionary : Dictionary := {}
  current : Section := .word
deriving DecidableEq, Repr

namespace DictionaryReader

def clean (raw : Text) : Text := trim (raw.dropWhile (· == byteOrderMark))

def pair? (line : Text) : Option (Text × Text) :=
  (Line.decode? line).filter fun (key, value) => !key.isEmpty && !value.isEmpty

/-- Adds a line of a section that is neither blank nor a marker. -/
def entry (d : Dictionary) (line : Text) : Section → Except LineFault Dictionary
  | .ignore => pure (d.addIgnore line)
  | .known => pure (d.addKnown line)
  | .exemption =>
    match Exemption.compile line with
    | .ok e => pure (d.addExemption e)
    | .error fault => .error (.invalidPattern line fault)
  | .rule =>
    match pair? line with
    | none => pure d
    | some (source, template) =>
      match Rule.compile source template with
      | .ok r => pure (d.addRule r)
      | .error fault => .error (.invalidPattern source fault)
  | .word =>
    match pair? line with
    | none => pure d
    | some (key, value) =>
      match d.insertWord key value with
      | .ok d => pure d
      | .error clash => .error (.duplicateKey clash.key)

def line (r : DictionaryReader) (line : Text) : Except LineFault DictionaryReader :=
  match Section.label? line with
  | some label => pure { r with current := (Section.ofLabel? label).getD r.current }
  | none =>
    if line.isEmpty then pure r
    else (entry r.dictionary line r.current).map fun d => { r with dictionary := d }

def linesFrom (r : DictionaryReader) (n : Nat) : List Text → Except ReadError DictionaryReader
  | [] => .ok r
  | raw :: rest =>
    match r.line (clean raw) with
    | .ok r => r.linesFrom (n + 1) rest
    | .error fault => .error ⟨n, fault⟩

end DictionaryReader

def Dictionary.read (content : Text) : Except ReadError Dictionary :=
  (DictionaryReader.linesFrom {} 1 (lines content)).map DictionaryReader.dictionary

inductive LoadError where
  | unreadable (path : Text) (fault : FileFault)
  | invalid (error : ReadError)
deriving DecidableEq, Repr

/-- The text of an error; what exactly is wrong with a pattern is left to the reader. -/
def LoadError.message : LoadError → Text
  | .unreadable path fault =>
    "Failed to read dictionary: ".toList ++ path ++ ": ".toList ++ fault.message
  | .invalid ⟨line, .invalidPattern pattern _⟩ =>
    "Invalid pattern on line ".toList ++ Text.decimal line ++ " (".toList ++ pattern
      ++ "): ".toList
  | .invalid ⟨line, .duplicateKey key⟩ =>
    "Duplicate key on line ".toList ++ Text.decimal line ++ ": ".toList ++ key

namespace Dictionary

/-- Creates an empty file; it does not matter if that fails. -/
def createEmpty (path : Text) : Disk Unit := do
  match ← Disk.ensureParent path with
  | .error _ => pure ()
  | .ok () =>
    let _ ← Disk.attempt (·.writeFile path [])
    pure ()

def load (path : Text) : Disk (Except LoadError Dictionary) := do
  let fs ← get
  if fs.has path then
    match fs.contents path with
    | .error fault => pure (.error (.unreadable path fault))
    | .ok bytes => pure ((Dictionary.read (Utf8.decodeLossy bytes)).mapError .invalid)
  else
    createEmpty path
    pure (.ok {})

end Dictionary

end Phrasebook
