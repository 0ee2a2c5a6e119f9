import Phrasebook.FileSystem.Basic
import Phrasebook.Json.Reader
import Phrasebook.Text.Lines
import Phrasebook.Unicode.Query

/-!
Settings are texts under dotted keys. They come from anywhere; a JSON object gives the values
along the names of a key, unless it has a member with the whole key for its name.

Complaints about a value show it quoted: between double quotes, with quotes, backslashes and
everything that would not show escaped.
-/

namespace Phrasebook

namespace Text

/-- Characters that do not show by themselves: controls, format characters, separators other
than the space, private and unassigned code points, and marks that join the character before. -/
def hidden : CharSet :=
  (CharSet.union (Unicode.categoryUnion ["cc", "cf", "cs", "co", "cn", "zl", "zp", "zs"])
    (Unicode.property "grext")).diff (.single ' ')

def quoteChar (c : Char) : Text :=
  if c = '"' then ['\\', '"']
  else if c = '\\' then ['\\', '\\']
  else if c = '\n' then ['\\', 'n']
  else if c = '\r' then ['\\', 'r']
  else if c = '\t' then ['\\', 't']
  else if c = '\x00' then ['\\', '0']
  else if hidden.contains c then ['\\', 'u', '{'] ++ hexadecimal c.toNat ++ ['}']
  else [c]

def quoted (t : Text) : Text := '"' :: t.flatMap quoteChar ++ ['"']

end Text

open Text

/-- The text under a key, if there is one. -/
abbrev Settings := Text → Option Text

namespace Settings

def getOr (s : Settings) (key default : Text) : Text := (s key).getD default

/-- A truth value: `true`, `false`, `1` or `0`, in any case. -/
def bool? (s : Settings) (key : Text) : Option Bool :=
  (s key).bind fun raw =>
    let word := String.ofList (toLowerAscii (trim raw))
    if word = "true" ∨ word = "1" then some true
    else if word = "false" ∨ word = "0" then some false
    else none

def natural? (s : Settings) (key : Text) : Option UInt64 :=
  (s key).bind fun raw => (readNumeral? 10 limit64 (trim raw)).map .ofNat

end Settings

inductive Expected where
  | path
  | bool
  | natural
deriving DecidableEq, Repr

def Expected.name : Expected → Text
  | .path => "path string".toList
  | .bool => "a boolean".toList
  | .natural => "u64".toList

structure KindFault where
  value : Json
  expected : Expected
deriving Repr

namespace KindFault

def describe : Json → Text
  | .null => "null".toList
  | .bool b => "boolean `".toList ++ (Json.bool b).toText ++ ['\x60']
  | .natural n => "integer `".toList ++ (Json.natural n).toText ++ ['\x60']
  | .negative n => "integer `".toList ++ (Json.negative n).toText ++ ['\x60']
  | .real minus magnitude =>
    "floating point `".toList ++ (Json.real minus magnitude).toText ++ ['\x60']
  | .text t => "string ".toList ++ quoted t
  | .array _ => "sequence".toList
  | .object _ => "map".toList

/-- A negative number is of the right kind for a natural one, but not a possible value. -/
def message (f : KindFault) : Text :=
  let lead := match f.value, f.expected with
    | .negative _, .natural => "invalid value: ".toList
    | _, _ => "invalid type: ".toList
  lead ++ describe f.value ++ ", expected ".toList ++ f.expected.name

end KindFault

inductive SettingsError where
  | badSyntax
  | notObject
  | unreadable (path : Text) (fault : FileFault)
  | notUtf8 (path : Text)
  | badSection (name : Text) (fault : KindFault)
deriving Repr

/-- The text of an error; what exactly is wrong with the syntax is left to the reader. -/
def SettingsError.message : SettingsError → Text
  | .badSyntax => "Failed to parse settings: ".toList
  | .notObject => "Settings root must be a JSON object".toList
  | .unreadable path fault =>
    "Failed to read ".toList ++ path ++ ": ".toList ++ fault.message
  | .notUtf8 path =>
    "Failed to read ".toList ++ path ++ ": stream did not contain valid UTF-8".toList
  | .badSection name fault =>
    "Invalid settings section ".toList ++ name ++ ": ".toList ++ fault.message

structure JsonSettings where
  members : List (Text × Json) := []
deriving Repr

namespace JsonSettings

def parse (content : Text) : Except SettingsError JsonSettings :=
  match Json.read? content with
  | none => .error .badSyntax
  | some (.object members) => .ok ⟨members⟩
  | some _ => .error .notObject

/-- Reads a settings file. No file means no settings. -/
def load (path : Text) : Disk (Except SettingsError JsonSettings) := do
  let fs ← get
  if fs.has path then
    match fs.contents path with
    | .error fault => pure (.error (.unreadable path fault))
    | .ok bytes =>
      match Utf8.decode? bytes with
      | none => pure (.error (.notUtf8 path))
      | some content => pure (parse content)
  else pure (.ok {})

def section? (s : JsonSettings) (name : Text) : Option (List (Text × Json)) :=
  match s.members.lookup name with
  | some (.object members) => some members
  | _ => none

def along (members : List (Text × Json)) : List Text → Option Json
  | [] => none
  | [name] => members.lookup name
  | name :: rest =>
    match members.lookup name with
    | some (.object inner) => along inner rest
    | _ => none

def find? (s : JsonSettings) (key : Text) : Option Json :=
  (s.members.lookup key).or (along s.members (pieces (· == '.') key))

/-- The text of a value: a string as it is, anything else as JSON, and nothing for null. -/
def valueText : Json → Option Text
  | .null => none
  | .text t => some t
  | v => some v.toText

def toSettings (s : JsonSettings) : Settings := fun key => (s.find? key).bind valueText

end JsonSettings

end Phrasebook
