import Phrasebook.Live.Watcher
import Phrasebook.Settings.Basic

/-!
The configuration of a translator. It stands in a section of its own, either as an object with
values of the right kinds or as texts under dotted keys.
-/

namespace Phrasebook

structure Config where
  dictionaryPath : Text := "chs/dictionary.txt".toList
  ledgerPath : Text := "chs/notMatch.txt".toList
  /-- Whether the dictionary file is watched. -/
  observe : Bool := false
  /-- Milliseconds between two looks at the file. -/
  interval : UInt64 := 1000
  skipFirst : Bool := true
deriving DecidableEq, Repr

namespace Config

def sectionName : Text := "CustomFromFile".toList

def key (field : String) : Text := sectionName ++ '.' :: field.toList

/-- Takes texts under dotted keys. What is missing or cannot be read has its default. -/
def ofSettings (s : Settings) : Config :=
  let default : Config := {}
  { dictionaryPath := (s (key "FilePath")).getD default.dictionaryPath
    ledgerPath := (s (key "OutFilePath")).getD default.ledgerPath
    observe := (s.bool? (key "Observe")).getD default.observe
    interval := ((s.natural? (key "PollIntervalMs")).filter (0 < ·)).getD default.interval
    skipFirst := (s.bool? (key "SkipFirstObservation")).getD default.skipFirst }

def expectPath : Json → Except KindFault Text
  | .text t => .ok t
  | v => .error ⟨v, .path⟩

def expectBool : Json → Except KindFault Bool
  | .bool b => .ok b
  | v => .error ⟨v, .bool⟩

def expectNatural : Json → Except KindFault UInt64
  | .natural n => .ok n
  | v => .error ⟨v, .natural⟩

def fieldOr {α : Type} (expect : Json → Except KindFault α) (members : List (Text × Json))
    (field : String) (default : α) : Except KindFault α :=
  match members.lookup field.toList with
  | none => .ok default
  | some v => expect v

/-- Takes the fields of a section in the order of their names; other members do not count. -/
def ofMembers (members : List (Text × Json)) : Except KindFault Config := do
  let default : Config := {}
  let dictionaryPath ← fieldOr expectPath members "FilePath" default.dictionaryPath
  let observe ← fieldOr expectBool members "Observe" default.observe
  let ledgerPath ← fieldOr expectPath members "OutFilePath" default.ledgerPath
  let interval ← fieldOr expectNatural members "PollIntervalMs" default.interval
  let skipFirst ← fieldOr expectBool members "SkipFirstObservation" default.skipFirst
  pure { dictionaryPath, ledgerPath, observe, interval, skipFirst }

def ofSection? (s : JsonSettings) (name : Text) : Except SettingsError (Option Config) :=
  match s.section? name with
  | none => .ok none
  | some members =>
    match ofMembers members with
    | .ok c => .ok (some c)
    | .error fault => .error (.badSection name fault)

/-- An interval of zero means the default. -/
def normalized (c : Config) : Config :=
  if c.interval = 0 then { c with interval := ({} : Config).interval } else c

/-- Takes the section if it is an object, and dotted keys otherwise. -/
def ofJson (s : JsonSettings) : Except SettingsError Config :=
  match ofSection? s sectionName with
  | .error fault => .error fault
  | .ok (some c) => .ok c.normalized
  | .ok none => .ok (ofSettings s.toSettings)

def files (c : Config) : List Text :=
  [c.dictionaryPath, c.ledgerPath, Path.temporary c.ledgerPath]

def watcher (c : Config) : WatcherConfig := ⟨c.interval, c.skipFirst⟩

end Config

end Phrasebook
