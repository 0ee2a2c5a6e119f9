import Phrasebook.Settings.Config

/-!
A translator answers one text at a time from its dictionary. A text that stays unresolved goes
into the ledger and its file, once. At the start the ledger is reconciled with the dictionary,
so that what has been mended since is dropped.
-/

namespace Phrasebook

inductive TranslatorError where
  | load (error : LoadError)
  | ledger (error : LedgerError)
  | watcher (error : WatcherError)
deriving DecidableEq, Repr

def TranslatorError.message : TranslatorError → Text
  | .load error => "Failed to load dictionary: ".toList ++ error.message
  | .ledger error => "Ledger error: ".toList ++ error.message
  | .watcher error => "Reload supervisor error: ".toList ++ error.message

def TranslatorError.ofReload : ReloadError → TranslatorError
  | .load error => .load error
  | .ledger error => .ledger error

inductive Answer where
  | translated (value : Text)
  | unresolved (draft : Text) (tokens : List Text)
deriving DecidableEq, Repr

namespace Answer

def ofResolution (r : Resolution) : Answer :=
  if r.resolved then .translated r.value else .unresolved r.value r.tokens

def value : Answer → Text
  | .translated value => value
  | .unresolved draft _ => draft

def isTranslated : Answer → Bool
  | .translated _ => true
  | .unresolved _ _ => false

def complaint (draft : Text) (tokens : List Text) : Text :=
  "Unresolved tokens [".toList ++ [',', ' '].intercalate tokens ++ "] in ".toList
    ++ Text.quoted draft

end Answer

structure Translator where
  config : Config
  live : Live
  watcher : Option Watcher := none
deriving DecidableEq, Repr

namespace Translator

/-- The name that a host configures a translator by. -/
def id : Text := "CustomTranslateFromFile".toList

/-- The name that users see. -/
def friendlyName : Text := "CustomFromFile".toList

def maxConcurrency : Nat := 100

def maxTextsPerRequest : Nat := 1

def observe (config : Config) (live : Live) : Disk (Except TranslatorError Translator) := do
  if config.observe then
    match ← ({ config := config.watcher } : Watcher).start live with
    | .error fault => pure (.error (.watcher fault))
    | .ok (w, live) => pure (.ok ⟨config, live, some w⟩)
  else pure (.ok ⟨config, live, none⟩)

def start (config : Config) : Disk (Except TranslatorError Translator) := do
  match ← Dictionary.load config.dictionaryPath with
  | .error fault => pure (.error (.load fault))
  | .ok d =>
    match ← Ledger.load config.ledgerPath with
    | .error fault => pure (.error (.ledger fault))
    | .ok l =>
      let live : Live := ⟨config.dictionaryPath, config.ledgerPath, d, l, 0⟩
      match ← live.reconcileAndFlush with
      | (_, .error fault) => pure (.error (.ledger fault))
      | (live, .ok _) => observe config live

/-- Puts an unresolved text into the ledger. A failure to write it does not matter here. -/
def recordUnresolved (t : Translator) (input : Text) (r : Resolution) : Disk Translator := do
  if input.isEmpty then pure t
  else
    let (l, _) ← t.live.ledger.recordAndAppend t.config.ledgerPath (.ofResolution input r)
    pure { t with live := { t.live with ledger := l } }

def resolve (t : Translator) (input : Text) : Disk (Translator × Resolution) := do
  let r := t.live.dictionary.resolve input
  if r.resolved then pure (t, r) else pure (← t.recordUnresolved input r, r)

def translate (t : Translator) (input : Text) : Disk (Translator × Answer) := do
  let (t, r) ← t.resolve input
  pure (t, .ofResolution r)

def reload (t : Translator) : Disk (Translator × Except TranslatorError ReloadSummary) := do
  let (live, done) ← t.live.reload
  pure ({ t with live := live }, done.mapError .ofReload)

def reconcile (t : Translator) : Disk (Translator × Except TranslatorError Reconciliation) := do
  let (live, done) ← t.live.reconcileAndFlush
  pure ({ t with live := live }, done.mapError .ledger)

def tick (t : Translator) : Disk Translator := do
  match t.watcher with
  | none => pure t
  | some w =>
    let (w, live) ← w.tick t.live
    pure { t with live := live, watcher := some w }

def isWatching (t : Translator) : Bool := t.watcher.any Watcher.running

def shutdown (t : Translator) : Translator := { t with watcher := none }

end Translator

inductive SetupError where
  | settings (error : SettingsError)
  | translator (error : TranslatorError)
deriving Repr

def SetupError.message : SetupError → Text
  | .settings error => error.message
  | .translator error => error.message

namespace Translator

def defaultSettingsPath : Text := "settings.json".toList

def setup (settingsPath : Option Text) : Disk (Except SetupError Translator) := do
  match ← JsonSettings.load (settingsPath.getD defaultSettingsPath) with
  | .error fault => pure (.error (.settings fault))
  | .ok s =>
    match Config.ofJson s with
    | .error fault => pure (.error (.settings fault))
    | .ok config => return (← start config).mapError .translator

end Translator

end Phrasebook
