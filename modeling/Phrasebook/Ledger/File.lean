import Phrasebook.FileSystem.Basic
import Phrasebook.Ledger.Basic

/-!
The ledger and its file. A file is replaced through a temporary one beside it, so that a
failure leaves it whole; single entries are appended.
-/

namespace Phrasebook

inductive LedgerError where
  /-- An entry needs an input. -/
  | emptyInput
  | unreadable (path : Text) (fault : FileFault)
  | noDirectory (fault : FileFault)
  | noTemporary (fault : FileFault)
  | notWritten (fault : FileFault)
  | notSynced (fault : FileFault)
  | notRenamed (fault : FileFault)
  | notOpened (fault : FileFault)
deriving DecidableEq, Repr

def LedgerError.message : LedgerError → Text
  | .emptyInput => "Ledger entry original text cannot be empty".toList
  | .unreadable path fault =>
    "Failed to load ledger: ".toList ++ path ++ ": ".toList ++ fault.message
  | .noDirectory fault => "Failed to persist ledger: ".toList ++ fault.message
  | .noTemporary fault =>
    "Failed to persist ledger: Failed to create temp file: ".toList ++ fault.message
  | .notWritten fault => "Failed to persist ledger: Failed to write: ".toList ++ fault.message
  | .notSynced fault => "Failed to persist ledger: Failed to sync: ".toList ++ fault.message
  | .notRenamed fault => "Failed to persist ledger: Failed to rename: ".toList ++ fault.message
  | .notOpened fault => "Failed to persist ledger: Failed to open: ".toList ++ fault.message

namespace Ledger

/-- Puts an entry in. If there is one for its input already, it stays unless it is to be
overwritten, and the answer is no. -/
def record (l : Ledger) (e : Entry) (overwrite : Bool) : Except LedgerError (Ledger × Bool) :=
  if e.input.isEmpty then .error .emptyInput
  else if !overwrite && l.contains e.input then .ok (l, false)
  else .ok (l.insert e, true)

/-- Reads a ledger file. No file is an empty ledger. -/
def load (path : Text) : Disk (Except LedgerError Ledger) := do
  let fs ← get
  if fs.has path then
    match fs.contents path with
    | .ok bytes => pure (.ok (ofBytes bytes))
    | .error fault => pure (.error (.unreadable path fault))
  else pure (.ok empty)

def append (path : Text) (e : Entry) : Disk (Except LedgerError Unit) := do
  match ← Disk.ensureParent path with
  | .error fault => pure (.error (.noDirectory fault))
  | .ok () =>
    match ← Disk.write (·.appendFile path) (Utf8.encode (e.toLine ++ ['\n'])) with
    | .error (.unopened fault) => pure (.error (.notOpened fault))
    | .error (.unfinished fault) => pure (.error (.notWritten fault))
    | .ok () => pure (.ok ())

/-- Records an entry that is new and appends its line. The answer is no, and nothing is
written, if there is an entry for its input. -/
def recordAndAppend (l : Ledger) (path : Text) (e : Entry) :
    Disk (Ledger × Except LedgerError Bool) := do
  match l.record e false with
  | .error fault => pure (l, .error fault)
  | .ok (l, false) => pure (l, .ok false)
  | .ok (l, true) =>
    match ← append path e with
    | .error fault => pure (l, .error fault)
    | .ok () => pure (l, .ok true)

def putTemporary (path : Text) (bytes : Bytes) : Disk (Except LedgerError Unit) := do
  match ← Disk.write (·.writeFile (Path.temporary path)) bytes with
  | .error (.unopened fault) => pure (.error (.noTemporary fault))
  | .error (.unfinished fault) => pure (.error (.notWritten fault))
  | .ok () =>
    match (← get).refuses.sync with
    | some fault => pure (.error (.notSynced fault))
    | none => pure (.ok ())

/-- Writes the ledger file anew. If the temporary file cannot be given its path, it is removed, and
if that cannot be done either, it stays. -/
def flush (l : Ledger) (path : Text) : Disk (Except LedgerError Unit) := do
  match ← Disk.ensureParent path with
  | .error fault => pure (.error (.noDirectory fault))
  | .ok () =>
    match ← putTemporary path l.toBytes with
    | .error fault => pure (.error fault)
    | .ok () =>
      match ← Disk.attempt (·.rename (Path.temporary path) path) with
      | .ok () => pure (.ok ())
      | .error fault =>
        let _ ← Disk.attempt (·.removeFile (Path.temporary path))
        pure (.error (.notRenamed fault))

end Ledger

end Phrasebook
