import Phrasebook.Dictionary.Reader
import Phrasebook.Ledger.File

/-!
The dictionary in use with its generation number, the ledger, and the paths of their files. A
reload takes a new dictionary into use, reads the ledger file again, resolves its entries anew
and writes it back.
-/

namespace Phrasebook

inductive ReloadError where
  | load (error : LoadError)
  | ledger (error : LedgerError)
deriving DecidableEq, Repr

def ReloadError.message : ReloadError → Text
  | .load error => error.message
  | .ledger error => error.message

structure ReloadSummary where
  generation : Nat
  reconciliation : Reconciliation
deriving DecidableEq, Repr

structure Live where
  dictionaryPath : Text
  ledgerPath : Text
  dictionary : Dictionary
  ledger : Ledger
  /-- How often the dictionary has been replaced. -/
  generation : Nat := 0
deriving DecidableEq, Repr

namespace Live

def replaceDictionary (live : Live) (d : Dictionary) : Live :=
  { live with dictionary := d, generation := live.generation + 1 }

def reconcileAndFlush (live : Live) : Disk (Live × Except LedgerError Reconciliation) := do
  let renewed := { live with ledger := live.ledger.reconcile live.dictionary }
  match ← renewed.ledger.flush live.ledgerPath with
  | .error fault => pure (renewed, .error fault)
  | .ok () => pure (renewed, .ok (live.ledger.reconciliation live.dictionary))

/-- Takes the dictionary file into use, then the ledger file. -/
def reload (live : Live) : Disk (Live × Except ReloadError ReloadSummary) := do
  match ← Dictionary.load live.dictionaryPath with
  | .error fault => pure (live, .error (.load fault))
  | .ok d =>
    let live := live.replaceDictionary d
    match ← Ledger.load live.ledgerPath with
    | .error fault => pure (live, .error (.ledger fault))
    | .ok l =>
      match ← { live with ledger := l }.reconcileAndFlush with
      | (live, .error fault) => pure (live, .error (.ledger fault))
      | (live, .ok done) => pure (live, .ok ⟨live.generation, done⟩)

end Live

end Phrasebook
