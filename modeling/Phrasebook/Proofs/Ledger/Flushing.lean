import Phrasebook.Proofs.Ledger.Normalisation
import Phrasebook.Proofs.Ledger.Session

/-!
A flush either replaces the ledger file or leaves it as it is. The directories on the way are made,
then a temporary file is written and brought to the medium, and then this is given the path of the
ledger file. Nothing but the last step touches the ledger file, and that step is done or not done.
What the steps before it leave behind is the temporary file and directories. The temporary file is
removed again if the last step fails, unless the system refuses that too; if it was not finished, it
stays.

The ledger file and the temporary one can be the same file. Then a flush is no more than a writing
of this file, and can fail halfway.
-/

namespace Phrasebook.Ledger

open FileSystem

/-- What a flush that succeeds has made of the disk. The file holds the lines of the entries, each
ended by the only newline in it and in the order of the bytes of the inputs. There is no temporary
file, unless it is the ledger file. All other files are kept, with their times. -/
structure Flushed (l : Ledger) (path : Text) (fs fs' : FileSystem) : Prop where
  written : fs'.contents path = .ok (Utf8.encode (linesOf l.entries))
  ended : ∀ e ∈ l.entries, '\n' ∉ e.toLine
  ascending : l.entries.Pairwise fun a b => Utf8.encode a.input < Utf8.encode b.input
  cleared : Path.location (Path.temporary path) ≠ Path.location path →
    fs'.node? (Path.location (Path.temporary path)) = none
  kept : ∀ m, Path.location path ≠ m → Path.location (Path.temporary path) ≠ m → Keeps m fs fs'

/-- What could be read through a path can be read through it, and what can be read through it was
there. -/
structure ReadAsBefore (path : Text) (fs fs' : FileSystem) : Prop where
  legible : ∀ bytes, fs.contents path = .ok bytes → fs'.contents path = .ok bytes
  unwritten : ∀ bytes, fs'.contents path = .ok bytes → fs.bytes? (Path.location path) = some bytes

/-- What a flush that fails leaves in the place of the temporary file, told by the step that has
failed. -/
def Remains (l : Ledger) (path : Text) (fs fs' : FileSystem) : LedgerError → Prop
  | .noDirectory _ => Keeps (Path.location (Path.temporary path)) fs fs'
  | .noTemporary _ => Keeps (Path.location (Path.temporary path)) fs fs'
  | .notWritten _ => ∃ part, part <+: l.toBytes ∧
      fs'.bytes? (Path.location (Path.temporary path)) = some part
  | .notSynced _ => fs'.bytes? (Path.location (Path.temporary path)) = some l.toBytes
  | .notRenamed _ =>
    if fs.refuses.remove = none then fs'.node? (Path.location (Path.temporary path)) = none
    else fs'.bytes? (Path.location (Path.temporary path)) = some l.toBytes
  | .emptyInput => False
  | .unreadable _ _ => False
  | .notOpened _ => False

/-- What a flush that fails has made of the disk. All files are kept but the temporary one. The
ledger file is read as before, if it is another file or the system refuses no step of a flush. -/
structure Unflushed (l : Ledger) (path : Text) (fault : LedgerError) (fs fs' : FileSystem) :
    Prop where
  kept : ∀ m, Path.location (Path.temporary path) ≠ m → Keeps m fs fs'
  readAsBefore : (Path.location (Path.temporary path) = Path.location path →
    fs.Allows l.toBytes) → ReadAsBefore path fs fs'
  remains : Remains l path fs fs' fault

section Steps

variable {l : Ledger} {path : Text} {fs fs₁ fs₂ fs' : FileSystem}

/-- After the last step there is no temporary file. -/
theorem flushed_of_flush (h : l.flush path fs = (.ok (), fs')) : Flushed l path fs fs' := by
  refine ⟨contents_flush h, fun e _ hc => (Entry.ne_of_mem_toLine hc).1 rfl, bytes_ascending l,
    fun hne => ?_, fun m hledger htemporary => ?_⟩
  · obtain ⟨_, _, -, -, hrename⟩ := flush_ok h
    exact node?_eq_none (bytes?_rename hrename hne) (not_isDirectory_rename hrename)
  · have hkeep := keeps_flush l fs hledger htemporary
    rwa [h] at hkeep

theorem readAsBefore_of_keeps (h : Keeps (Path.location path) fs fs') :
    ReadAsBefore path fs fs' where
  legible := fun _ hread => h.contents hread
  unwritten := fun _ hread => h.bytes ▸ (contents_eq_ok_iff.mp hread).2.2.2

/-- If the temporary file cannot be given the path although that is not refused, nothing can be read
through the path, neither before nor after the temporary file has been removed. -/
theorem readAsBefore_of_not_renamed {fault : FileFault}
    (hparent : Disk.ensureParent path fs = (.ok (), fs₁))
    (hput : putTemporary path l.toBytes fs₁ = (.ok (), fs₂))
    (hrename : fs₂.rename (Path.temporary path) path = .error fault)
    (hallowed : fs₂.refuses.rename = none)
    (hremove : fs₂.removeFile (Path.temporary path) = .ok fs' ∨ fs' = fs₂) :
    ReadAsBefore path fs fs' := by
  obtain ⟨hfile, -, -⟩ := putTemporary_ok hput
  have hshut : ∀ bytes, fs₂.contents path ≠ .ok bytes := by
    intro bytes hread
    obtain ⟨_, hdone⟩ := exists_rename_temporary hfile hread hallowed
    cases hrename.symm.trans hdone
  refine ⟨fun bytes hread => ?_, fun bytes hread => ?_⟩
  · cases (ensureParent_of_contents hread).symm.trans hparent
    obtain ⟨bytes', hread'⟩ := exists_contents_written hread hfile
    exact absurd hread' (hshut bytes')
  rcases hremove with hremove | rfl
  · obtain ⟨-, -, -, hbytes⟩ := contents_eq_ok_iff.mp hread
    by_cases hsame : Path.location (Path.temporary path) = Path.location path
    · -- The file that was removed is the only one the path could lead to.
      rw [bytes?, ← hsame, node?_removeFile hremove] at hbytes
      cases hbytes
    · have hkept := (keeps_ensureParent hparent).trans
        ((keeps_putTemporary hput hsame).trans (keeps_removeFile hremove hsame))
      rw [← hkept.bytes, hbytes]
  · exact absurd hread (hshut bytes)

/-- Where no step is refused, a flush fails for the sake of the tree, and no file that the path leads
to is written or lost. -/
theorem readAsBefore_of_allows {fault : LedgerError} (h : l.flush path fs = (.error fault, fs'))
    (hallows : fs.Allows l.toBytes) : ReadAsBefore path fs fs' := by
  rcases flush_cases h with ⟨_, hparent, -⟩ | ⟨fs₁, hparent, hrest⟩
  · exact readAsBefore_of_keeps (keeps_ensureParent hparent)
  have hfirst := hallows.of_refuses (refuses_ensureParent hparent)
  rcases hrest with ⟨_, hput, -⟩ | ⟨fs₂, hput, ⟨_, hrename, -, hremove⟩ | ⟨-, hdone⟩⟩
  · rcases putTemporary_cases hput with ⟨_, -, rfl⟩ | ⟨_, -, hshort, -⟩ |
      ⟨-, -, ⟨_, hsync, -⟩ | ⟨-, hdone⟩⟩
    · exact readAsBefore_of_keeps (keeps_ensureParent hparent)
    · rw [hfirst.write] at hshort
      cases hshort
    · rw [hfirst.sync] at hsync
      cases hsync
    · cases hdone
  · have hsecond := hfirst.of_refuses (refuses_putTemporary hput)
    apply readAsBefore_of_not_renamed hparent hput hrename hsecond.rename
    exact hremove.imp_right And.right
  · cases hdone

theorem remains_of_flush {fault : LedgerError} (h : l.flush path fs = (.error fault, fs')) :
    Remains l path fs fs' fault := by
  rcases flush_cases h with ⟨_, hparent, herror⟩ | ⟨fs₁, hparent, hrest⟩
  · cases herror
    exact keeps_ensureParent hparent
  rcases hrest with ⟨_, hput, herror⟩ | ⟨fs₂, hput, ⟨_, -, herror, hremove⟩ | ⟨-, hdone⟩⟩
  · cases herror
    rcases putTemporary_cases hput with ⟨_, herror, rfl⟩ | ⟨_, hfile, -, herror⟩ |
      ⟨hfile, -, ⟨_, -, herror⟩ | ⟨-, hdone⟩⟩
    · cases herror
      exact keeps_ensureParent hparent
    · cases herror
      exact ⟨_, taken_prefix fs₁ l.toBytes, bytes?_updateFile hfile⟩
    · cases herror
      exact bytes?_updateFile hfile
    · cases hdone
  · cases herror
    obtain ⟨hfile, -, -⟩ := putTemporary_ok hput
    have hsame := (refuses_updateFile hfile).trans (refuses_ensureParent hparent)
    unfold Remains
    rcases hremove with hremove | ⟨hrefused, rfl⟩
    · obtain ⟨-, -, hallowed, -⟩ := removeFile_cases hremove
      rw [if_pos (hsame ▸ hallowed)]
      exact node?_removeFile hremove
    · rw [if_neg (hsame ▸ hrefused)]
      exact bytes?_updateFile hfile
  · cases hdone

theorem unflushed_of_flush {fault : LedgerError} (h : l.flush path fs = (.error fault, fs')) :
    Unflushed l path fault fs fs' where
  kept := fun _ hne => keeps_flush_error h hne
  readAsBefore := by
    intro hown
    by_cases hsame : Path.location (Path.temporary path) = Path.location path
    · exact readAsBefore_of_allows h (hown hsame)
    · exact readAsBefore_of_keeps (keeps_flush_error h hsame)
  remains := remains_of_flush h

end Steps

/-- A flush is done as a whole or not at all, whatever is on the disk and whatever the system
refuses, but for the temporary file; and the ledger in use stays as it is. -/
theorem flush_all_or_nothing (l : Ledger) (path : Text) (fs : FileSystem) :
    ∃ r fs', Operation.flush.perform path l fs = ((l, r), fs') ∧
      ((r = .ok true ∧ Flushed l path fs fs') ∨
        ∃ fault, r = .error fault ∧ Unflushed l path fault fs fs') := by
  simp only [Operation.perform, Disk.bind_apply]
  rcases hflush : l.flush path fs with ⟨fault | u, fs'⟩
  · exact ⟨.error fault, fs', rfl, Or.inr ⟨fault, rfl, unflushed_of_flush hflush⟩⟩
  · exact ⟨.ok true, fs', rfl, Or.inl ⟨rfl, flushed_of_flush hflush⟩⟩

/-- A file in the place of the temporary one is lost, even if the ledger cannot be written because
a directory stands in its place. -/
example : Ledger.empty.flush ['l']
      ⟨[(["l.tmp".toList], .file [1] (.moment 1)), ([['l']], .directory (.moment 0)),
        ([], .directory (.moment 0))], 2, {}⟩ =
    (.error (.notRenamed .isDirectory),
      ⟨[([], .directory (.moment 3)), ([['l']], .directory (.moment 0))], 4, {}⟩) := by rfl

def ownTemporary (refuses : Refusals) : FileSystem :=
  ⟨[(["l.tmp".toList], .file [1] (.moment 1)), ([], .directory (.moment 0))], 2, refuses⟩

def deviceFault : FileFault := .other "Input/output error (os error 5)".toList

/-- A ledger file with the ending of a temporary file is lost if its path is written with a slash at
the end, and it is overwritten by a flush that fails because the file cannot be brought to the
medium. A temporary file that can be given no path and cannot be removed stays. -/
theorem not_flush_all_or_nothing :
    (∃ fs', empty.flush "l.tmp/".toList (ownTemporary {}) =
        (.error (.notRenamed .notDirectory), fs') ∧
      (ownTemporary {}).contents "l.tmp".toList = .ok [1] ∧
      fs'.contents "l.tmp".toList = .error .notFound) ∧
    (∃ fs', empty.flush "l.tmp".toList (ownTemporary { sync := some deviceFault }) =
        (.error (.notSynced deviceFault), fs') ∧
      (ownTemporary { sync := some deviceFault }).contents "l.tmp".toList = .ok [1] ∧
      fs'.contents "l.tmp".toList = .ok []) ∧
    (∃ fs', empty.flush ['l'] { directoryInPlace with refuses := { remove := some deviceFault } } =
        (.error (.notRenamed .isDirectory), fs') ∧
      fs'.contents "l.tmp".toList = .ok []) ∧
    ¬ ∀ (l : Ledger) (path : Text) (fs fs' : FileSystem) (fault : LedgerError),
      l.flush path fs = (.error fault, fs') →
        fs'.bytes? (Path.location path) = fs.bytes? (Path.location path) ∧
        ∀ f, fault = .notRenamed f → fs'.node? (Path.location (Path.temporary path)) = none := by
  refine ⟨⟨_, rfl, rfl, rfl⟩, ⟨_, rfl, rfl, rfl⟩, ⟨_, rfl, rfl⟩, fun hall => ?_⟩
  have hbytes := (hall empty "l.tmp".toList (ownTemporary { sync := some deviceFault }) _ _ rfl).1
  exact absurd hbytes (by decide)

end Phrasebook.Ledger
