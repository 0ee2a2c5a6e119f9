import Phrasebook.Proofs.FileSystem.Frame

/-!
What can be done on the disk. An operation can be done if the way to its path is clear, if no
directory stands where a file has to be, and if the system does not refuse it. What a system refuses
is told apart from the tree, so each of these is a condition of its own; for a file to be replaced
they come together in `Allows`.
-/

namespace Phrasebook.FileSystem

/-- Directories that are there need not be created. -/
theorem makeDirectories_eq_self {fs : FileSystem} {missed : Bool} {ls : List Location}
    (h : ∀ l ∈ ls, fs.IsDirectory l) : fs.makeDirectories missed ls = (.ok (), fs) := by
  induction ls with
  | nil => rfl
  | cons l ls ih =>
    obtain ⟨stamp, hnode⟩ := h l List.mem_cons_self
    simp only [makeDirectories, hnode]
    exact ih fun m hm => h m (List.mem_cons_of_mem l hm)

/-- Where a file was in the way, the tree has a location without a directory still. -/
theorem exists_not_isDirectory_of_makeDirectories {fs fs' : FileSystem} {missed : Bool}
    {ls : List Location} {fault : FileFault}
    (h : fs.makeDirectories missed ls = (.error fault, fs')) : ∃ l ∈ ls, ¬ fs'.IsDirectory l := by
  induction ls generalizing fs missed with
  | nil => cases h
  | cons l ls ih =>
    simp only [makeDirectories] at h
    split at h
    · obtain ⟨m, hm, hdir⟩ := ih h
      exact ⟨m, List.mem_cons_of_mem l hm, hdir⟩
    · rename_i bytes stamp hnode
      cases h
      exact ⟨l, List.mem_cons_self,
        not_isDirectory_of_bytes? (bytes?_eq_some_iff.mpr ⟨stamp, hnode⟩)⟩
    · obtain ⟨m, hm, hdir⟩ := ih h
      exact ⟨m, List.mem_cons_of_mem l hm, hdir⟩

/-- To write a file makes no directory and takes none away. -/
theorem isDirectory_updateFile {fs fs' : FileSystem} {path : Text} {change : Bytes → Bytes}
    {l : Location} (hdone : fs.updateFile path change = .ok fs') :
    fs'.IsDirectory l ↔ fs.IsDirectory l := by
  obtain ⟨-, -, hfile, around, stamp, -, hsame, -, hfs'⟩ := updateFile_cases hdone
  constructor
  · intro h
    obtain ⟨stamp', hnode⟩ := h
    rw [hfs'] at hnode
    have hput := (node?_put around (Path.location path) l _).symm.trans hnode
    split at hput
    · cases hput
    · exact hsame l ⟨stamp', hput⟩
  · intro h
    have hne : Path.location path ≠ l := by
      intro heq
      subst heq
      exact hfile h
    exact (keeps_updateFile hdone hne).directories l h

/-- A file can be written where the way is clear and no directory stands. -/
theorem exists_updateFile {fs : FileSystem} {path : Text} (change : Bytes → Bytes)
    (hreach : fs.reach path = .ok (Path.location path)) (hslash : Path.isSlashed path = false)
    (hdir : ¬ fs.IsDirectory (Path.location path)) :
    ∃ fs', fs.updateFile path change = .ok fs' := by
  unfold updateFile
  cases hnode : fs.node? (Path.location path) with
  | none => simp [hreach, hslash, hnode]
  | some n =>
    cases n with
    | file b stamp => simp [hreach, hslash, hnode]
    | directory stamp => exact absurd ⟨stamp, hnode⟩ hdir

/-- Every file that can be read can be removed, unless the system refuses that. -/
theorem exists_removeFile {fs : FileSystem} {path : Text} {bytes : Bytes}
    (hread : fs.contents path = .ok bytes) (hremove : fs.refuses.remove = none) :
    ∃ fs', fs.removeFile path = .ok fs' := by
  unfold contents at hread
  unfold removeFile
  split at hread
  · cases hread
  · rename_i hfind
    simp only [hfind, hremove, permit]
    exact ⟨_, rfl⟩
  · cases hread

/-- A file can be given a path whose way is clear and at whose end no directory stands, unless the
system refuses that. -/
theorem exists_rename {fs : FileSystem} {source target : Text} {bytes : Bytes}
    (hsource : fs.reach source = .ok (Path.location source))
    (hbytes : fs.bytes? (Path.location source) = some bytes)
    (htarget : fs.reach target = .ok (Path.location target))
    (hslash : Path.isSlashed target = false) (hdir : ¬ fs.IsDirectory (Path.location target))
    (hrename : fs.refuses.rename = none) : ∃ fs', fs.rename source target = .ok fs' := by
  obtain ⟨stamp, hnode⟩ := bytes?_eq_some_iff.mp hbytes
  have hfile : ((fs.node? (Path.location target)).any Node.isDirectory) = false := by
    cases htnode : fs.node? (Path.location target) with
    | none => rfl
    | some n =>
      cases n with
      | file b stamp => rfl
      | directory stamp => exact absurd ⟨stamp, htnode⟩ hdir
  unfold rename
  simp only [hsource, htarget, hnode, hslash, hfile, hrename, permit, Bool.false_eq_true, if_false]
  split
  · exact ⟨_, rfl⟩
  · exact ⟨_, rfl⟩

theorem shortage?_eq_none_iff {fs : FileSystem} {bytes : Bytes} :
    fs.shortage? bytes = none ↔ bytes = [] ∨ fs.refuses.write = none := by
  unfold shortage?
  by_cases hnil : bytes = []
  · simp [hnil]
  · simp [hnil]

theorem taken_of_shortage? {fs : FileSystem} {bytes : Bytes} (h : fs.shortage? bytes = none) :
    fs.taken bytes = bytes := by
  unfold taken
  rcases shortage?_eq_none_iff.mp h with hnil | hwrite
  · rw [hnil]
    cases fs.refuses.write with
    | none => rfl
    | some refusal => exact List.take_nil
  · rw [hwrite]

theorem taken_prefix (fs : FileSystem) (bytes : Bytes) : fs.taken bytes <+: bytes := by
  unfold taken
  cases fs.refuses.write with
  | none => exact List.prefix_rfl
  | some refusal => exact List.take_prefix _ _

/-- The ways in which writing to a file can end, with all that each of them leaves behind. -/
theorem write_cases {put : FileSystem → Bytes → Except FileFault FileSystem} {bytes : Bytes}
    {fs fs' : FileSystem} {r : Except WriteFault Unit} (h : Disk.write put bytes fs = (r, fs')) :
    (∃ fault, put fs (fs.taken bytes) = .error fault ∧ r = .error (.unopened fault) ∧ fs' = fs) ∨
    (∃ fault, put fs (fs.taken bytes) = .ok fs' ∧ fs.shortage? bytes = some fault ∧
      r = .error (.unfinished fault)) ∨
    (put fs bytes = .ok fs' ∧ fs.shortage? bytes = none ∧ r = .ok ()) := by
  unfold Disk.write at h
  cases hput : put fs (fs.taken bytes) with
  | error fault =>
    simp only [hput] at h
    cases h
    exact Or.inl ⟨fault, rfl, rfl, rfl⟩
  | ok fs₁ =>
    cases hshort : fs.shortage? bytes with
    | some fault =>
      simp only [hput, hshort] at h
      cases h
      exact Or.inr (Or.inl ⟨fault, rfl, rfl, rfl⟩)
    | none =>
      simp only [hput, hshort] at h
      cases h
      rw [taken_of_shortage? hshort] at hput
      exact Or.inr (Or.inr ⟨hput, rfl, rfl⟩)

/-- The system refuses nothing that it takes to replace a file by one with these bytes. -/
structure Allows (fs : FileSystem) (bytes : Bytes) : Prop where
  write : fs.shortage? bytes = none
  sync : fs.refuses.sync = none
  rename : fs.refuses.rename = none

theorem allows_of_refuses_nothing {fs : FileSystem} (h : fs.refuses = {}) (bytes : Bytes) :
    fs.Allows bytes where
  write := shortage?_eq_none_iff.mpr (Or.inr (by rw [h]))
  sync := by rw [h]
  rename := by rw [h]

theorem Allows.of_refuses {fs fs' : FileSystem} {bytes : Bytes} (h : fs.Allows bytes)
    (hsame : fs'.refuses = fs.refuses) : fs'.Allows bytes where
  write := by
    rw [shortage?_eq_none_iff, hsame]
    exact shortage?_eq_none_iff.mp h.write
  sync := hsame ▸ h.sync
  rename := hsame ▸ h.rename

/-- What is allowed for some bytes is allowed for any others, unless there were none. -/
theorem Allows.of_ne_nil {fs : FileSystem} {bytes bytes' : Bytes} (h : fs.Allows bytes)
    (hnil : bytes = [] → bytes' = []) : fs.Allows bytes' where
  write := by
    rw [shortage?_eq_none_iff]
    exact (shortage?_eq_none_iff.mp h.write).imp_left hnil
  sync := h.sync
  rename := h.rename

theorem write_of_put {put : FileSystem → Bytes → Except FileFault FileSystem} {bytes : Bytes}
    {fs fs' : FileSystem} (hput : put fs bytes = .ok fs') (hshort : fs.shortage? bytes = none) :
    Disk.write put bytes fs = (.ok (), fs') := by
  simp only [Disk.write, taken_of_shortage? hshort, hput, hshort]

end Phrasebook.FileSystem
