import Phrasebook.FileSystem.Basic

/-!
What work on the disk leaves alone. Whatever is done through one path, directories stay
directories and the files at all other locations stay as they are, as long as only files are
removed. So a file can be read as before after any work that is not about its own location. No work
changes what the system refuses.
-/

namespace Phrasebook

namespace Disk

@[simp] theorem bind_apply {α β : Type} (x : Disk α) (f : α → Disk β) (fs : FileSystem) :
    (x >>= f) fs = f (x fs).1 (x fs).2 := rfl

@[simp] theorem pure_apply {α : Type} (a : α) (fs : FileSystem) :
    (pure a : Disk α) fs = (a, fs) := rfl

@[simp] theorem get_apply (fs : FileSystem) : (get : Disk FileSystem) fs = (fs, fs) := rfl

@[simp] theorem attempt_apply (change : FileSystem → Except FileFault FileSystem)
    (fs : FileSystem) :
    attempt change fs =
      match change fs with
      | .ok fs' => (.ok (), fs')
      | .error fault => (.error fault, fs) := rfl

end Disk

namespace FileSystem

def IsDirectory (fs : FileSystem) (l : Location) : Prop :=
  ∃ stamp, fs.node? l = some (.directory stamp)

def file? (fs : FileSystem) (l : Location) : Option (Bytes × Stamp) :=
  match fs.node? l with
  | some (.file bytes stamp) => some (bytes, stamp)
  | _ => none

theorem map_fst_file? (fs : FileSystem) (l : Location) :
    (fs.file? l).map Prod.fst = fs.bytes? l := by
  unfold file? bytes?
  cases fs.node? l with
  | none => rfl
  | some n => cases n <;> rfl

theorem file?_eq_none_iff {fs : FileSystem} {l : Location} :
    fs.file? l = none ↔ fs.bytes? l = none := by
  rw [← map_fst_file?, Option.map_eq_none_iff]

/-- All directories are still there, and so is the file at a location, with its bytes and its
time. -/
structure Keeps (l : Location) (fs fs' : FileSystem) : Prop where
  directories : ∀ m, fs.IsDirectory m → fs'.IsDirectory m
  file : fs'.file? l = fs.file? l

theorem Keeps.bytes {l : Location} {fs fs' : FileSystem} (h : Keeps l fs fs') :
    fs'.bytes? l = fs.bytes? l := by
  rw [← map_fst_file?, ← map_fst_file?, h.file]

theorem Keeps.refl (l : Location) (fs : FileSystem) : Keeps l fs fs := ⟨fun _ h => h, rfl⟩

theorem Keeps.trans {l : Location} {fs fs' fs'' : FileSystem} (h : Keeps l fs fs')
    (h' : Keeps l fs' fs'') : Keeps l fs fs'' :=
  ⟨fun m hm => h'.directories m (h.directories m hm), h'.file.trans h.file⟩

/-- The same directories, and the same files with the same bytes. Only times may be others. -/
structure SameFiles (fs fs' : FileSystem) : Prop where
  directories : ∀ l, fs'.IsDirectory l ↔ fs.IsDirectory l
  bytes : ∀ l, fs'.bytes? l = fs.bytes? l

theorem bytes?_eq_some_iff {fs : FileSystem} {l : Location} {bytes : Bytes} :
    fs.bytes? l = some bytes ↔ ∃ stamp, fs.node? l = some (.file bytes stamp) := by
  unfold bytes?
  split
  · rename_i b stamp hnode
    simp [hnode]
  · rename_i hnode
    constructor
    · intro h
      cases h
    · intro hfile
      obtain ⟨stamp, hstamp⟩ := hfile
      exact absurd hstamp (hnode bytes stamp)

theorem not_isDirectory_of_bytes? {fs : FileSystem} {l : Location} {bytes : Bytes}
    (h : fs.bytes? l = some bytes) : ¬ fs.IsDirectory l := by
  obtain ⟨stamp, hfile⟩ := bytes?_eq_some_iff.mp h
  intro hisDir
  obtain ⟨stamp', hdir⟩ := hisDir
  rw [hfile] at hdir
  cases hdir

theorem bytes?_of_isDirectory {fs : FileSystem} {l : Location} (h : fs.IsDirectory l) :
    fs.bytes? l = none := by
  obtain ⟨stamp, hdir⟩ := h
  simp only [bytes?, hdir]

theorem walk_eq_ok_iff {fs : FileSystem} {ls : List Location} :
    fs.walk ls = .ok () ↔ ∀ l ∈ ls, fs.IsDirectory l := by
  induction ls with
  | nil => simp [walk]
  | cons l ls ih =>
    simp only [walk, List.forall_mem_cons]
    split
    · rename_i hnode
      simp [IsDirectory, hnode]
    · rename_i hnode
      simp [IsDirectory, hnode]
    · rename_i stamp hnode
      have hl : fs.IsDirectory l := ⟨stamp, hnode⟩
      simp [hl, ih]

theorem reach_eq_ok_iff {fs : FileSystem} {path : Text} {l : Location} :
    fs.reach path = .ok l ↔ path ≠ [] ∧ l = Path.location path ∧
      ∀ m ∈ (Path.stations path).dropLast, fs.IsDirectory m := by
  unfold reach
  split
  · simp [*]
  · rename_i hpath
    rw [← walk_eq_ok_iff]
    split
    · rename_i hwalk
      simp [hpath, hwalk, eq_comm]
    · rename_i fault hwalk
      simp [hwalk]

/-- A file can be read through a path that does not ask for a directory and whose way leads
through directories. -/
theorem contents_eq_ok_iff {fs : FileSystem} {path : Text} {bytes : Bytes} :
    fs.contents path = .ok bytes ↔ path ≠ [] ∧ Path.isSlashed path = false ∧
      (∀ m ∈ (Path.stations path).dropLast, fs.IsDirectory m) ∧
      fs.bytes? (Path.location path) = some bytes := by
  constructor
  · intro h
    unfold contents find at h
    cases hreach : fs.reach path with
    | error fault => simp [hreach] at h
    | ok l =>
      obtain ⟨hpath, rfl, hway⟩ := reach_eq_ok_iff.mp hreach
      cases hnode : fs.node? (Path.location path) with
      | none => simp [hreach, hnode] at h
      | some n =>
        cases n with
        | directory stamp => simp [hreach, hnode, Node.isDirectory] at h
        | file b stamp =>
          cases hslash : Path.isSlashed path with
          | true => simp [hreach, hnode, hslash, Node.isDirectory] at h
          | false =>
            simp [hreach, hnode, hslash] at h
            exact ⟨hpath, rfl, hway, bytes?_eq_some_iff.mpr ⟨stamp, h ▸ hnode⟩⟩
  · intro hfound
    obtain ⟨hpath, hslash, hway, hbytes⟩ := hfound
    obtain ⟨stamp, hnode⟩ := bytes?_eq_some_iff.mp hbytes
    have hreach := reach_eq_ok_iff.mpr ⟨hpath, rfl, hway⟩
    simp [contents, find, hreach, hnode, hslash]

theorem has_of_contents {path : Text} {fs : FileSystem} {bytes : Bytes}
    (h : fs.contents path = .ok bytes) : fs.has path = true := by
  unfold contents at h
  unfold has
  split at h
  · cases h
  · rename_i hfind
    simp [hfind, Except.isOk, Except.toBool]
  · cases h

theorem has_of_stamp? {path : Text} {fs : FileSystem} {stamp : Stamp}
    (h : fs.stamp? path = some stamp) : fs.has path = true := by
  unfold stamp? at h
  unfold has
  cases hfind : fs.find path with
  | error fault => simp [hfind, Except.toOption] at h
  | ok n => rfl

theorem exists_stamp?_of_has {path : Text} {fs : FileSystem} (h : fs.has path = true) :
    ∃ stamp, fs.stamp? path = some stamp := by
  unfold has at h
  unfold stamp?
  cases hfind : fs.find path with
  | error fault => simp [hfind, Except.isOk, Except.toBool] at h
  | ok n => exact ⟨n.stamp, rfl⟩

/-- What is kept can be read as before. -/
theorem Keeps.contents {fs fs' : FileSystem} {path : Text} {bytes : Bytes}
    (h : Keeps (Path.location path) fs fs') (hread : fs.contents path = .ok bytes) :
    fs'.contents path = .ok bytes := by
  obtain ⟨hpath, hslash, hway, hbytes⟩ := contents_eq_ok_iff.mp hread
  exact contents_eq_ok_iff.mpr ⟨hpath, hslash, fun m hm => h.directories m (hway m hm),
    h.bytes.trans hbytes⟩

theorem keeps_tick (l : Location) (fs : FileSystem) : Keeps l fs fs.tick := ⟨fun _ h => h, rfl⟩

/-- A node can be put where it replaces nothing that is to be kept. -/
theorem keeps_put {l m : Location} {fs : FileSystem} {n : Node}
    (hdir : fs.IsDirectory m → n.isDirectory = true)
    (hbytes : m = l → n.isDirectory = true ∧ fs.bytes? l = none) : Keeps l fs (fs.put m n) := by
  constructor
  · intro k hk
    unfold IsDirectory
    rw [node?_put]
    by_cases hkm : k = m
    · subst k
      cases n with
      | file b stamp => simpa [Node.isDirectory] using hdir hk
      | directory stamp => exact ⟨stamp, by simp⟩
    · rw [if_neg hkm]
      exact hk
  · by_cases hml : m = l
    · subst m
      obtain ⟨hn, hnone⟩ := hbytes rfl
      cases n with
      | file b stamp => simp [Node.isDirectory] at hn
      | directory stamp => rw [file?_eq_none_iff.mpr hnone, file?, node?_put]; simp
    · simp only [file?, node?_put, if_neg (Ne.symm hml)]

theorem keeps_touchAround (l m : Location) (fs : FileSystem) : Keeps l fs (fs.touchAround m) := by
  unfold touchAround
  split
  · rename_i stamp hnode
    refine Keeps.trans (keeps_put (fun _ => rfl) fun heq => ⟨rfl, ?_⟩) (keeps_tick l _)
    exact bytes?_of_isDirectory ⟨stamp, heq ▸ hnode⟩
  · exact Keeps.refl l fs

@[simp] theorem refuses_touchAround (fs : FileSystem) (l : Location) :
    (fs.touchAround l).refuses = fs.refuses := by
  unfold touchAround
  split <;> rfl

theorem isDirectory_touchAround {fs : FileSystem} {l m : Location} :
    (fs.touchAround m).IsDirectory l ↔ fs.IsDirectory l := by
  refine ⟨fun h => ?_, (keeps_touchAround l m fs).directories l⟩
  unfold touchAround at h
  split at h
  · rename_i stamp hnode
    by_cases hl : l = m.dropLast
    · exact hl ▸ ⟨stamp, hnode⟩
    · obtain ⟨stamp', hdir⟩ := h
      exact ⟨stamp', (node?_put fs m.dropLast l _).trans (if_neg hl) ▸ hdir⟩
  · exact h

/-- Where something was removed, a change of the directory around it puts nothing. -/
theorem node?_touchAround_erase (fs : FileSystem) (l : Location) :
    ((fs.erase l).touchAround l).node? l = none := by
  have hgone : (fs.erase l).node? l = none := by rw [node?_erase, if_pos rfl]
  unfold touchAround
  split
  · rename_i stamp hnode
    have hne : l ≠ l.dropLast := by
      intro heq
      rw [← heq, hgone] at hnode
      cases hnode
    exact (node?_put _ _ _ _).trans ((if_neg hne).trans hgone)
  · exact hgone

theorem keeps_erase {l m : Location} {fs : FileSystem} (hdir : ¬ fs.IsDirectory m) (h : m ≠ l) :
    Keeps l fs (fs.erase m) := by
  constructor
  · intro k hk
    have hkm : k ≠ m := by
      intro heq
      subst heq
      exact hdir hk
    simpa only [IsDirectory, node?_erase, if_neg hkm] using hk
  · simp only [file?, node?_erase, if_neg (Ne.symm h)]

/-- What a write makes of the tree: a file that was not a directory before has the new bytes,
and of the rest only times are new. -/
theorem updateFile_cases {fs fs' : FileSystem} {path : Text} {change : Bytes → Bytes}
    (h : fs.updateFile path change = .ok fs') :
    fs.reach path = .ok (Path.location path) ∧ Path.isSlashed path = false ∧
      ¬ fs.IsDirectory (Path.location path) ∧
      ∃ around stamp, (∀ l, Keeps l fs around) ∧ (∀ l, around.IsDirectory l → fs.IsDirectory l) ∧
        around.refuses = fs.refuses ∧ fs' = (around.put (Path.location path)
          (.file (change ((fs.bytes? (Path.location path)).getD [])) stamp)).tick := by
  unfold updateFile at h
  cases hreach : fs.reach path with
  | error fault => simp [hreach] at h
  | ok l =>
    obtain ⟨-, rfl, -⟩ := reach_eq_ok_iff.mp hreach
    simp only [hreach] at h
    split at h
    · cases h
    · rename_i hslash
      refine ⟨rfl, by simpa using hslash, ?_⟩
      split at h
      · cases h
      · rename_i b stamp hnode
        cases h
        have hbytes : fs.bytes? (Path.location path) = some b :=
          bytes?_eq_some_iff.mpr ⟨stamp, hnode⟩
        exact ⟨not_isDirectory_of_bytes? hbytes, fs, fs.now, fun l => Keeps.refl l fs,
          fun _ hl => hl, rfl, by rw [hbytes]; rfl⟩
      · rename_i hnode
        cases h
        have hdir : ¬ fs.IsDirectory (Path.location path) := by
          intro hisDir
          obtain ⟨stamp, hdir⟩ := hisDir
          rw [hnode] at hdir
          cases hdir
        refine ⟨hdir, fs.touchAround (Path.location path),
          (fs.touchAround (Path.location path)).now, fun l => keeps_touchAround l _ fs,
          fun l => isDirectory_touchAround.mp, refuses_touchAround fs _, ?_⟩
        simp only [bytes?, hnode, Option.getD_none]

/-- The file at the end of a path is the only one that is written through it. -/
theorem keeps_updateFile {l : Location} {fs fs' : FileSystem} {path : Text}
    {change : Bytes → Bytes} (hdone : fs.updateFile path change = .ok fs')
    (h : Path.location path ≠ l) : Keeps l fs fs' := by
  obtain ⟨-, -, hfile, around, stamp, haround, hsame, -, rfl⟩ := updateFile_cases hdone
  exact (haround l).trans (Keeps.trans
    (keeps_put (fun hd => absurd (hsame _ hd) hfile) fun heq => absurd heq h) (keeps_tick l _))

theorem refuses_updateFile {fs fs' : FileSystem} {path : Text} {change : Bytes → Bytes}
    (hdone : fs.updateFile path change = .ok fs') : fs'.refuses = fs.refuses := by
  obtain ⟨-, -, -, around, stamp, -, -, hsame, rfl⟩ := updateFile_cases hdone
  exact hsame

/-- What has been written through a path can be read through it. -/
theorem contents_updateFile {fs fs' : FileSystem} {path : Text} {change : Bytes → Bytes}
    (hdone : fs.updateFile path change = .ok fs') :
    fs'.contents path = .ok (change ((fs.bytes? (Path.location path)).getD [])) := by
  obtain ⟨hreach, hslash, hfile, around, stamp, haround, -, -, rfl⟩ := updateFile_cases hdone
  obtain ⟨hpath, -, hway⟩ := reach_eq_ok_iff.mp hreach
  refine contents_eq_ok_iff.mpr ⟨hpath, hslash, fun m hm => ?_, ?_⟩
  · obtain ⟨stamp', hnode⟩ := (haround m).directories m (hway m hm)
    have hne : m ≠ Path.location path := by
      intro heq
      subst heq
      exact hfile (hway _ hm)
    exact ⟨stamp', ((node?_put around _ m _).trans (if_neg hne)).trans hnode⟩
  · exact bytes?_eq_some_iff.mpr ⟨stamp, (node?_put around _ _ _).trans (if_pos rfl)⟩

theorem bytes?_updateFile {fs fs' : FileSystem} {path : Text} {change : Bytes → Bytes}
    (hdone : fs.updateFile path change = .ok fs') :
    fs'.bytes? (Path.location path) =
      some (change ((fs.bytes? (Path.location path)).getD [])) :=
  (contents_eq_ok_iff.mp (contents_updateFile hdone)).2.2.2

/-- Whatever is created until all directories are there or a file is in the way, every file is left
alone. -/
theorem keeps_makeDirectories {l : Location} {fs fs' : FileSystem} {missed : Bool}
    {ls : List Location} {r : Except FileFault Unit}
    (h : fs.makeDirectories missed ls = (r, fs')) : Keeps l fs fs' := by
  induction ls generalizing fs missed with
  | nil =>
    cases h
    exact Keeps.refl l _
  | cons m ls ih =>
    simp only [makeDirectories] at h
    split at h
    · exact ih h
    · cases h
      exact Keeps.refl l _
    · rename_i hnode
      refine (keeps_touchAround l m fs).trans (Keeps.trans ?_ (ih h))
      refine Keeps.trans (keeps_put (fun _ => rfl) fun heq => ⟨rfl, ?_⟩) (keeps_tick l _)
      rw [(keeps_touchAround l m fs).bytes, bytes?, ← heq, hnode]

theorem refuses_makeDirectories {fs fs' : FileSystem} {missed : Bool} {ls : List Location}
    {r : Except FileFault Unit} (h : fs.makeDirectories missed ls = (r, fs')) :
    fs'.refuses = fs.refuses := by
  induction ls generalizing fs missed with
  | nil =>
    cases h
    rfl
  | cons m ls ih =>
    simp only [makeDirectories] at h
    split at h
    · exact ih h
    · cases h
      rfl
    · exact (ih h).trans (refuses_touchAround fs m)

theorem keeps_ensureParent {l : Location} {fs fs' : FileSystem} {path : Text}
    {r : Except FileFault Unit} (h : Disk.ensureParent path fs = (r, fs')) : Keeps l fs fs' :=
  keeps_makeDirectories h

theorem refuses_ensureParent {fs fs' : FileSystem} {path : Text} {r : Except FileFault Unit}
    (h : Disk.ensureParent path fs = (r, fs')) : fs'.refuses = fs.refuses :=
  refuses_makeDirectories h

theorem permit_eq_ok_iff {refusal : Option FileFault} {fs fs' : FileSystem} :
    permit refusal fs = .ok fs' ↔ refusal = none ∧ fs' = fs := by
  cases refusal with
  | none => simp [permit, eq_comm]
  | some fault => simp [permit]

/-- What the removal of a file makes of the tree. -/
theorem removeFile_cases {fs fs' : FileSystem} {path : Text} (h : fs.removeFile path = .ok fs') :
    ∃ bytes, fs.contents path = .ok bytes ∧ fs.refuses.remove = none ∧
      fs' = (fs.erase (Path.location path)).touchAround (Path.location path) := by
  unfold removeFile at h
  cases hfind : fs.find path with
  | error fault => simp [hfind] at h
  | ok n =>
    cases n with
    | directory stamp => simp [hfind] at h
    | file bytes stamp =>
      simp only [hfind, permit_eq_ok_iff] at h
      exact ⟨bytes, by simp only [contents, hfind], h⟩

theorem keeps_removeFile {l : Location} {fs fs' : FileSystem} {path : Text}
    (hdone : fs.removeFile path = .ok fs') (h : Path.location path ≠ l) : Keeps l fs fs' := by
  obtain ⟨bytes, hread, -, rfl⟩ := removeFile_cases hdone
  obtain ⟨-, -, -, hbytes⟩ := contents_eq_ok_iff.mp hread
  exact (keeps_erase (not_isDirectory_of_bytes? hbytes) h).trans (keeps_touchAround l _ _)

theorem refuses_removeFile {fs fs' : FileSystem} {path : Text}
    (hdone : fs.removeFile path = .ok fs') : fs'.refuses = fs.refuses := by
  obtain ⟨bytes, -, -, rfl⟩ := removeFile_cases hdone
  exact refuses_touchAround _ _

/-- Where a file has been removed, there is nothing. -/
theorem node?_removeFile {fs fs' : FileSystem} {path : Text}
    (hdone : fs.removeFile path = .ok fs') : fs'.node? (Path.location path) = none := by
  obtain ⟨bytes, -, -, rfl⟩ := removeFile_cases hdone
  exact node?_touchAround_erase fs _

/-- A file that has been removed is found no more. -/
theorem stamp?_removeFile {fs fs' : FileSystem} {path : Text}
    (hdone : fs.removeFile path = .ok fs') : fs'.stamp? path = none := by
  have hgone := node?_removeFile hdone
  unfold stamp? find
  cases hreach : fs'.reach path with
  | error fault => rfl
  | ok l =>
    obtain ⟨-, rfl, -⟩ := reach_eq_ok_iff.mp hreach
    simp only [hgone]
    rfl

theorem keeps_setStamp {l : Location} {fs fs' : FileSystem} {path : Text} {stamp : Stamp}
    (hdone : fs.setStamp path stamp = .ok fs') (h : Path.location path ≠ l) : Keeps l fs fs' := by
  unfold setStamp at hdone
  cases hreach : fs.reach path with
  | error fault => simp [hreach] at hdone
  | ok m =>
    obtain ⟨-, rfl, -⟩ := reach_eq_ok_iff.mp hreach
    simp only [hreach] at hdone
    split at hdone
    · cases hdone
    · rename_i b old hnode
      cases hdone
      have hbytes := bytes?_eq_some_iff.mpr ⟨old, hnode⟩
      exact keeps_put (fun hd => absurd hd (not_isDirectory_of_bytes? hbytes))
        fun heq => absurd heq h
    · cases hdone
      exact keeps_put (fun _ => rfl) fun heq => absurd heq h

/-- What a renaming makes of the tree: the file is gone from its first location and stands at
the second one, and of the rest only times are new. -/
theorem rename_cases {fs fs' : FileSystem} {source target : Text}
    (h : fs.rename source target = .ok fs')
    (hne : Path.location source ≠ Path.location target) :
    ∃ bytes stamp, fs.node? (Path.location source) = some (.file bytes stamp) ∧
      fs.reach source = .ok (Path.location source) ∧
      fs.reach target = .ok (Path.location target) ∧ Path.isSlashed target = false ∧
      ¬ fs.IsDirectory (Path.location target) ∧ fs.refuses.rename = none ∧
      fs' = (((fs.erase (Path.location source)).put (Path.location target)
        (.file bytes stamp)).touchAround (Path.location source)).touchAround
          (Path.location target) := by
  unfold rename at h
  cases hsource : fs.reach source with
  | error fault => simp [hsource] at h
  | ok s =>
    cases htarget : fs.reach target with
    | error fault => simp [hsource, htarget] at h
    | ok t =>
      obtain ⟨-, rfl, -⟩ := reach_eq_ok_iff.mp hsource
      obtain ⟨-, rfl, -⟩ := reach_eq_ok_iff.mp htarget
      simp only [hsource, htarget] at h
      split at h
      · rename_i bytes stamp hnode
        split at h
        · cases h
        split at h
        · cases h
        · rename_i hslash hdir
          obtain ⟨hrefusal, rfl⟩ := permit_eq_ok_iff.mp h
          refine ⟨bytes, stamp, hnode, rfl, rfl, by simpa using hslash, ?_, hrefusal, rfl⟩
          intro hisDir
          obtain ⟨stamp', hnode'⟩ := hisDir
          simp [hnode', Node.isDirectory] at hdir
      · cases h
      · cases h

theorem keeps_rename {l : Location} {fs fs' : FileSystem} {source target : Text}
    (hdone : fs.rename source target = .ok fs')
    (hne : Path.location source ≠ Path.location target) (hsource : Path.location source ≠ l)
    (htarget : Path.location target ≠ l) : Keeps l fs fs' := by
  obtain ⟨bytes, stamp, hnode, -, -, -, hdir, -, rfl⟩ := rename_cases hdone hne
  have hfile := not_isDirectory_of_bytes? (bytes?_eq_some_iff.mpr ⟨stamp, hnode⟩)
  have hkeep : Keeps l fs ((fs.erase (Path.location source)).put (Path.location target)
      (.file bytes stamp)) := by
    refine (keeps_erase hfile hsource).trans (keeps_put (fun hd => ?_) fun h => absurd h htarget)
    obtain ⟨stamp', hd⟩ := hd
    rw [node?_erase, if_neg (Ne.symm hne)] at hd
    exact absurd ⟨stamp', hd⟩ hdir
  exact (hkeep.trans (keeps_touchAround l _ _)).trans (keeps_touchAround l _ _)

/-- A file that is given a path to where it is stays as it is. -/
theorem rename_self_cases {fs fs' : FileSystem} {source target : Text}
    (h : fs.rename source target = .ok fs')
    (heq : Path.location source = Path.location target) :
    fs' = fs ∧ fs.refuses.rename = none ∧ ¬ fs.IsDirectory (Path.location target) ∧
      fs.reach target = .ok (Path.location target) ∧ Path.isSlashed target = false := by
  unfold rename at h
  cases hsource : fs.reach source with
  | error fault => simp [hsource] at h
  | ok s =>
    cases htarget : fs.reach target with
    | error fault => simp [hsource, htarget] at h
    | ok t =>
      obtain ⟨-, rfl, -⟩ := reach_eq_ok_iff.mp hsource
      obtain ⟨-, rfl, -⟩ := reach_eq_ok_iff.mp htarget
      simp only [hsource, htarget, heq, if_true] at h
      split at h
      · rename_i bytes stamp hnode
        split at h
        · cases h
        · rename_i hslash
          obtain ⟨hrefusal, rfl⟩ := permit_eq_ok_iff.mp h
          have hbytes := bytes?_eq_some_iff.mpr ⟨stamp, hnode⟩
          exact ⟨rfl, hrefusal, not_isDirectory_of_bytes? hbytes, rfl, by simpa using hslash⟩
      · cases h
      · cases h

/-- A file that has been given another path can be read through it. -/
theorem contents_rename {fs fs' : FileSystem} {source target : Text} {bytes : Bytes}
    (hdone : fs.rename source target = .ok fs')
    (hbytes : fs.bytes? (Path.location source) = some bytes) :
    fs'.contents target = .ok bytes := by
  by_cases hne : Path.location source = Path.location target
  · obtain ⟨rfl, -, -, hreach, hslash⟩ := rename_self_cases hdone hne
    obtain ⟨hpath, -, hway⟩ := reach_eq_ok_iff.mp hreach
    exact contents_eq_ok_iff.mpr ⟨hpath, hslash, hway, hne ▸ hbytes⟩
  obtain ⟨b, stamp, hnode, -, hreach, hslash, hdir, -, rfl⟩ := rename_cases hdone hne
  obtain ⟨stamp', hnode'⟩ := bytes?_eq_some_iff.mp hbytes
  have hb : bytes = b := by
    rw [hnode] at hnode'
    cases hnode'
    rfl
  subst hb
  obtain ⟨hpath, -, hway⟩ := reach_eq_ok_iff.mp hreach
  refine Keeps.contents ((keeps_touchAround _ _ _).trans (keeps_touchAround _ _ _)) ?_
  refine contents_eq_ok_iff.mpr ⟨hpath, hslash, fun m hm => ?_, ?_⟩
  · obtain ⟨stamp'', hdirm⟩ := hway m hm
    have htarget : m ≠ Path.location target := by
      intro heq
      subst heq
      exact hdir ⟨stamp'', hdirm⟩
    have hsource : m ≠ Path.location source := by
      intro heq
      subst heq
      rw [hnode] at hdirm
      cases hdirm
    exact ⟨stamp'', by rw [node?_put, if_neg htarget, node?_erase, if_neg hsource, hdirm]⟩
  · exact bytes?_eq_some_iff.mpr ⟨stamp, (node?_put _ _ _ _).trans (if_pos rfl)⟩

/-- A file can only be given another path by a system that does not refuse that, and does not
refuse it from then on. -/
theorem refuses_rename {fs fs' : FileSystem} {source target : Text}
    (hdone : fs.rename source target = .ok fs') :
    fs.refuses.rename = none ∧ fs'.refuses = fs.refuses := by
  by_cases hne : Path.location source = Path.location target
  · obtain ⟨rfl, hrefusal, -⟩ := rename_self_cases hdone hne
    exact ⟨hrefusal, rfl⟩
  · obtain ⟨bytes, stamp, -, -, -, -, -, hrefusal, rfl⟩ := rename_cases hdone hne
    refine ⟨hrefusal, ?_⟩
    rw [refuses_touchAround, refuses_touchAround]
    rfl

/-- To give a file another path makes no directory and takes none away. -/
theorem isDirectory_rename {fs fs' : FileSystem} {source target : Text} {l : Location}
    (hdone : fs.rename source target = .ok fs') : fs'.IsDirectory l ↔ fs.IsDirectory l := by
  by_cases hne : Path.location source = Path.location target
  · rw [(rename_self_cases hdone hne).1]
  · obtain ⟨bytes, stamp, hnode, -, -, -, hdir, -, rfl⟩ := rename_cases hdone hne
    have hfile := not_isDirectory_of_bytes? (bytes?_eq_some_iff.mpr ⟨stamp, hnode⟩)
    rw [isDirectory_touchAround, isDirectory_touchAround, IsDirectory, node?_put, node?_erase]
    by_cases htarget : l = Path.location target
    · simpa [htarget] using hdir
    · by_cases hsource : l = Path.location source
      · simpa [hsource, hne] using hfile
      · rw [if_neg htarget, if_neg hsource]
        rfl

/-- Where the file was before it was given its path, there is no directory. -/
theorem not_isDirectory_rename {fs fs' : FileSystem} {source target : Text}
    (hdone : fs.rename source target = .ok fs') : ¬ fs'.IsDirectory (Path.location source) := by
  by_cases hne : Path.location source = Path.location target
  · obtain ⟨rfl, -, hdir, -⟩ := rename_self_cases hdone hne
    rwa [hne]
  · obtain ⟨bytes, stamp, hnode, -⟩ := rename_cases hdone hne
    rw [isDirectory_rename hdone]
    exact not_isDirectory_of_bytes? (bytes?_eq_some_iff.mpr ⟨stamp, hnode⟩)

/-- Where nothing has bytes and no directory stands, there is nothing. -/
theorem node?_eq_none {fs : FileSystem} {l : Location} (hbytes : fs.bytes? l = none)
    (hdir : ¬ fs.IsDirectory l) : fs.node? l = none := by
  cases hnode : fs.node? l with
  | none => rfl
  | some n =>
    cases n with
    | file bytes stamp => simp [bytes?, hnode] at hbytes
    | directory stamp => exact absurd ⟨stamp, hnode⟩ hdir

/-- Where the file was, there is none, unless it was given the path that it had. -/
theorem bytes?_rename {fs fs' : FileSystem} {source target : Text}
    (hdone : fs.rename source target = .ok fs')
    (hne : Path.location source ≠ Path.location target) :
    fs'.bytes? (Path.location source) = none := by
  obtain ⟨bytes, stamp, -, -, -, -, -, -, rfl⟩ := rename_cases hdone hne
  rw [(keeps_touchAround _ _ _).bytes, (keeps_touchAround _ _ _).bytes, bytes?, node?_put,
    if_neg hne, node?_erase, if_pos rfl]

end FileSystem

end Phrasebook
