import Phrasebook.FileSystem.Path
import Phrasebook.Text.Utf8

/-!
A tree of directories and files with modification times. Each operation either does all of its
work or fails and leaves the tree as it was; only where several directories have to be created,
those in front of the obstacle stay, and a file that takes no more bytes keeps those it took. The
failures come in the order in which a path is walked: first the directories on the way, then the
last name. Who may open a file is told by the tree alone, but once it is open the system can refuse
what is asked for next.
-/

namespace Phrasebook

/-- When a node was last changed: at a time that was given to it, or at a moment of its own
that differs from all others. -/
inductive Stamp where
  | given (time : Int)
  | moment (n : Nat)
deriving DecidableEq, Repr

inductive Node where
  | file (bytes : Bytes) (stamp : Stamp)
  | directory (stamp : Stamp)
deriving DecidableEq, Repr

def Node.stamp : Node → Stamp
  | .file _ stamp => stamp
  | .directory stamp => stamp

def Node.isDirectory : Node → Bool
  | .file _ _ => false
  | .directory _ => true

inductive FileFault where
  | notFound
  | exists
  | notDirectory
  | isDirectory
  | busy
  /-- Any other one, known by what the system says of it. -/
  | other (message : Text)
deriving DecidableEq, Repr

def FileFault.message : FileFault → Text
  | .notFound => "No such file or directory (os error 2)".toList
  | .exists => "File exists (os error 17)".toList
  | .notDirectory => "Not a directory (os error 20)".toList
  | .isDirectory => "Is a directory (os error 21)".toList
  | .busy => "Device or resource busy (os error 16)".toList
  | .other message => message

/-- What the system refuses at present, whatever is in the tree, and how it says so. -/
structure Refusals where
  /-- To let a file take more than so many of the bytes that are written to it. -/
  write : Option (Nat × FileFault) := none
  /-- To bring a written file to the medium. -/
  sync : Option FileFault := none
  rename : Option FileFault := none
  remove : Option FileFault := none
  /-- To run one more thread. -/
  spawn : Option FileFault := none
deriving DecidableEq, Repr

structure FileSystem where
  nodes : List (Location × Node) := [([], .directory (.moment 0))]
  clock : Nat := 1
  refuses : Refusals := {}
deriving DecidableEq, Repr

namespace FileSystem

def node? (fs : FileSystem) (l : Location) : Option Node := fs.nodes.lookup l

def bytes? (fs : FileSystem) (l : Location) : Option Bytes :=
  match fs.node? l with
  | some (.file bytes _) => some bytes
  | _ => none

def erase (fs : FileSystem) (l : Location) : FileSystem :=
  { fs with nodes := fs.nodes.filter fun n => n.1 != l }

def put (fs : FileSystem) (l : Location) (n : Node) : FileSystem :=
  { fs with nodes := (l, n) :: (fs.erase l).nodes }

theorem node?_erase (fs : FileSystem) (l l' : Location) :
    (fs.erase l).node? l' = if l' = l then none else fs.node? l' := by
  obtain ⟨nodes, clock, refuses⟩ := fs
  simp only [erase, node?]
  induction nodes with
  | nil => simp
  | cons n nodes ih =>
    obtain ⟨m, n⟩ := n
    by_cases hm : m = l
    · subst m
      by_cases hl : l' = l
      · simpa [hl] using ih
      · have hbeq : (l' == l) = false := by simpa using hl
        simpa [hl, List.lookup_cons, hbeq] using ih
    · by_cases hl : l' = m
      · subst l'
        simp [hm]
      · have hbeq : (l' == m) = false := by simpa using hl
        simpa [hm, List.lookup_cons, hbeq] using ih

theorem node?_put (fs : FileSystem) (l l' : Location) (n : Node) :
    (fs.put l n).node? l' = if l' = l then some n else fs.node? l' := by
  by_cases hl : l' = l
  · simp [put, node?, hl]
  · have hbeq : (l' == l) = false := by simpa using hl
    have herase := node?_erase fs l l'
    simp only [node?, if_neg hl] at herase
    simp [put, node?, List.lookup_cons, hbeq, herase, hl]

def now (fs : FileSystem) : Stamp := .moment fs.clock

def tick (fs : FileSystem) : FileSystem := { fs with clock := fs.clock + 1 }

/-- Marks the directory around a location as changed. -/
def touchAround (fs : FileSystem) (l : Location) : FileSystem :=
  match fs.node? l.dropLast with
  | some (.directory _) => (fs.put l.dropLast (.directory fs.now)).tick
  | _ => fs

/-- Whether all of these are directories; the first that is not decides the failure. -/
def walk (fs : FileSystem) : List Location → Except FileFault Unit
  | [] => .ok ()
  | l :: rest =>
    match fs.node? l with
    | none => .error .notFound
    | some (.file _ _) => .error .notDirectory
    | some (.directory _) => fs.walk rest

/-- The location of a path, if all directories on the way are there. -/
def reach (fs : FileSystem) (path : Text) : Except FileFault Location :=
  if path = [] then .error .notFound
  else
    match fs.walk (Path.stations path).dropLast with
    | .ok () => .ok (Path.location path)
    | .error fault => .error fault

def find (fs : FileSystem) (path : Text) : Except FileFault Node :=
  match fs.reach path with
  | .error fault => .error fault
  | .ok l =>
    match fs.node? l with
    | none => .error .notFound
    | some n =>
      if Path.isSlashed path && !n.isDirectory then .error .notDirectory else .ok n

def has (fs : FileSystem) (path : Text) : Bool := (fs.find path).isOk

def stamp? (fs : FileSystem) (path : Text) : Option Stamp := (fs.find path).toOption.map Node.stamp

def contents (fs : FileSystem) (path : Text) : Except FileFault Bytes :=
  match fs.find path with
  | .error fault => .error fault
  | .ok (.file bytes _) => .ok bytes
  | .ok (.directory _) => .error .isDirectory

/-- Writes a file with what `change` makes of its old bytes, if it has any. -/
def updateFile (fs : FileSystem) (path : Text) (change : Bytes → Bytes) :
    Except FileFault FileSystem :=
  match fs.reach path with
  | .error fault => .error fault
  | .ok l =>
    if Path.isSlashed path then .error .isDirectory
    else
      match fs.node? l with
      | some (.directory _) => .error .isDirectory
      | some (.file bytes _) => .ok (fs.put l (.file (change bytes) fs.now)).tick
      | none => .ok ((fs.touchAround l).put l (.file (change []) (fs.touchAround l).now)).tick

def writeFile (fs : FileSystem) (path : Text) (bytes : Bytes) : Except FileFault FileSystem :=
  fs.updateFile path fun _ => bytes

def appendFile (fs : FileSystem) (path : Text) (bytes : Bytes) : Except FileFault FileSystem :=
  fs.updateFile path fun old => old ++ bytes

/-- Creates the directories in a list that are missing, until a file is in the way; what has been
created by then stays. Only the last directory is asked for, but behind one that was missing each
of them is. -/
def makeDirectories (fs : FileSystem) (missed : Bool) :
    List Location → Except FileFault Unit × FileSystem
  | [] => (.ok (), fs)
  | l :: rest =>
    match fs.node? l with
    | some (.directory _) => fs.makeDirectories missed rest
    | some (.file _ _) => (.error (if missed ∨ rest = [] then .exists else .notDirectory), fs)
    | none =>
      makeDirectories ((fs.touchAround l).put l (.directory (fs.touchAround l).now)).tick true rest

def ensureDirectory (fs : FileSystem) (path : Text) : Except FileFault FileSystem :=
  match fs.makeDirectories false (Path.stations path) with
  | (.ok (), fs') => .ok fs'
  | (.error fault, _) => .error fault

def ensureParent (fs : FileSystem) (path : Text) : Except FileFault FileSystem :=
  fs.ensureDirectory (Path.splitName path).1

def setStamp (fs : FileSystem) (path : Text) (stamp : Stamp) : Except FileFault FileSystem :=
  match fs.reach path with
  | .error fault => .error fault
  | .ok l =>
    match fs.node? l with
    | none => .error .notFound
    | some (.file bytes _) => .ok (fs.put l (.file bytes stamp))
    | some (.directory _) => .ok (fs.put l (.directory stamp))

def permit (refusal : Option FileFault) (fs : FileSystem) : Except FileFault FileSystem :=
  match refusal with
  | some fault => .error fault
  | none => .ok fs

/-- Gives a file another path and replaces the file that is there. No file can be given the place
of a directory, and a path that ends in dots is refused for the dots. -/
def rename (fs : FileSystem) (source target : Text) : Except FileFault FileSystem :=
  match fs.reach source, fs.reach target with
  | .error fault, _ => .error fault
  | .ok _, .error fault => .error fault
  | .ok s, .ok t =>
    match fs.node? s with
    | some (.file bytes stamp) =>
      if Path.isSlashed target then
        .error (if Path.isDotted target then .busy else .notDirectory)
      else if s = t then permit fs.refuses.rename fs
      else if (fs.node? t).any Node.isDirectory then
        .error (if Path.isDotted target then .busy else .isDirectory)
      else
        permit fs.refuses.rename
          (((fs.erase s).put t (.file bytes stamp)).touchAround s |>.touchAround t)
    | some (.directory _) => .error .isDirectory
    | none => .error .notFound

def removeFile (fs : FileSystem) (path : Text) : Except FileFault FileSystem :=
  match fs.find path with
  | .error fault => .error fault
  | .ok (.directory _) => .error .isDirectory
  | .ok (.file _ _) =>
    permit fs.refuses.remove ((fs.erase (Path.location path)).touchAround (Path.location path))

def removeDirectory (fs : FileSystem) (path : Text) : Except FileFault FileSystem :=
  match fs.find path with
  | .error fault => .error fault
  | .ok (.file _ _) => .error .notDirectory
  | .ok (.directory _) =>
    let l := Path.location path
    .ok (({ fs with nodes := fs.nodes.filter fun n => !l.isPrefixOf n.1 }).touchAround l)

/-- As many of some bytes as an opened file takes. -/
def taken (fs : FileSystem) (bytes : Bytes) : Bytes :=
  match fs.refuses.write with
  | none => bytes
  | some (n, _) => bytes.take n

/-- Why it does not take them all. No bytes can always be written. -/
def shortage? (fs : FileSystem) (bytes : Bytes) : Option FileFault :=
  if bytes = [] then none else fs.refuses.write.map Prod.snd

end FileSystem

/-- A file was not opened, or it was and has not taken all bytes. -/
inductive WriteFault where
  | unopened (fault : FileFault)
  | unfinished (fault : FileFault)
deriving DecidableEq, Repr

/-- Work on a file system. Failures are values, so that what was done before one stays done. -/
abbrev Disk (α : Type) := StateM FileSystem α

/-- Does an operation; a failure changes nothing. -/
def Disk.attempt (change : FileSystem → Except FileFault FileSystem) :
    Disk (Except FileFault Unit) := fun fs =>
  match change fs with
  | .ok fs' => (.ok (), fs')
  | .error fault => (.error fault, fs)

/-- Opens a file and writes bytes to it, where `put` says which file and what becomes of it. -/
def Disk.write (put : FileSystem → Bytes → Except FileFault FileSystem) (bytes : Bytes) :
    Disk (Except WriteFault Unit) := fun fs =>
  match put fs (fs.taken bytes) with
  | .error fault => (.error (.unopened fault), fs)
  | .ok fs' =>
    match fs.shortage? bytes with
    | some fault => (.error (.unfinished fault), fs')
    | none => (.ok (), fs')

/-- Makes sure that the directory around a path is there. A failure may leave directories behind
that were missing. -/
def Disk.ensureParent (path : Text) : Disk (Except FileFault Unit) := fun fs =>
  fs.makeDirectories false (Path.stations (Path.splitName path).1)

end Phrasebook
