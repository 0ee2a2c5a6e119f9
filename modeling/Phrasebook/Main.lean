import Phrasebook.CommandLine

/-!
The program that runs on real files. Before each piece of work the tree of files is brought up
to date with the disk, and what the work changes in the tree is written back.
-/

open Phrasebook

/-- Takes a path as it is on disk into the tree, unless its time is the one known already. -/
def fetch (fs : FileSystem) (path : Text) : IO FileSystem := do
  let place := (← IO.currentDir) / String.ofList path
  if ← place.isDir then pure ((fs.ensureDirectory path).toOption.getD fs)
  else if ← place.pathExists then
    let time := (← place.metadata).modified
    let stamp := Stamp.given (time.sec * 1000000000 + time.nsec.toNat)
    if fs.stamp? path = some stamp then pure fs
    else
      let bytes ← IO.FS.readBinFile place
      let fetched := do (← (← fs.ensureParent path).writeFile path bytes.toList).setStamp path stamp
      pure (fetched.toOption.getD fs)
  else pure ((fs.removeFile path).toOption.getD fs)

/-- Brings a path on disk into the state that the work has given it. -/
def store (before after : FileSystem) (path : Text) : IO Unit := do
  unless before.stamp? path = after.stamp? path do
    let place := (← IO.currentDir) / String.ofList path
    match after.contents path with
    | .ok bytes =>
      for directory in place.parent do
        IO.FS.createDirAll directory
      IO.FS.writeBinFile place ⟨bytes.toArray⟩
    | .error _ => if ← place.pathExists then IO.FS.removeFile place

/-- The bytes of the next line, its end included; nothing at the end of the input. -/
def nextLine (input : IO.FS.Stream) : IO Bytes := do
  let mut line := #[]
  repeat
    let some byte := (← input.read 1)[0]? | break
    line := line.push byte
    if byte = 10 then break
  pure line.toList

/-- Translates line by line. A line is answered before the next one is read. -/
def translateLines (start : Translator) (tree : FileSystem) : IO UInt32 := do
  let input ← IO.getStdin
  let output ← IO.getStdout
  let mut translator := start
  let mut fs := tree
  repeat
    let line ← nextLine input
    if line.isEmpty then break
    fs ← translator.config.files.foldlM fetch fs
    let work := do (← translator.tick).translateStream (Feed.ofBytes line)
    let ((next, report), after) := work.run fs
    output.putStr (String.ofList report.output)
    output.flush
    try translator.config.files.forM (store fs after) catch fault => IO.eprintln fault
    if report.broken then return 1
    translator := next
    fs := after
  pure 0

def main (arguments : List String) : IO UInt32 := do
  let path := (arguments.head?.map String.toList).getD Translator.defaultSettingsPath
  let tree ← fetch {} path
  match (JsonSettings.load path).run tree with
  | (.error fault, _) =>
    IO.eprintln (String.ofList fault.message)
    pure 1
  | (.ok settings, _) =>
    match Config.ofJson settings with
    | .error fault =>
      IO.eprintln (String.ofList fault.message)
      pure 1
    | .ok config =>
      let fs ← config.files.foldlM fetch tree
      let (started, after) := (Translator.start config).run fs
      config.files.forM (store fs after)
      match started with
      | .error fault =>
        IO.eprintln (String.ofList fault.message)
        pure 1
      | .ok translator => translateLines translator after
