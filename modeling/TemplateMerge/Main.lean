import TemplateMerge.Command.Run
import TemplateMerge.Pattern.Engine
import Std.Time

/-! The command line.

    What the command can see of the disk is read into a file tree, the command is run on the tree,
    and what has changed is written back. -/

open TemplateMerge

namespace TemplateMerge.CommandLine

/-- What is printed when the command line is not well formed. -/
def usage : String :=
  "usage: templatemerge [--config-dir DIR] merge TEMPLATE DESTINATION [-o FILE] [--report FILE]\n" ++
  "                     [--diff] [--preference SIDE] [--add-template-only]\n" ++
  "       templatemerge [--config-dir DIR] partial TEMPLATE DESTINATION --anchor-type TYPE\n" ++
  "                     [--anchor-text PATTERN] --position PLACE [--boundary-type TYPE]\n" ++
  "                     [--boundary-text PATTERN] [--same-or-shallower] [-o FILE] [--diff]\n" ++
  "       templatemerge [--config-dir DIR] batch TEMPLATES DESTINATIONS [--dry-run]"

/-- The path of a location on the disk. -/
def diskPath (location : FileTree.Location) : String := "/" ++ "/".intercalate location

/-- The tree with what stands on the disk at a location. -/
def observe (files : FileTree) (location : FileTree.Location) : IO FileTree := do
  let path := (← IO.currentDir) / diskPath location
  if ← path.isDir then return files.put location .directory
  if !(← path.pathExists) then return files
  match String.fromUTF8? (← IO.FS.readBinFile path) with
  | some content => return files.put location (.text content.toList)
  | none => return files.put location .binary

/-- The tree with what stands on the disk along a path. -/
def observePath (files : FileTree) (path : String) : IO FileTree :=
  (FileTree.passed (files.origin path) (FileTree.components path)).foldlM observe files

/-- The tree with what stands on the disk in the directory that a path leads to, if it leads to
    one. -/
def observeDirectory (files : FileTree) (path : String) : IO FileTree := do
  match files.resolve? path, files.at? path with
  | some location, some .directory =>
    let entries ← ((← IO.currentDir) / diskPath location).readDir
    entries.foldlM (fun files entry => observe files (location ++ [entry.fileName])) files
  | _, _ => return files

/-- What a command can see of the disk. -/
def filesFor (i : Invocation) : IO FileTree := do
  let here := (FileTree.components (← IO.currentDir).toString).filter (· ≠ "")
  let files ← (FileTree.passed [] here).foldlM observe ⟨here, []⟩
  let files ← observePath files (FileTree.join i.configDirectory Command.settingsName)
  let files ← match Command.loadSettings files i.configDirectory with
    | .ok s => observePath files (Command.logPath i.configDirectory s)
    | .error _ => pure files
  let files ← i.command.paths.foldlM observePath files
  match i.command with
  | .batch templates destinations _ =>
    observeDirectory (← observeDirectory files templates) destinations
  | _ => return files

/-- Two hexadecimal digits for each byte. -/
def hexDigits (bytes : List UInt8) : String :=
  String.ofList <| bytes.flatMap fun b => [Nat.digitChar (b.toNat / 16), Nat.digitChar (b.toNat % 16)]

/-- A name and a time for a run; the name is a random identifier of version four. -/
def newStamp : IO Stamp := do
  let random := (← IO.getRandomBytes 16).toList
  let bytes := random.mapIdx fun i b =>
    if i = 6 then b % 16 + 0x40 else if i = 8 then b % 64 + 0x80 else b
  let part (first count : Nat) : String := hexDigits ((bytes.drop first).take count)
  let time := Std.Time.PlainDateTime.ofWallTime ((← Std.Time.Timestamp.now).toWallTime .zero)
  return ⟨"-".intercalate [part 0 4, part 4 2, part 6 2, part 8 2, part 10 6],
    time.toLeanDateTimeString ++ "Z"⟩

/-- Writes what has changed back to the disk. -/
def writeBack (before after : FileTree) : IO Unit := do
  for location in after.directoriesSince before do
    IO.FS.createDirAll (diskPath location)
  for (location, content) in after.changesSince before do
    IO.FS.writeFile (diskPath location) (String.ofList content)

end TemplateMerge.CommandLine

open TemplateMerge.CommandLine in
/-- Runs what the command line asks for. -/
def main (arguments : List String) : IO UInt32 := do
  match Invocation.parse? arguments with
  | none =>
    IO.eprintln usage
    return 2
  | some i =>
    let files ← filesFor i
    let stamp ← newStamp
    let line := stamp.time ++ "  INFO run=" ++ stamp.run ++ "\n"
    let run := i.run ⟨Pattern.engine, stamp, line.toList⟩ files
    writeBack files run.files
    IO.print (String.ofList run.output)
    IO.eprint (String.ofList run.remarks)
    return run.code.toUInt32
