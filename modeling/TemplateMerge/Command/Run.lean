import TemplateMerge.Command.Basic
import TemplateMerge.Command.Batch
import TemplateMerge.Diff.Unified
import TemplateMerge.Merge.Report
import TemplateMerge.Settings

/-! Runs of commands.

    A run is a function of its surroundings and of the files there are.  The arguments are checked
    first, then the settings are loaded and the log is opened, then the files are read.

        arguments ──▶ settings ──▶ log opened ──▶ files read ──▶ files written ──▶ log written

    But for the log, a command that fails changes no file, with two exceptions: a report that was
    written before the merged text could not be, and the files of a batch, each of which is merged
    whatever becomes of the others. -/

namespace TemplateMerge

/-- What a run depends on besides its arguments and the files. -/
structure Surroundings where
  /-- What makes patterns of the texts among the arguments. -/
  engine : PatternEngine
  /-- What tells the run from others. -/
  stamp : Stamp
  /-- The lines that the run enters in its log: what there is to say about it, as far as the filter
      lets it through, with the times at which it is said. -/
  logged : Text

namespace Command

/-! ### Settings -/

/-- The name of the settings file. -/
def settingsName : String := "settings.json"

/-- The settings in a directory; without a file they are the standard ones. -/
def loadSettings (files : FileTree) (configDirectory : String) : Except CommandError Settings :=
  let path := FileTree.join configDirectory settingsName
  if (files.at? path).isNone then .ok .standard
  else
    match files.readText path with
    | .error _ => .error (.settings path)
    | .ok content =>
      match Settings.ofText? content with
      | none => .error (.settings path)
      | some settings => .ok settings

/-- The name of the log. -/
def logName : String := "structmerge.log"

/-- The path of the log. -/
def logPath (configDirectory : String) (s : Settings) : String :=
  FileTree.join (FileTree.join configDirectory s.logging.dir) logName

/-- The files with the log and its directory, or what there is of them and the reason.  The log of an
    earlier run is kept, for lines are only ever added to it; a new one is empty until then. -/
def openLog (files : FileTree) (configDirectory : String) (s : Settings) :
    FileTree × Option CommandError :=
  match files.makeDirectory (FileTree.join configDirectory s.logging.dir) with
  | (files, some fault) => (files, some (.logDirectory fault))
  | (files, none) =>
    let path := logPath configDirectory s
    let files := files.ensureFile path
    (files, if files.isFile path then none else some (.log path))

/-- The merger of outlines that settings describe, with its options changed. -/
def outlineMerger (s : Settings) (change : MergeOptions → MergeOptions) :
    Except CommandError (Merger Outline.Node) := do
  let options ← s.mergeOptions.mapError .config
  let registry ← s.markerRegistry.mapError .config
  return ⟨Outline.format registry, change options⟩

/-- The options with what the command line says. -/
def override (preference : Option Side) (addTemplateOnly : Bool) (o : MergeOptions) :
    MergeOptions :=
  { o with
    preference := (preference.map Preference.everywhere).getD o.preference
    addTemplateOnly := o.addTemplateOnly || addTemplateOnly }

/-! ### One destination -/

/-- The text of a file. -/
def source (files : FileTree) (path : String) : Except CommandError Text :=
  (files.readText path).mapError fun _ => .unreadable path

/-- The text of the destination, and the outcome of working on it with a template. -/
def outcome (files : FileTree) (template destination : String)
    (work : Text → Text → Except MergeError Outcome) : Except CommandError (Text × Outcome) := do
  let template ← source files template
  let destination ← source files destination
  let outcome ← (work template destination).mapError .merge
  return (destination, outcome)

/-- The files with the report, if one is asked for. -/
def writeReport (stamp : Stamp) (files : FileTree) (target : Target) (o : Outcome) :
    Except CommandError FileTree :=
  match target.report with
  | none => .ok files
  | some path =>
    match files.writeText? path (stamp.reportText o) with
    | none => .error (.reportUnwritable path)
    | some files => .ok files

/-- The files with the merged text, if it is to be written. -/
def writeOutput (files : FileTree) (target : Target) (o : Outcome) :
    Except CommandError FileTree :=
  match target.output with
  | none => .ok files
  | some path =>
    match files.writeText? path o.content with
    | none => .error (.unwritable path)
    | some files => .ok files

/-- What is printed of an outcome once everything is written: the difference if it is asked for,
    and the merged text if it goes nowhere else. -/
def shown (target : Target) (destination : Text) (o : Outcome) : Text :=
  if target.diff then Diff.unified target.destination destination o.content
  else if target.output.isNone then o.content
  else []

/-- Shows and writes an outcome: the difference first, then the report, then the merged text. -/
def emit (stamp : Stamp) (files : FileTree) (target : Target) (destination : Text) (o : Outcome) :
    Run :=
  let early := if target.diff then shown target destination o else []
  match writeReport stamp files target o with
  | .error e => .failed files early [] e
  | .ok files =>
    match writeOutput files target o with
    | .error e => .failed files early [] e
    | .ok files => ⟨0, shown target destination o, o.summaryLine.toList, files⟩

/-! ### Commands -/

/-- Runs a command under settings. -/
def runWith (u : Surroundings) (files : FileTree) (s : Settings) : Command → Run
  | .merge template target preference add =>
    .ofExcept files (fun (destination, o) => emit u.stamp files target destination o) do
      let m ← outlineMerger s (override preference add)
      outcome files template target.destination m.merge
  | .mergeAt template target place =>
    .ofExcept files (fun (destination, o) => emit u.stamp files target destination o) do
      let m ← outlineMerger s id
      let request ← (place.request u.engine).mapError .config
      outcome files template target.destination fun t d => m.mergePartial t d request
  | .batch templates destinations dryRun =>
    .ofExcept files (fun (results : List FileResult) => runBatch files dryRun results) do
      let m ← outlineMerger s id
      let names ← pairedNames files templates destinations
      return fileResults m files templates destinations names

/-- What is checked before the settings are loaded: the place of a merge. -/
def checkArguments (engine : PatternEngine) : Command → Except CommandError Unit
  | .mergeAt _ _ place =>
    ((place.request (N := Outline.Node) engine).map fun _ => ()).mapError .config
  | _ => .ok ()

end Command

namespace Invocation

open Command

/-- Runs a command.  The lines of the log may be written at any time from when they are entered to
    the end of the run; here they are all written at the end. -/
def run (u : Surroundings) (files : FileTree) (i : Invocation) : Run :=
  .ofExcept files
    (fun s =>
      match openLog files i.configDirectory s with
      | (files, some e) => .failed files [] [] e
      | (files, none) =>
        (i.command.runWith u files s).entering (logPath i.configDirectory s) u.logged) do
    checkArguments u.engine i.command
    loadSettings files i.configDirectory

/-- Runs what a command line asks for. -/
def runArguments (u : Surroundings) (files : FileTree) (arguments : List String) : Run :=
  match Invocation.parse? arguments with
  | none => .refused files
  | some i => i.run u files

end Invocation

end TemplateMerge
