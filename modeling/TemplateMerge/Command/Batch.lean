import TemplateMerge.Command.Result
import TemplateMerge.Format.Outline
import TemplateMerge.Merge.Basic

/-! Batches: merges of all files of a directory.

    A file of the template directory is merged into the file of the same name in the destination
    directory; where there is none it is passed over, and directories inside are passed over too.

        templates      a.md   b.md   c.md
        destinations   a.md          c.md   z.md      ──▶   merged:  a.md · c.md

    Every file is merged whatever becomes of the others, and is written only if the merge has
    changed it.  A dry run prints what a run would do, and writes nothing. -/

namespace TemplateMerge

open FileTree (ReadFault)

namespace Command

/-- Why a file of a batch could not be merged. -/
inductive FileFault where
  | unreadable (fault : ReadFault)
  | unmergeable (path : String) (error : MergeError)
  deriving Repr

/-- The message of a fault, with what caused it. -/
def FileFault.message : FileFault → String
  | .unreadable fault => fault.message
  | .unmergeable path error =>
    "failed to merge " ++ path ++ ": " ++ error.message ++
      ((error.cause?.map (": " ++ ·)).getD "")

/-- A file of a batch, and what comes of it. -/
structure FileResult where
  /-- The path of the destination. -/
  path : String
  /-- The outcome of its merge. -/
  result : Except FileFault Outcome

/-- Merges one file of a batch. -/
def mergeFile (m : Merger Outline.Node) (files : FileTree) (template destination : String) :
    Except FileFault Outcome := do
  let source ← (files.readText template).mapError .unreadable
  let target ← (files.readText destination).mapError .unreadable
  (m.merge source target).mapError (.unmergeable destination)

/-- The names of the files that are in both directories, in increasing order. -/
def pairedNames (files : FileTree) (templates destinations : String) :
    Except CommandError (List String) :=
  match files.filesIn? templates with
  | none => .error (.unreadable templates)
  | some names => .ok (names.filter fun name => files.isFile (FileTree.join destinations name))

/-- What comes of every file of a batch.  All files are as they were before the batch. -/
def fileResults (m : Merger Outline.Node) (files : FileTree) (templates destinations : String)
    (names : List String) : List FileResult :=
  names.map fun name =>
    let path := FileTree.join destinations name
    ⟨path, mergeFile m files (FileTree.join templates name) path⟩

namespace FileResult

/-- What is printed of a file that was merged. -/
def line (dryRun : Bool) (r : FileResult) : String :=
  match r.result with
  | .error _ => ""
  | .ok o =>
    let word := if o.changed then (if dryRun then "would update" else "updated") else "unchanged"
    word ++ " " ++ r.path ++ "\n"

/-- What is remarked about a file that was not merged. -/
def remark (r : FileResult) : String :=
  match r.result with
  | .ok _ => ""
  | .error fault => "error: " ++ fault.message ++ "\n"

/-- Whether a file was not merged. -/
def failed (r : FileResult) : Bool :=
  match r.result with
  | .ok _ => false
  | .error _ => true

/-- The files with the merged text in its place, if it has changed. -/
def apply (files : FileTree) (r : FileResult) : FileTree :=
  match r.result with
  | .error _ => files
  | .ok o => if o.changed then (files.writeText? r.path o.content).getD files else files

end FileResult

/-- The run of a batch. -/
def runBatch (files : FileTree) (dryRun : Bool) (results : List FileResult) : Run :=
  let after := if dryRun then files else results.foldl FileResult.apply files
  let output := results.flatMap fun r => (r.line dryRun).toList
  let remarks := results.flatMap fun r => r.remark.toList
  let failures := results.countP FileResult.failed
  if failures = 0 then ⟨0, output, remarks, after⟩
  else .failed after output remarks (.filesFailed failures)

end Command

end TemplateMerge
