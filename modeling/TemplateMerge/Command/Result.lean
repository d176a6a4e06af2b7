import TemplateMerge.Error
import TemplateMerge.FileTree

/-! What comes of a command: what it prints, and the files it leaves behind.

        code 0    done
        code 1    failed, and the reason is printed
        code 2    the command line is not well formed
        code 101  the log cannot be opened -/

namespace TemplateMerge

open FileTree (MakeFault)

/-- Why a command failed. -/
inductive CommandError where
  /-- The settings cannot be used as a file. -/
  | settings (path : String)
  /-- The directory of the log cannot be made. -/
  | logDirectory (fault : MakeFault)
  /-- The log cannot be opened. -/
  | log (path : String)
  /-- The settings or the arguments cannot be used for a merge. -/
  | config (error : ConfigError)
  /-- A file or a directory cannot be read. -/
  | unreadable (path : String)
  /-- The merge failed. -/
  | merge (error : MergeError)
  /-- The report cannot be written. -/
  | reportUnwritable (path : String)
  /-- The merged text cannot be written. -/
  | unwritable (path : String)
  /-- Files of a batch could not be merged. -/
  | filesFailed (count : Nat)
  deriving Repr

/-- The message of an error of a command. -/
def CommandError.message : CommandError → String
  | .settings path => "failed to load " ++ path
  | .logDirectory fault => fault.message
  | .log path => "failed to open " ++ path
  | .config error => error.message
  | .unreadable path => "failed to read " ++ path
  | .merge error => error.message
  | .reportUnwritable path => "failed to write report " ++ path
  | .unwritable path => "failed to write " ++ path
  | .filesFailed count => toString count ++ " file(s) failed to merge"

/-- The exit code after an error; without a log nothing goes on at all. -/
def CommandError.code : CommandError → Nat
  | .log _ => 101
  | _ => 1

/-- What comes of a command. -/
structure Run where
  /-- The exit code. -/
  code : Nat
  /-- What is printed on the standard output. -/
  output : Text
  /-- What is printed on the standard error output, but for the lines of the log, which also go
      there. -/
  remarks : Text
  /-- The files afterwards. -/
  files : FileTree

namespace Run

/-- A run that ended in an error, after printing something. -/
def failed (files : FileTree) (output remarks : Text) (e : CommandError) : Run :=
  ⟨e.code, output, remarks ++ ("Error: " ++ e.message ++ "\n").toList, files⟩

/-- The run with more text at the end of a file. -/
def entering (path : String) (more : Text) (r : Run) : Run :=
  { r with files := r.files.appendText path more }

/-- A run of a command line that is not well formed. -/
def refused (files : FileTree) : Run := ⟨2, [], [], files⟩

/-- The run that a computation leads to; where it fails it has changed nothing. -/
def ofExcept {α : Type} (files : FileTree) (f : α → Run) : Except CommandError α → Run
  | .ok a => f a
  | .error e => failed files [] [] e

end Run

end TemplateMerge
