import TemplateMerge.Diff.Script
import TemplateMerge.Diff.Settled

/-! Unified diffs: the lines that differ, among some that do not.

    A diff is a list of hunks.  Each shows changed lines and up to three unchanged ones around
    them; changes with at most six unchanged lines between them share a hunk.  Within a change the
    deleted lines come first.

        --- a/notes.md
        +++ b/notes.md
        @@ -1,2 +1,2 @@
         kept
        -old
        +new

    Lines end with a line feed, a carriage return, or both together.  A line that does not end is
    ended here, and the diff says so. -/

namespace TemplateMerge

namespace Diff

/-- The lines of a text, whatever they end with. -/
def linesOf : Text → List Text
  | [] => []
  | '\r' :: '\n' :: rest => ['\r', '\n'] :: linesOf rest
  | c :: rest =>
    if c = '\n' ∨ c = '\r' then [c] :: linesOf rest
    else
      match linesOf rest with
      | [] => [[c]]
      | line :: more => (c :: line) :: more

/-- A run of lines that are the same on both sides, or of lines that are not. -/
structure Block where
  /-- Whether the lines are the same. -/
  same : Bool
  /-- Where the old lines begin. -/
  oldStart : Nat
  /-- How many old lines there are. -/
  oldLength : Nat
  /-- Where the new lines begin. -/
  newStart : Nat
  /-- How many new lines there are. -/
  newLength : Nat
  deriving DecidableEq, Repr

namespace Block

/-- Where the old lines end. -/
def oldEnd (b : Block) : Nat := b.oldStart + b.oldLength

/-- Where the new lines end. -/
def newEnd (b : Block) : Nat := b.newStart + b.newLength

/-- The block without its first `n` lines on both sides. -/
def dropStart (b : Block) (n : Nat) : Block :=
  { b with oldStart := b.oldStart + n, oldLength := b.oldLength - n,
           newStart := b.newStart + n, newLength := b.newLength - n }

/-- The first `n` lines of the block on both sides. -/
def takeStart (b : Block) (n : Nat) : Block :=
  { b with oldLength := min b.oldLength n, newLength := min b.newLength n }

/-- How many lines edits are about. -/
def linesIn (edits : List Edit) : Nat := edits.foldl (fun n e => n + e.length) 0

/-- The block of edits that all keep lines, or that all change them.  Deletions say where it begins
    in the old lines, insertions where it begins in the new ones. -/
def ofRun (run : List Edit) : Option Block :=
  let deleted := run.filter (·.kind ≠ .insert)
  let inserted := run.filter (·.kind ≠ .delete)
  let oldFirst := (deleted ++ run).head?
  let newFirst := (inserted ++ run).head?
  oldFirst.bind fun o => newFirst.map fun n =>
    ⟨o.kind = .keep, o.oldStart, linesIn deleted,
      n.newStart, linesIn inserted⟩

end Block

/-- The blocks of a script. -/
def blocks (edits : List Edit) : List Block :=
  (edits.splitBy fun a b => (a.kind = .keep) == (b.kind = .keep)).filterMap Block.ofRun

/-- How many unchanged lines are shown on either side of a change. -/
def context : Nat := 3

/-- The blocks with no more unchanged lines at either end than are shown. -/
def trim (list : List Block) : List Block :=
  let first (b : Block) : Block := if b.same then b.dropStart (b.oldLength - context) else b
  let last (b : Block) : Block := if b.same then b.takeStart context else b
  let list := match list with
    | [] => []
    | b :: rest => first b :: rest
  match list.getLast? with
  | none => []
  | some b => list.dropLast ++ [last b]

/-- Blocks divided into hunks, at unchanged lines that are too many to be shown; `begun` is the
    hunk that has been begun. -/
def hunksFrom : (begun : List Block) → List Block → List (List Block)
  | begun, [] => if begun.all (·.same) then [] else [begun]
  | begun, b :: rest =>
    if b.same ∧ 2 * context < b.oldLength then
      (begun ++ [b.takeStart context]) ::
        hunksFrom [b.dropStart (b.oldLength - context)] rest
    else hunksFrom (begun ++ [b]) rest

/-- The hunks of a list of blocks. -/
def hunks (list : List Block) : List (List Block) := hunksFrom [] (trim list)

/-- The place of a stretch of lines in the head of a hunk: its first line, counted from one, and its
    length unless that is one.  A stretch without lines stands after the line it names. -/
def rangeText (start length : Nat) : String :=
  if length = 1 then toString (start + 1)
  else if length = 0 then toString start ++ ",0"
  else toString (start + 1) ++ "," ++ toString length

/-- The head of a hunk. -/
def headText (hunk : List Block) : String :=
  match hunk.head?, hunk.getLast? with
  | some first, some last =>
    "@@ -" ++ rangeText first.oldStart (last.oldEnd - first.oldStart) ++
      " +" ++ rangeText first.newStart (last.newEnd - first.newStart) ++ " @@\n"
  | _, _ => ""

/-- What is said after a line that does not end. -/
def unendedText : String := "\n\\ No newline at end of file\n"

/-- A line of a diff: a mark, the line, and a remark where it does not end. -/
def lineText (mark : Char) (line : Text) : Text :=
  mark :: line ++
    if line.getLast? = some '\n' ∨ line.getLast? = some '\r' then [] else unendedText.toList

/-- The lines of a block. -/
def blockText (old new : Array Text) (b : Block) : Text :=
  let oldLines := (old.toList.drop b.oldStart).take b.oldLength
  let newLines := (new.toList.drop b.newStart).take b.newLength
  if b.same then oldLines.flatMap (lineText ' ')
  else oldLines.flatMap (lineText '-') ++ newLines.flatMap (lineText '+')

/-- The difference between two texts, under the name of a file; nothing if there is none. -/
def unified (name : String) (before after : Text) : Text :=
  let old := (linesOf before).toArray
  let new := (linesOf after).toArray
  let list := hunks (blocks (settle old new (script old new)))
  if list.isEmpty then []
  else
    ("--- a/" ++ name ++ "\n+++ b/" ++ name ++ "\n").toList ++
      list.flatMap fun hunk => (headText hunk).toList ++ hunk.flatMap (blockText old new)

end Diff

end TemplateMerge
