import TemplateMerge.Text.Basic

/-! Edits: the steps from one list of lines to another.

    An edit keeps lines, deletes lines of the old list, or inserts lines of the new one.  It says
    where it stands in both lists, also where it takes up no lines of one of them.

        old   a b c          keep   0 0 1
        new   a x c    ──▶   delete 1 1 1 · insert 2 1 1
                             keep   2 2 1

    Edits are moved by whole lines.  To shift an edit keeps its length, to shrink or to grow it
    moves one of its two ends. -/

namespace TemplateMerge

namespace Diff

/-- What an edit does to its lines. -/
inductive EditKind where
  | keep
  | delete
  | insert
  deriving DecidableEq, Repr

/-- One step of an edit script. -/
structure Edit where
  /-- What is done. -/
  kind : EditKind
  /-- Where it stands in the old lines. -/
  oldStart : Nat
  /-- Where it stands in the new lines. -/
  newStart : Nat
  /-- How many lines it is about. -/
  length : Nat
  deriving DecidableEq, Repr

namespace Edit

/-- How many of the old lines the edit takes up. -/
def oldLength (e : Edit) : Nat := if e.kind = .insert then 0 else e.length

/-- How many of the new lines the edit takes up. -/
def newLength (e : Edit) : Nat := if e.kind = .delete then 0 else e.length

/-- Where the edit ends in the old lines. -/
def oldEnd (e : Edit) : Nat := e.oldStart + e.oldLength

/-- Where the edit ends in the new lines. -/
def newEnd (e : Edit) : Nat := e.newStart + e.newLength

/-- The edit, `n` lines further up. -/
def shiftUp (e : Edit) (n : Nat) : Edit :=
  { e with oldStart := e.oldStart - n, newStart := e.newStart - n }

/-- The edit, `n` lines further down. -/
def shiftDown (e : Edit) (n : Nat) : Edit :=
  { e with oldStart := e.oldStart + n, newStart := e.newStart + n }

/-- The edit without its first `n` lines. -/
def dropStart (e : Edit) (n : Nat) : Edit := { e.shiftDown n with length := e.length - n }

/-- The edit without its last `n` lines. -/
def dropEnd (e : Edit) (n : Nat) : Edit := { e with length := e.length - n }

/-- The edit with `n` lines more at its start. -/
def growStart (e : Edit) (n : Nat) : Edit := { e.shiftUp n with length := e.length + n }

/-- The edit with `n` lines more at its end. -/
def growEnd (e : Edit) (n : Nat) : Edit := { e with length := e.length + n }

end Edit

/-- A stretch of old lines beside a stretch of new lines. -/
structure Window where
  /-- Where the old lines begin. -/
  oldStart : Nat
  /-- Where the old lines end. -/
  oldEnd : Nat
  /-- Where the new lines begin. -/
  newStart : Nat
  /-- Where the new lines end. -/
  newEnd : Nat
  deriving DecidableEq, Repr

namespace Window

/-- How many lines there are in a window, old and new. -/
def size (w : Window) : Nat := (w.oldEnd - w.oldStart) + (w.newEnd - w.newStart)

/-- How many lines from the start of a window are the same on both sides. -/
def commonStart (old new : Array Text) (w : Window) : Nat :=
  if h : w.oldStart < w.oldEnd ∧ w.newStart < w.newEnd then
    if old[w.oldStart]? == new[w.newStart]? then
      commonStart old new { w with oldStart := w.oldStart + 1, newStart := w.newStart + 1 } + 1
    else 0
  else 0
termination_by w.oldEnd - w.oldStart
decreasing_by omega

/-- How many lines from the end of a window are the same on both sides. -/
def commonEnd (old new : Array Text) (w : Window) : Nat :=
  if h : w.oldStart < w.oldEnd ∧ w.newStart < w.newEnd then
    if old[w.oldEnd - 1]? == new[w.newEnd - 1]? then
      commonEnd old new { w with oldEnd := w.oldEnd - 1, newEnd := w.newEnd - 1 } + 1
    else 0
  else 0
termination_by w.oldEnd - w.oldStart
decreasing_by omega

end Window

end Diff

end TemplateMerge
