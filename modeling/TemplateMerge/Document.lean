import TemplateMerge.Text.Lines
import TemplateMerge.Freeze.Span
import TemplateMerge.Node.Basic

/-! Documents: a text, the nodes a format finds in it, and its frozen regions.

    Whatever a merge writes, it copies from a document by lines.  Lines count from one; a range
    that reaches past the end of the document is cut off there. -/

namespace TemplateMerge

/-- A parsed document with nodes of type `N`. -/
structure Document (N : Type) where
  /-- The text of the document. -/
  source : Text
  /-- Its nodes in document order. -/
  nodes : List N
  /-- Its frozen regions. -/
  spans : List FreezeSpan
  /-- The lines of the text, computed once. -/
  lines : List Text
  /-- They are the lines of the text. -/
  lines_eq : lines = Text.splitLines source
  deriving Repr

namespace Document

variable {N : Type}

/-- The document of a text. -/
def make (source : Text) (nodes : List N) (spans : List FreezeSpan) : Document N :=
  ⟨source, nodes, spans, Text.splitLines source, rfl⟩

/-- The number of lines. -/
def lineCount (d : Document N) : Nat := d.lines.length

/-- The lines from `first` to `last`, line endings included. -/
def sourceRange (d : Document N) (first last : Nat) : Text :=
  ((d.lines.take last).drop (first - 1)).flatten

/-- The lines of a position, line endings included. -/
def slice (d : Document N) (p : Position) : Text := d.sourceRange p.startLine p.endLine

/-- The first frozen region that has a line of the position. -/
def freezeSpanAt (d : Document N) (p : Position) : Option FreezeSpan :=
  d.spans.find? (·.intersects p)

/-- All lines together are the text. -/
theorem sourceRange_all (d : Document N) : d.sourceRange 1 d.lineCount = d.source := by
  simp [sourceRange, lineCount, d.lines_eq]

end Document

end TemplateMerge
