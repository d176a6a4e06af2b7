import TemplateMerge.Merge.Decision
import TemplateMerge.Text.Basic

/-! The outcome of a merge: a text and the log of decisions that led to it.

    The text is put together from blocks.  A block that does not end its last line is ended by a
    line feed before the next block follows, and nothing else is ever added. -/

namespace TemplateMerge

namespace Text

/-- Whether a text ends in the middle of a line. -/
def isOpen (t : Text) : Bool := !t.isEmpty && t.getLast? != some '\n'

/-- A text followed by a block, which begins a line of its own. -/
def push (t block : Text) : Text :=
  if block.isEmpty then t
  else if t.isOpen then t ++ '\n' :: block
  else t ++ block

/-- Blocks put together. -/
def assemble (blocks : List Text) : Text := blocks.foldl push []

end Text

/-- What a merge results in. -/
structure Outcome where
  /-- The merged text. -/
  content : Text
  /-- The decisions, in the order in which they were made. -/
  decisions : List Decision
  /-- Whether the text differs from the destination. -/
  changed : Bool
  deriving Repr

namespace Outcome

/-- Nothing has been written yet. -/
def empty : Outcome := ⟨[], [], false⟩

/-- The outcome with one more block. -/
def push (o : Outcome) (block : Text) : Outcome := { o with content := o.content.push block }

/-- The outcome with another text. -/
def setContent (o : Outcome) (content : Text) : Outcome := { o with content }

/-- The outcome with one more decision. -/
def record (o : Outcome) (d : Decision) : Outcome := { o with decisions := o.decisions ++ [d] }

/-- The outcome followed by the text and the decisions of another. -/
def absorb (o other : Outcome) : Outcome :=
  { o with content := o.content.push other.content, decisions := o.decisions ++ other.decisions }

end Outcome

/-- A part of an outcome: a block, and the decision to write it, if there was one to make. -/
structure Piece where
  /-- The block. -/
  block : Text
  /-- The decision. -/
  decision : Option Decision
  deriving Repr

namespace Outcome

/-- The outcome with one more piece. -/
def pushPiece (o : Outcome) (p : Piece) : Outcome :=
  { o with content := o.content.push p.block, decisions := o.decisions ++ p.decision.toList }

/-- The outcome of pieces. -/
def ofPieces (pieces : List Piece) : Outcome :=
  ⟨Text.assemble (pieces.map (·.block)), pieces.filterMap (·.decision), false⟩

end Outcome

end TemplateMerge
