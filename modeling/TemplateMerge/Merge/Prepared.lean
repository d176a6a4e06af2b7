import TemplateMerge.Format.Basic

/-! Documents ready for a merge: their statements and signatures, and questions about their lines. -/

namespace TemplateMerge

/-- A document with its statements and their signatures. -/
structure Prepared (N : Type) where
  /-- The document. -/
  document : Document N
  /-- Its statements. -/
  list : List (Statement N)
  /-- Their signatures. -/
  signatures : Signature.Index

namespace Prepared

variable {N : Type} [NodeView N]

/-- A document of a format, ready for a merge. -/
def make (format : Format N) (document : Document N) : Prepared N :=
  ⟨document, statements document.nodes, .build format.signature document.nodes⟩

/-- Whether a statement has a line in a frozen region. -/
def isFrozen (p : Prepared N) (s : Statement N) : Bool :=
  (p.document.freezeSpanAt s.position).isSome

/-- The statements that are not frozen. -/
def unfrozen (p : Prepared N) : List (Statement N) := p.list.filter (!p.isFrozen ·)

/-- The last line before the statement after the one numbered `index`; the last line of all, if
    there is no such statement. -/
def lineBeforeNext (p : Prepared N) (index : Nat) : Nat :=
  match p.list[index + 1]? with
  | some next => next.position.startLine - 1
  | none => p.document.lineCount

/-- The last line of a statement and all that hangs under it. -/
def subtreeEnd (p : Prepared N) (anchor : Statement N) : Nat :=
  let own := anchor.position.endLine
  if !anchor.navigable then own
  else
    let depth := anchor.depth
    let below := match (p.list.drop (anchor.index + 1)).find? (·.noDeeperThan depth) with
      | some next => next.position.startLine - 1
      | none => p.document.lineCount
    max below own

end Prepared

/-! ### Frozen regions stay whole -/

namespace Document

variable {N : Type}

/-- The place after line `line`, or, where that is inside a frozen region, the place after or before
    the region. -/
def outsideFreeze (d : Document N) (line : Nat) (forward : Bool) : Nat :=
  match d.freezeSpanAt (Position.single (line + 1)) with
  | some span =>
    if span.startLine ≤ line then
      if forward then span.endLine else span.startLine - 1
    else line
  | none => line

/-- The frozen region that has line `line` and reaches past it. -/
def spanPast? (d : Document N) (line : Nat) : Option FreezeSpan :=
  (d.freezeSpanAt (Position.single line)).filter (line < ·.endLine)

/-- The last line of any frozen region. -/
def furthestEnd (spans : List FreezeSpan) : Nat := spans.foldr (fun s n => max s.endLine n) 0

theorem endLine_le_furthestEnd {spans : List FreezeSpan} {s : FreezeSpan} (h : s ∈ spans) :
    s.endLine ≤ furthestEnd spans := by
  induction spans with
  | nil => simp at h
  | cons head rest ih =>
    rcases List.mem_cons.1 h with rfl | h
    · exact Nat.le_max_left ..
    · exact Nat.le_trans (ih h) (Nat.le_max_right ..)

theorem spanPast?_bounds {d : Document N} {line : Nat} {s : FreezeSpan}
    (h : d.spanPast? line = some s) : line < s.endLine ∧ s.endLine ≤ furthestEnd d.spans := by
  obtain ⟨hfound, hpast⟩ := Option.filter_eq_some_iff.1 h
  exact ⟨by simpa using hpast, endLine_le_furthestEnd (List.mem_of_find?_eq_some hfound)⟩

end Document

namespace Prepared

variable {N : Type} [NodeView N]

/-- The number of the last statement after the one numbered `index` whose run up to it begins no
    later than line `line`; `index` itself, if the next statement begins later. -/
def lastStartingBy (p : Prepared N) (index line : Nat) : Nat :=
  match ((p.list.drop (index + 1)).takeWhile (·.position.startLine ≤ line)).getLast? with
  | some s => s.index
  | none => index

/-- Widens a range that ends with the statement numbered `index` on line `line` for as long as it
    ends inside a frozen region. -/
def widen (p : Prepared N) (index line : Nat) : Nat × Nat :=
  match _h : p.document.spanPast? line with
  | none => (index, line)
  | some span =>
    let next := p.lastStartingBy index span.endLine
    p.widen next (max (p.lineBeforeNext next) span.endLine)
termination_by Document.furthestEnd p.document.spans - line
decreasing_by
  have := Document.spanPast?_bounds _h
  omega

/-- The last statement and the last line of a replaced range whose last statement should be the one
    numbered `index`. -/
def replacedTail (p : Prepared N) (index : Nat) : Nat × Nat := p.widen index (p.lineBeforeNext index)

end Prepared

end TemplateMerge
