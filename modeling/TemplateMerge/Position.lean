/-! Line spans of a document.

    Lines count from one and both ends belong to the span, so a span has at least one line. -/

namespace TemplateMerge

/-- The lines from `startLine` to `endLine`. -/
structure Position where
  /-- The first line. -/
  startLine : Nat
  /-- The last line. -/
  endLine : Nat
  /-- The last line is not before the first. -/
  ordered : startLine ≤ endLine := by omega
  deriving DecidableEq, Repr

namespace Position

/-- The lines from `first` to `last`; only the first one, when `last` is before it. -/
def ofLines (first last : Nat) : Position := ⟨first, max last first, Nat.le_max_right ..⟩

/-- A single line. -/
def single (line : Nat) : Position := ⟨line, line, Nat.le_refl line⟩

instance : Inhabited Position := ⟨single 1⟩

/-- Whether the two spans have a line in common. -/
def intersects (p q : Position) : Bool := p.startLine ≤ q.endLine && q.startLine ≤ p.endLine

/-- Whether every line of `q` is one of `p`. -/
def contains (p q : Position) : Bool := p.startLine ≤ q.startLine && q.endLine ≤ p.endLine

/-- The number of lines. -/
def lineCount (p : Position) : Nat := p.endLine - p.startLine + 1

/-- Spans in the order of their first lines, then of their last. -/
protected def compare (p q : Position) : Ordering :=
  (compare p.startLine q.startLine).then (compare p.endLine q.endLine)

/-- A span in words. -/
def describe (p : Position) : String :=
  if p.startLine = p.endLine then s!"line {p.startLine}"
  else s!"lines {p.startLine}-{p.endLine}"

@[simp] theorem startLine_ofLines (a b : Nat) : (ofLines a b).startLine = a := rfl

@[simp] theorem endLine_ofLines (a b : Nat) : (ofLines a b).endLine = max b a := rfl

@[simp] theorem startLine_single (n : Nat) : (single n).startLine = n := rfl

@[simp] theorem endLine_single (n : Nat) : (single n).endLine = n := rfl

theorem intersects_iff {p q : Position} :
    p.intersects q = true ↔ p.startLine ≤ q.endLine ∧ q.startLine ≤ p.endLine := by
  simp [intersects]

end Position

end TemplateMerge
