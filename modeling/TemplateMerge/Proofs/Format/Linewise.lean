import TemplateMerge.Format.Basic
import TemplateMerge.Proofs.Document.Ranges
import TemplateMerge.Proofs.Freeze.Scan
import TemplateMerge.Proofs.Merge.Lines

/-! Formats that read line by line.

    Outside frozen regions such a format makes a statement of a line, or none, and what the
    statement is depends on its line alone, not on how the line ends.  So what a text is read as can
    be told from its lines, and so can what becomes of it when lines are exchanged or added.

        line            a = 1      ; note     [s]
        statement       entry        ·        section
        position          1                     3 -/

namespace TemplateMerge

/-- What a merge looks at in a statement that is a line. -/
structure Face where
  /-- What makes it the same as another. -/
  signature : Option Signature
  /-- What is compared. -/
  normalized : Text
  /-- The merge type it carries. -/
  mergeOverride : Option String

variable {N : Type} [NodeView N]

/-- The face of a node. -/
def Format.faceOf (format : Format N) (n : N) : Face :=
  ⟨format.signature n, format.normalized n, NodeView.mergeOverride n⟩

/-- Positions one after the other on lines `1` to `count`. -/
def PositionsWithin (count : Nat) (positions : List Position) : Prop :=
  positions.Pairwise (fun p q => p.endLine < q.startLine) ∧
    ∀ p ∈ positions, 1 ≤ p.startLine ∧ p.endLine ≤ count

theorem PositionsWithin.of_lt {count : Nat} {positions : List Position}
    (h : positions.Pairwise (fun p q => p.endLine < q.startLine) ∧
      ∀ p ∈ positions, 1 ≤ p.startLine ∧ p.endLine < 1 + count) :
    PositionsWithin count positions := by
  refine ⟨h.1, fun p hp => ?_⟩
  have := h.2 p hp
  omega

theorem PositionsWithin.inOrder {d : Document N}
    (h : PositionsWithin d.lineCount (d.nodes.map NodeView.position)) :
    InOrder 1 d.lineCount (statements d.nodes) := by
  obtain ⟨hpairwise, hwithin⟩ := h
  rw [← map_position_statements] at hpairwise hwithin
  exact ⟨List.pairwise_map.1 hpairwise, fun s hs => hwithin _ (List.mem_map_of_mem hs)⟩

/-- A format that reads line by line, with the markers of a registry. -/
structure Linewise (format : Format N) (r : MarkerRegistry) where
  /-- Whether a line can be read. -/
  reads : Text → Bool
  /-- Whether a line makes a statement. -/
  makes : Text → Bool
  /-- The face of the statement that a line makes. -/
  face : Text → Face
  /-- Where statements stand, given the frozen regions and which lines make statements. -/
  layout : List FreezeSpan → List Bool → List Position
  /-- How a line ends does not count. -/
  reads_close : ∀ l, reads l.close = reads l
  makes_close : ∀ l, makes l.close = makes l
  face_close : ∀ l, face l.close = face l
  /-- What has been read could be read. -/
  of_parse : ∀ {s : Text} {d : Document N}, format.parse s = .ok d →
    d.lines = Text.splitLines s ∧ r.scan d.lines = .ok d.spans ∧ (∀ l ∈ d.lines, reads l = true) ∧
      d.nodes.map NodeView.position = layout d.spans (d.lines.map makes)
  /-- Where markers pair up and every line can be read, all can. -/
  parse_of : ∀ {s : Text} {spans : List FreezeSpan}, r.scan (Text.splitLines s) = .ok spans →
    (∀ l ∈ Text.splitLines s, reads l = true) → ∃ d, format.parse s = .ok d
  /-- A statement that is not frozen is what its line makes, and it has a signature. -/
  of_unfrozen : ∀ {s : Text} {d : Document N} {n : N}, format.parse s = .ok d → n ∈ d.nodes →
    ¬ d.Frozen n → ∃ line, NodeView.position n = .single line ∧ makes (d.line line) = true ∧
      format.faceOf n = face (d.line line) ∧ (format.signature n).isSome = true ∧
      format.carriesThrough n = false
  /-- Statements stand in order. -/
  ordered : ∀ {spans : List FreezeSpan} {flags : List Bool},
    MarkerRegistry.SpansWithin 1 (1 + flags.length) spans →
      PositionsWithin flags.length (layout spans flags)
  /-- Lines put at the end that make statements make them there. -/
  layout_append : ∀ {spans : List FreezeSpan} {flags : List Bool} (k : Nat),
    MarkerRegistry.SpansWithin 1 (1 + flags.length) spans →
      layout spans (flags ++ List.replicate k true) =
        layout spans flags ++ (List.range' (1 + flags.length) k).map .single

namespace Linewise

variable {format : Format N} {r : MarkerRegistry} {s : Text} {d : Document N}

theorem lines_eq (h : Linewise format r) (hd : format.parse s = .ok d) :
    d.lines = Text.splitLines s := (h.of_parse hd).1

theorem scan_lines (h : Linewise format r) (hd : format.parse s = .ok d) :
    r.scan d.lines = .ok d.spans := (h.of_parse hd).2.1

theorem reads_line (h : Linewise format r) (hd : format.parse s = .ok d) {n : Nat} (h1 : 1 ≤ n)
    (h2 : n ≤ d.lineCount) : h.reads (d.line n) = true :=
  (h.of_parse hd).2.2.1 _ (Document.line_mem h1 h2)

theorem spansWithin (h : Linewise format r) (hd : format.parse s = .ok d) :
    MarkerRegistry.SpansWithin 1 (1 + d.lineCount) d.spans :=
  MarkerRegistry.spansWithin_scan (h.scan_lines hd)

theorem positionsWithin (h : Linewise format r) (hd : format.parse s = .ok d) :
    PositionsWithin d.lineCount (d.nodes.map NodeView.position) := by
  have hspans := h.spansWithin hd
  rw [Document.lineCount, ← List.length_map h.makes] at hspans ⊢
  rw [(h.of_parse hd).2.2.2]
  exact h.ordered hspans

theorem inOrder (h : Linewise format r) (hd : format.parse s = .ok d) :
    InOrder 1 d.lineCount (statements d.nodes) :=
  (h.positionsWithin hd).inOrder

/-- A statement that is a line outside frozen regions. -/
structure LineStatement (h : Linewise format r) (d : Document N) (x : Statement N)
    (line : Nat) : Prop where
  /-- It is that line. -/
  position : x.position = .single line
  first : 1 ≤ line
  last : line ≤ d.lineCount
  /-- The line is in no region, and no marker. -/
  outside : ∀ span ∈ d.spans, ¬ span.Covers line
  unmarked : r.classify (d.line line) = none
  /-- The statement is what the line makes. -/
  made : h.makes (d.line line) = true
  face : format.faceOf x.node = h.face (d.line line)
  signed : (format.signature x.node).isSome = true
  loose : format.carriesThrough x.node = false

theorem covers_intersects {span : FreezeSpan} {line : Nat} (h : span.Covers line) :
    span.intersects (.single line) = true :=
  Position.intersects_iff.2 ⟨h.1, Nat.le_trans h.2 (Nat.le_max_left ..)⟩

theorem unmarked_of_outside (h : Linewise format r) (hd : format.parse s = .ok d) {line : Nat}
    (h1 : 1 ≤ line) (h2 : line ≤ d.lineCount) (hout : ∀ span ∈ d.spans, ¬ span.Covers line) :
    r.classify (d.line line) = none := by
  obtain ⟨i, rfl⟩ := Nat.exists_eq_add_of_le' h1
  have hi : i < d.lines.length := h2
  rw [Document.line_of_lt hi]
  refine MarkerRegistry.classify_eq_none (h.scan_lines hd) hi (fun span hspan => ?_) (by simp)
  rw [Nat.add_comm]
  exact hout span hspan

/-- Statements that are not frozen are lines. -/
theorem lineStatement (h : Linewise format r) (hd : format.parse s = .ok d) {x : Statement N}
    (hx : x ∈ statements d.nodes) (hfrozen : ¬ d.Frozen x.node) :
    ∃ line, h.LineStatement d x line := by
  have hnode : x.node ∈ d.nodes := List.mem_of_getElem? (getElem?_nodes hx)
  obtain ⟨line, hposition, hmade, hface, hsigned, hloose⟩ := h.of_unfrozen hd hnode hfrozen
  have hstands : x.position = .single line := hposition
  obtain ⟨hfirst, hlast⟩ := (h.inOrder hd).within x hx
  rw [hstands] at hfirst hlast
  have hout : ∀ span ∈ d.spans, ¬ span.Covers line := fun span hspan hcovers =>
    hfrozen ⟨span, hspan, by rw [hposition]; exact covers_intersects hcovers⟩
  exact ⟨line, hstands, hfirst, hlast, hout, h.unmarked_of_outside hd hfirst hlast hout, hmade,
    hface, hsigned, hloose⟩

end Linewise

end TemplateMerge
