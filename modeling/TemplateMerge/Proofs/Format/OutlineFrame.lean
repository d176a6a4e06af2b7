import TemplateMerge.Proofs.Format.Outline
import TemplateMerge.Proofs.Freeze.Frame

/-! Outlines around the inside of a frozen region.

    The nodes of an outline are those of the lines before a region, the region, and those of the
    lines after it.  What a node reads and what its lines are depends on the part that it is in, and
    only where it stands depends on how many lines come before.  So another inside changes one node,
    and moves those after it.

        lines       ── before ──   freeze   inside …   unfreeze   ── after ──
        nodes       n   n   n      ─────────── one ────────────   n   n   n
        cells       c   c   c      ──────── frozen ────────────   c   c   c

    `cells` is what is left of the nodes when one forgets where they stand. -/

namespace TemplateMerge

/-- The lines so many lines further down. -/
def Position.shift (k : Nat) (p : Position) : Position :=
  ⟨p.startLine + k, p.endLine + k, Nat.add_le_add_right p.ordered k⟩

theorem FreezeSpan.position_shift (k : Nat) (s : FreezeSpan) :
    (s.shift k).position = s.position.shift k := by
  unfold FreezeSpan.position Position.ofLines Position.shift FreezeSpan.shift
  simp only [Position.mk.injEq, true_and]
  omega

namespace Text

/-- The lines of a position. -/
def linesAt (ls : List Text) (p : Position) : Text :=
  ((ls.take p.endLine).drop (p.startLine - 1)).flatten

theorem linesAt_append_left {a b : List Text} {p : Position} (h : p.endLine ≤ a.length) :
    linesAt (a ++ b) p = linesAt a p := by
  rw [linesAt, List.take_append_of_le_length h, linesAt]

theorem linesAt_append_right {a b : List Text} {p : Position} (h : 1 ≤ p.startLine) :
    linesAt (a ++ b) (p.shift a.length) = linesAt b p := by
  have hstart : p.startLine + a.length - 1 = a.length + (p.startLine - 1) := by omega
  unfold linesAt Position.shift
  dsimp only
  rw [hstart, Nat.add_comm p.endLine, List.take_length_add_append, List.drop_length_add_append]

end Text

theorem Document.unfrozen_iff {N : Type} [NodeView N] {d : Document N} {n : N} {p : Position}
    (h : NodeView.position n = p) :
    ¬ d.Frozen n ↔ ∀ span ∈ d.spans, span.intersects p = false := by
  simp [Document.Frozen, h]

namespace Outline

/-- The block so many lines further down. -/
def Block.shift (k : Nat) (b : Block) : Block := { b with position := b.position.shift k }

/-! ### Blocks further down, and one after the other -/

theorem blocks_shift (k number : Nat) (lines : List Text) (spans : List FreezeSpan) :
    blocks (number + k) lines (spans.map (·.shift k)) =
      (blocks number lines spans).map (Block.shift k) := by
  induction number, lines, spans using blocks.induct with
  | case1 number spans => rw [blocks_nil, blocks_nil, List.map_nil]
  | case2 number line rest ih =>
    rw [Nat.add_right_comm] at ih
    rw [List.map_nil] at ih ⊢
    rw [blocks_line, blocks_line, ih, List.map_cons]
    rfl
  | case3 line rest span later position inner ih =>
    have hstart : (span.shift k).startLine = span.startLine + k := rfl
    have hend : (span.shift k).position.endLine = span.position.endLine + k :=
      congrArg Position.endLine (span.position_shift k)
    rw [Nat.add_right_comm] at ih
    rw [List.map_cons, blocks_span hstart, blocks_span rfl, List.map_cons, hend,
      Nat.add_sub_add_right, span.position_shift, ih]
    rfl
  | case4 number line rest span later hstart ih =>
    have hne : (span.shift k).startLine ≠ number + k := fun h => hstart (Nat.add_right_cancel h)
    rw [Nat.add_right_comm] at ih
    rw [List.map_cons] at ih ⊢
    rw [blocks_before hne, blocks_before hstart, ih, List.map_cons]
    rfl

/-- The blocks of lines after others, whose regions begin there. -/
theorem blocks_append {number : Nat} {a b : List Text} {sa sb : List FreezeSpan}
    (ha : MarkerRegistry.SpansWithin number (number + a.length) sa)
    (hb : ∀ s ∈ sb, number + a.length ≤ s.startLine) :
    blocks number (a ++ b) (sa ++ sb) =
      blocks number a sa ++ blocks (number + a.length) b sb := by
  induction number, a, sa using blocks.induct with
  | case1 number spans =>
    cases spans with
    | nil => rw [blocks_nil]; rfl
    | cons span later =>
      have := ha.2 span List.mem_cons_self
      rw [List.length_nil] at this
      omega
  | case2 number line rest ih =>
    have hlength : number + (line :: rest).length = number + 1 + rest.length := by
      rw [List.length_cons]
      omega
    rw [hlength] at hb ⊢
    have hhead : blocks number (line :: rest ++ b) sb =
        lineBlock number line :: blocks (number + 1) (rest ++ b) sb := by
      cases sb with
      | nil => exact blocks_line _ _ _
      | cons span later =>
        refine blocks_before ?_ _ _ _
        have := hb span List.mem_cons_self
        omega
    rw [List.nil_append, hhead, blocks_line, List.cons_append]
    exact congrArg (_ :: ·) (ih ⟨.nil, by simp⟩ hb)
  | case3 line rest span later position inner ih =>
    obtain ⟨hlater, hend, -⟩ := spansWithin_tail ha
    have hle : span.startLine ≤ span.position.endLine := span.position.ordered
    rw [List.length_cons] at hend
    have hinner : span.position.endLine - span.startLine ≤ rest.length := by omega
    have hlength : span.position.endLine + 1 +
        (rest.drop (span.position.endLine - span.startLine)).length =
          span.startLine + (line :: rest).length := by
      rw [List.length_drop, List.length_cons]
      omega
    rw [hlength] at ih
    rw [List.cons_append, List.cons_append, blocks_span rfl, blocks_span rfl,
      List.take_append_of_le_length hinner, List.drop_append_of_le_length hinner, List.cons_append]
    exact congrArg (_ :: ·) (ih hlater hb)
  | case4 number line rest span later hstart ih =>
    have hlength : number + (line :: rest).length = number + 1 + rest.length := by
      rw [List.length_cons]
      omega
    rw [hlength] at ha hb ⊢
    rw [List.cons_append, List.cons_append, blocks_before hstart, blocks_before hstart,
      List.cons_append]
    exact congrArg (_ :: ·) (ih (spansWithin_skip ha hstart) hb)

theorem mem_blocks_within {number : Nat} {lines : List Text} {spans : List FreezeSpan}
    (h : MarkerRegistry.SpansWithin number (number + lines.length) spans) {b : Block}
    (hb : b ∈ blocks number lines spans) :
    number ≤ b.position.startLine ∧ b.position.endLine < number + lines.length := by
  refine (layoutFrom_ordered h).2 b.position ?_
  rw [← position_blocks]
  exact List.mem_map_of_mem hb

/-- A block is frozen, or it has no line of a region. -/
theorem mem_blocks_cases {number : Nat} {lines : List Text} {spans : List FreezeSpan}
    (h : MarkerRegistry.SpansWithin number (number + lines.length) spans) {b : Block}
    (hb : b ∈ blocks number lines spans) :
    b.kind = .freezeBlock ∨ ∀ span ∈ spans, span.intersects b.position = false := by
  induction number, lines, spans using blocks.induct with
  | case1 number spans => rw [blocks_nil] at hb; cases hb
  | case2 number line rest ih => exact .inr (by simp)
  | case3 line rest span later position inner ih =>
    obtain ⟨hlater, hend, -⟩ := spansWithin_tail h
    have hle : span.startLine ≤ span.position.endLine := span.position.ordered
    have hstop : span.position.endLine + 1 +
        (rest.drop (span.position.endLine - span.startLine)).length =
          span.startLine + (line :: rest).length := by
      rw [List.length_cons] at hend
      rw [List.length_drop, List.length_cons]
      omega
    rw [← hstop] at hlater
    rw [blocks_span rfl] at hb
    rcases List.mem_cons.1 hb with rfl | hb
    · exact .inl rfl
    · refine (ih hlater hb).imp_right fun hnone s hs => ?_
      rcases List.mem_cons.1 hs with rfl | hs
      · have := (mem_blocks_within hlater hb).1
        refine Bool.eq_false_iff.2 fun hmeet => ?_
        have := (Position.intersects_iff.1 hmeet).2
        omega
      · exact hnone s hs
  | case4 number line rest span later hstart ih =>
    have hskip := spansWithin_skip h hstart
    have hlength : number + (line :: rest).length = number + 1 + rest.length := by
      rw [List.length_cons]
      omega
    rw [hlength] at hskip
    rw [blocks_before hstart] at hb
    rcases List.mem_cons.1 hb with rfl | hb
    · refine .inr fun s hs => Bool.eq_false_iff.2 fun hmeet => ?_
      have hbegins := (hskip.2 s hs).1
      have hmeets : s.startLine ≤ number := (Position.intersects_iff.1 hmeet).1
      omega
    · exact ih hskip hb

/-! ### Nodes by what they read -/

/-- What is left of a node when one forgets where it stands. -/
structure Cell where
  /-- What it is. -/
  kind : Kind
  /-- Its text, without line endings at its end. -/
  text : Text
  /-- Its lines. -/
  slice : Text

/-- The cell of a block of the given lines. -/
def Block.cell (ls : List Text) (b : Block) : Cell := ⟨b.kind, b.text, Text.linesAt ls b.position⟩

/-- The cells of a document, node by node. -/
def cells (d : Document Node) : List Cell := d.nodes.map (·.entry.toBlock.cell d.lines)

/-- The cells of lines on their own. -/
def cellsOf (ls : List Text) (spans : List FreezeSpan) : List Cell :=
  (blocks 1 (ls.map Text.chomp) spans).map (Block.cell ls)

theorem cell_append_left {a b : List Text} {spans : List FreezeSpan}
    (h : MarkerRegistry.SpansWithin 1 (1 + a.length) spans) :
    (blocks 1 (a.map Text.chomp) spans).map (Block.cell (a ++ b)) = cellsOf a spans := by
  refine List.map_congr_left fun x hx => ?_
  rw [← List.length_map Text.chomp] at h
  have hend := (mem_blocks_within h hx).2
  rw [List.length_map] at hend
  rw [Block.cell, Block.cell, Text.linesAt_append_left (by omega)]

theorem cell_append_right {a b : List Text} {spans : List FreezeSpan}
    (h : MarkerRegistry.SpansWithin 1 (1 + b.length) spans) :
    ((blocks 1 (b.map Text.chomp) spans).map (Block.shift a.length)).map (Block.cell (a ++ b)) =
      cellsOf b spans := by
  rw [List.map_map]
  refine List.map_congr_left fun x hx => ?_
  rw [← List.length_map Text.chomp] at h
  have hstart := (mem_blocks_within h hx).1
  show Cell.mk x.kind x.text (Text.linesAt (a ++ b) (x.position.shift a.length)) = _
  rw [Text.linesAt_append_right hstart]
  rfl

variable {markers : MarkerRegistry}

/-- The cell of a region. -/
def frozenCell (f : markers.Frame) (inside : List Text) : Cell :=
  ⟨.freezeBlock,
    Text.joinWith ['\n'] (Text.chomp f.opening :: (inside ++ [f.closing]).map Text.chomp),
    f.opening ++ inside.flatten ++ f.closing⟩

/-- The cells of a frame around an inside. -/
def frameCells (f : markers.Frame) (inside : List Text) : List Cell :=
  cellsOf f.before f.spansBefore ++ frozenCell f inside :: cellsOf f.after f.spansAfter

theorem endLine_span (f : markers.Frame) (inside : List Text) :
    (f.span inside).position.endLine = f.stop inside := by
  show max (f.stop inside) (f.before.length + 1) = f.stop inside
  exact Nat.max_eq_left (by unfold MarkerRegistry.Frame.stop; omega)

/-- The blocks of a frame around an inside. -/
theorem blocks_frame (f : markers.Frame) (inside : List Text) :
    blocks 1 ((f.lines inside).map Text.chomp) (f.spans inside) =
      blocks 1 (f.before.map Text.chomp) f.spansBefore ++
        ⟨.freezeBlock, (frozenCell f inside).text, (f.span inside).position⟩ ::
          (blocks 1 (f.after.map Text.chomp) f.spansAfter).map (Block.shift (f.stop inside)) := by
  have hbefore := MarkerRegistry.spansWithin_scan f.scan_before
  rw [← List.length_map Text.chomp] at hbefore
  have hlater : ∀ s ∈ f.span inside :: f.spansAfter.map (·.shift (f.stop inside)),
      1 + (f.before.map Text.chomp).length ≤ s.startLine := by
    intro s hs
    rw [List.length_map]
    rcases List.mem_cons.1 hs with rfl | hs
    · exact Nat.le_of_eq (Nat.add_comm 1 _)
    · obtain ⟨s, -, rfl⟩ := List.mem_map.1 hs
      show 1 + f.before.length ≤ s.startLine + (f.before.length + inside.length + 2)
      omega
  have hfirst : (f.span inside).startLine = 1 + (f.before.map Text.chomp).length := by
    rw [List.length_map]
    exact Nat.add_comm ..
  have hend := endLine_span f inside
  have hinner : (f.span inside).position.endLine - (1 + (f.before.map Text.chomp).length) =
      ((inside ++ [f.closing]).map Text.chomp).length := by
    rw [hend, List.length_map, List.length_map, List.length_append, List.length_singleton]
    unfold MarkerRegistry.Frame.stop
    omega
  have hrest : (inside ++ f.closing :: f.after).map Text.chomp =
      (inside ++ [f.closing]).map Text.chomp ++ f.after.map Text.chomp := by
    rw [← List.map_append, List.append_assoc, List.singleton_append]
  rw [MarkerRegistry.Frame.lines, MarkerRegistry.Frame.spans, List.map_append, List.map_cons,
    hrest, blocks_append hbefore hlater, blocks_span hfirst, hinner, List.take_left,
    List.drop_left, hend, Nat.add_comm (f.stop inside), blocks_shift]
  rfl

theorem frozen_iff {source : Text} {d : Document Node} (h : parse markers source = .ok d) {n : Node}
    (hn : n ∈ d.nodes) : d.Frozen n ↔ n.entry.kind = .freezeBlock := by
  have hblock : n.entry.toBlock ∈ blocks 1 (d.lines.map Text.chomp) d.spans := by
    rw [← blocks_of_parse h]
    exact List.mem_map_of_mem (f := fun n : Node => n.entry.toBlock) hn
  have hwithin := MarkerRegistry.spansWithin_scan (lines_of_parse h).2.1
  rw [← List.length_map Text.chomp] at hwithin
  constructor
  · rintro ⟨span, hspan, hmeets⟩
    refine (mem_blocks_cases hwithin hblock).resolve_right fun hnone => ?_
    exact Bool.false_ne_true ((hnone span hspan).symm.trans hmeets)
  · intro hkind
    by_contra hfrozen
    obtain ⟨line, -, -, -, hloose⟩ := node_of_unfrozen h hn hfrozen
    exact of_decide_eq_false hloose hkind

/-! ### Documents by their frames -/

/-- A document that is a frame around an inside. -/
structure FramedBy (f : markers.Frame) (inside : List Text) (d : Document Node) : Prop where
  lines : d.lines = f.lines inside
  cells : cells d = frameCells f inside

theorem cells_of_parse {source : Text} {d : Document Node} (h : parse markers source = .ok d) :
    cells d = (blocks 1 (d.lines.map Text.chomp) d.spans).map (Block.cell d.lines) := by
  rw [← blocks_of_parse h, List.map_map]
  rfl

theorem linesAt_span (f : markers.Frame) (inside : List Text) :
    Text.linesAt (f.lines inside) (f.span inside).position =
      f.opening ++ inside.flatten ++ f.closing := by
  rw [Text.linesAt, f.lines_eq_upTo, endLine_span, ← f.length_upTo, List.take_left]
  show ((f.before ++ _).drop (f.before.length + 1 - 1)).flatten = _
  rw [Nat.add_sub_cancel, List.drop_left]
  simp

/-- An outline whose lines are a frame and an inside without markers is framed by it. -/
theorem framedBy_of_lines {source : Text} {d : Document Node} (h : parse markers source = .ok d)
    {f : markers.Frame} {inside : List Text} (hlines : d.lines = f.lines inside)
    (hinside : ∀ l ∈ inside, markers.classify l = none) :
    d.spans = f.spans inside ∧ FramedBy f inside d := by
  have hscan := (lines_of_parse h).2.1
  rw [hlines, f.scan_lines hinside] at hscan
  have hspans : d.spans = f.spans inside := (Except.ok.inj hscan).symm
  refine ⟨hspans, hlines, ?_⟩
  have hbefore := MarkerRegistry.spansWithin_scan f.scan_before
  have hafter := MarkerRegistry.spansWithin_scan f.scan_after
  have hright : ((blocks 1 (f.after.map Text.chomp) f.spansAfter).map
      (Block.shift (f.stop inside))).map (Block.cell (f.lines inside)) =
        cellsOf f.after f.spansAfter := by
    rw [f.lines_eq_upTo, ← f.length_upTo]
    exact cell_append_right hafter
  rw [cells_of_parse h, hlines, hspans, blocks_frame, List.map_append, List.map_cons, hright]
  refine congrArg₂ (· ++ ·) (cell_append_left hbefore) (congrArg (· :: _) ?_)
  rw [Block.cell, linesAt_span]
  rfl

/-- Around every region of an outline there is a frame. -/
theorem exists_framedBy {source : Text} {d : Document Node} (h : parse markers source = .ok d)
    {span : FreezeSpan} (hspan : span ∈ d.spans) :
    ∃ (f : markers.Frame) (inside : List Text), FramedBy f inside d ∧ span = f.span inside := by
  obtain ⟨f, inside, hlines, hinside, hown⟩ :=
    MarkerRegistry.exists_frame (lines_of_parse h).2.1 hspan
  exact ⟨f, inside, (framedBy_of_lines h hlines hinside).2, hown⟩

/-- Another inside, of ended lines without markers, makes another outline with the same frame. -/
theorem parse_exchanged {d : Document Node} {f : markers.Frame} {inside : List Text}
    (hframed : FramedBy f inside d) {new : Text} (hnew : markers.Unmarked new) :
    ∃ d', parse markers (f.lines (Text.splitLines new)).flatten = .ok d' ∧
      FramedBy f (Text.splitLines new) d' := by
  have hare : Text.AreLines (f.lines (Text.splitLines new)) := by
    have hown := d.areLines
    rw [hframed.lines, f.lines_eq] at hown
    rw [f.lines_eq]
    exact hown.exchange (by simp) (Text.areLines_splitLines new).1
      (Text.map_close_splitLines hnew.ended)
  have hsplit := Text.splitLines_flatten hare
  obtain ⟨d', hd'⟩ : ∃ d', parse markers (f.lines (Text.splitLines new)).flatten = .ok d' :=
    parse_of_scan (by rw [hsplit]; exact f.scan_lines hnew.unmarked)
  refine ⟨d', hd', (framedBy_of_lines hd' ?_ hnew.unmarked).2⟩
  rw [(lines_of_parse hd').1, hsplit]

end Outline

end TemplateMerge
