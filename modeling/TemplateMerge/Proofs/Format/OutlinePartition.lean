import TemplateMerge.Proofs.Format.OutlineFrame
import TemplateMerge.Proofs.Text.LineStarts

/-! The nodes of an outline are a partition of its lines.

    The reading of an outline goes down the lines with the regions that are still to come.  Where
    one begins it becomes a node, and its lines are skipped; every other line is a node of its own.
    The next region begins on the next line or further down, so no line is skipped that is not of a
    region, and no region is missed:

        line          1      2   3   4      5      6
        to come      3–4    3–4  3–4        ·      ·
        node          1      2   ─3–4─      5      6

    So the nodes stand one after the other with no line between, and what they copy from the text,
    put together, is the text. -/

namespace TemplateMerge

namespace Document

variable {N : Type} {d : Document N}

theorem take_append_sourceRange {first last : Nat} (h : first ≤ last) :
    (d.lines.take (first - 1)).flatten ++ d.sourceRange first last =
      (d.lines.take last).flatten := by
  have hfront : d.lines.take (first - 1) = (d.lines.take last).take (first - 1) := by
    rw [List.take_take, Nat.min_eq_left (by omega)]
  rw [sourceRange, ← List.flatten_append, hfront, List.take_append_drop]

/-- What is copied from positions that tile the lines from `first` on is the rest of the text. -/
theorem take_append_slices {ps : List Position} : ∀ {first : Nat},
    Tiles (d.lineCount + 1) first ps →
      (d.lines.take (first - 1)).flatten ++ (ps.map d.slice).flatten = d.source := by
  induction ps with
  | nil =>
    intro first h
    have hall : first - 1 = d.lines.length := by
      rw [show first = d.lineCount + 1 from h, Nat.add_sub_cancel, lineCount]
    rw [hall, List.take_length, d.lines_eq]
    simp
  | cons p ps ih =>
    intro first h
    obtain ⟨rfl, hrest⟩ := h
    rw [List.map_cons, List.flatten_cons, ← List.append_assoc, slice,
      take_append_sourceRange p.ordered]
    exact ih hrest

end Document

namespace Outline

/-! ### Regions among the blocks -/

theorem lineBlock_kind_ne (number : Nat) (line : Text) :
    (lineBlock number line).kind ≠ .freezeBlock := classify_ne_freezeBlock line

theorem frozen_blocks {number : Nat} {lines : List Text} {spans : List FreezeSpan}
    (h : MarkerRegistry.SpansWithin number (number + lines.length) spans) :
    ((blocks number lines spans).filter (·.kind = .freezeBlock)).map (·.position) =
      spans.map (·.position) := by
  induction number, lines, spans using blocks.induct with
  | case1 number spans =>
    cases spans with
    | nil => rw [blocks_nil]; rfl
    | cons span later =>
      have := h.2 span List.mem_cons_self
      rw [List.length_nil] at this
      omega
  | case2 number line rest ih =>
    rw [blocks_line, List.filter_cons_of_neg (by simpa using lineBlock_kind_ne number line)]
    exact ih ⟨.nil, by simp⟩
  | case3 line rest span later position inner ih =>
    obtain ⟨hlater, hend, -⟩ := spansWithin_tail h
    have hle : span.startLine ≤ span.position.endLine := span.position.ordered
    have hstop : span.position.endLine + 1 +
        (rest.drop (span.position.endLine - span.startLine)).length =
          span.startLine + (line :: rest).length := by
      rw [List.length_cons] at hend
      rw [List.length_drop, List.length_cons]
      omega
    rw [← hstop] at hlater
    rw [blocks_span rfl, List.filter_cons_of_pos (by simp), List.map_cons, List.map_cons]
    exact congrArg (_ :: ·) (ih hlater)
  | case4 number line rest span later hstart ih =>
    have hlength : number + (line :: rest).length = number + 1 + rest.length := by
      rw [List.length_cons]
      omega
    rw [hlength] at h
    rw [blocks_before hstart,
      List.filter_cons_of_neg (by simpa using lineBlock_kind_ne number line)]
    exact ih (spansWithin_skip h hstart)

/-- What makes the nodes of a document a partition of its lines. -/
structure Partition (d : Document Node) : Prop where
  /-- The nodes stand one after the other, from the first line to the last, with no line between. -/
  tiles : Tiles (d.lineCount + 1) 1 (d.nodes.map NodeView.position)
  /-- The lines of the nodes, put together, are the text. -/
  whole : (d.nodes.map fun n => d.slice (NodeView.position n)).flatten = d.source
  /-- The frozen nodes are the regions, in order. -/
  regions : (d.nodes.filter (·.entry.kind = .freezeBlock)).map NodeView.position =
    d.spans.map (·.position)
  /-- Every other node is a line that is in no region. -/
  single : ∀ n ∈ d.nodes, n.entry.kind ≠ .freezeBlock →
    ∃ line, NodeView.position n = .single line ∧
      ∀ span ∈ d.spans, span.intersects (.single line) = false

variable {markers : MarkerRegistry} {source : Text} {d : Document Node}

theorem frozen_nodes (h : parse markers source = .ok d) :
    (d.nodes.filter (·.entry.kind = .freezeBlock)).map NodeView.position =
      d.spans.map (·.position) := by
  have hwithin := MarkerRegistry.spansWithin_scan (lines_of_parse h).2.1
  rw [← List.length_map Text.chomp] at hwithin
  rw [← frozen_blocks hwithin, ← blocks_of_parse h, List.filter_map, List.map_map]
  rfl

theorem partition_of_parse (h : parse markers source = .ok d) : Partition d where
  tiles := tiles_of_parse h
  whole := by
    have hslices := Document.take_append_slices (tiles_of_parse h)
    rw [Nat.sub_self, List.take_zero, List.map_map] at hslices
    exact hslices
  regions := frozen_nodes h
  single := by
    intro n hn hkind
    have hfrozen : ¬ d.Frozen n := fun hfrozen => hkind ((frozen_iff h hn).1 hfrozen)
    obtain ⟨line, hposition, -⟩ := node_of_unfrozen h hn hfrozen
    exact ⟨line, hposition, (Document.unfrozen_iff hposition).1 hfrozen⟩

end Outline

/-- Where the markers of a text pair up, the text is read as an outline with these regions, and the
    nodes of the outline are a partition of its lines.  The lines that are read are as many as there
    are places in the text where lines begin, for any text, and so are those of its document. -/
theorem outline_partitions (markers : MarkerRegistry) (source : Text) :
    ((Outline.linesOf source).length = (Text.lineStarts source).length ∧
      ∀ (nodes : List Outline.Node) (spans : List FreezeSpan),
        (Document.make source nodes spans).lineCount = (Text.lineStarts source).length) ∧
    ∀ spans, markers.scan (Outline.linesOf source) = .ok spans →
      ∃ d, Outline.parse markers source = .ok d ∧ d.source = source ∧ d.spans = spans ∧
        Outline.Partition d := by
  have hcount := Text.length_lineStarts source
  refine ⟨⟨?_, fun _ _ => hcount.symm⟩, ?_⟩
  · rw [hcount, Outline.linesOf, List.length_map]
  · intro spans hscan
    rw [Outline.linesOf, MarkerRegistry.scan_map_of_trim Text.trim_chomp] at hscan
    obtain ⟨d, hd⟩ := Outline.parse_of_scan hscan
    obtain ⟨hlines, hspans, -⟩ := Outline.lines_of_parse hd
    have hsource : d.source = source := by
      rw [← Text.flatten_splitLines d.source, ← d.lines_eq, hlines, Text.flatten_splitLines]
    rw [hlines] at hspans
    exact ⟨d, hd, hsource, Except.ok.inj (hspans.symm.trans hscan), Outline.partition_of_parse hd⟩

/-- Two regions stand side by side, and the last line has no end. -/
theorem outline_partitions_side_by_side :
    let source := "é\r\n# structmerge:freeze\n# X\n# structmerge:unfreeze\r\n".toList ++
      "// structmerge:freeze\n// structmerge:unfreeze\n\n## B".toList
    ∃ spans, MarkerRegistry.builtin.scan (Outline.linesOf source) = .ok spans ∧
      ∃ d, Outline.parse .builtin source = .ok d ∧ d.source = source ∧ d.spans = spans ∧
        Outline.Partition d ∧
        d.nodes.map (fun n => (n.entry.position.startLine, n.entry.position.endLine)) =
          [(1, 1), (2, 4), (5, 6), (7, 7), (8, 8)] ∧
        Text.lineStarts source = [0, 4, 25, 29, 53, 75, 99, 100] := by
  intro source
  have hstarts : Text.lineStarts source = [0, 4, 25, 29, 53, 75, 99, 100] := by decide +kernel
  have hnodes : (Outline.parse .builtin source).toOption.map (fun d =>
      d.nodes.map fun n => (n.entry.position.startLine, n.entry.position.endLine)) =
        some [(1, 1), (2, 4), (5, 6), (7, 7), (8, 8)] := by decide +kernel
  obtain ⟨spans, hscan⟩ :
    ∃ spans, MarkerRegistry.builtin.scan (Outline.linesOf source) = .ok spans := ⟨_, rfl⟩
  obtain ⟨-, hparse⟩ := outline_partitions .builtin source
  obtain ⟨d, hd, hsource, hspans, hpartition⟩ := hparse spans hscan
  rw [hd] at hnodes
  exact ⟨spans, hscan, d, hd, hsource, hspans, hpartition, Option.some.inj hnodes, hstarts⟩

end TemplateMerge
