import TemplateMerge.Format.Outline
import TemplateMerge.Proofs.Format.Linewise

/-! Outlines are read line by line.

    Outside frozen regions every line is a statement, a heading, a blank or a plain line, and a
    region is one statement.  So where statements stand depends on the number of lines and on the
    regions alone.

        lines        1   2   3   4   5   6        region 3–5
        statements   ·   ·   ─────────   ·
        positions    1   2     3–5       6 -/

namespace TemplateMerge

namespace Outline

/-! ### What a line makes -/

/-- The signature of a line outside frozen regions. -/
def signatureOfLine (line : Text) : Signature :=
  match classify line with
  | .blank => .content "blank" []
  | kind => .content kind.name (Text.trimEnd line)

/-- The face of the statement that a line makes. -/
def faceOfLine (l : Text) : Face :=
  ⟨some (signatureOfLine (Text.chomp l)), Text.trimEnd (Text.chomp l), none⟩

theorem faceOfLine_close (l : Text) : faceOfLine l.close = faceOfLine l := by
  unfold faceOfLine
  rw [Text.chomp_close]

theorem classify_ne_freezeBlock (line : Text) : classify line ≠ .freezeBlock := by
  unfold classify
  split
  · simp
  · split <;> simp

theorem isBlank_of_classify {line : Text} (h : classify line = .blank) :
    Text.isBlank line = true := by
  unfold classify at h
  split at h
  · assumption
  · split at h <;> cases h

/-- The signature of a line is its kind and its text, white space at the end aside; a blank has
    nothing else. -/
theorem signatureOfLine_eq (line : Text) :
    signatureOfLine line = .content (classify line).name (Text.trimEnd line) := by
  unfold signatureOfLine
  split
  · next h =>
    have hblank : ∀ c ∈ line, Text.isBlankChar c = true :=
      List.all_eq_true.1 (isBlank_of_classify h)
    have hnone : Text.trimEnd ([] ++ line) = Text.trimEnd [] := Text.dropEndWhile_append hblank
    rw [h, ← List.nil_append line, hnone]
    rfl
  · rfl

/-- Lines with the same signature have the same text, white space at the end aside. -/
theorem trimEnd_of_signatureOfLine {a b : Text} (h : signatureOfLine a = signatureOfLine b) :
    Text.trimEnd a = Text.trimEnd b := by
  rw [signatureOfLine_eq, signatureOfLine_eq] at h
  exact (Signature.content.inj h).2

/-- The block of a line outside frozen regions. -/
def lineBlock (number : Nat) (line : Text) : Block := ⟨classify line, line, .single number⟩

/-! ### Blocks -/

theorem blocks_nil (number : Nat) (spans : List FreezeSpan) : blocks number [] spans = [] := by
  rw [blocks]

theorem blocks_line (number : Nat) (line : Text) (rest : List Text) :
    blocks number (line :: rest) [] = lineBlock number line :: blocks (number + 1) rest [] := by
  rw [blocks]
  rfl

theorem blocks_before {number : Nat} {span : FreezeSpan} (h : span.startLine ≠ number) (line : Text)
    (rest : List Text) (later : List FreezeSpan) : blocks number (line :: rest) (span :: later) =
      lineBlock number line :: blocks (number + 1) rest (span :: later) := by
  rw [blocks, if_neg h]
  rfl

theorem blocks_span {number : Nat} {span : FreezeSpan} (h : span.startLine = number) (line : Text)
    (rest : List Text) (later : List FreezeSpan) : blocks number (line :: rest) (span :: later) =
      ⟨.freezeBlock,
        Text.joinWith ['\n'] (line :: rest.take (span.position.endLine - number)), span.position⟩ ::
      blocks (span.position.endLine + 1) (rest.drop (span.position.endLine - number)) later := by
  rw [blocks, if_pos h]

theorem mem_blocks {b : Block} {number : Nat} {lines : List Text} {spans : List FreezeSpan}
    (h : b ∈ blocks number lines spans) :
    (∃ span ∈ spans, b.position = span.position) ∨
      ∃ (i : Nat) (hi : i < lines.length), b = lineBlock (number + i) lines[i] := by
  induction number, lines, spans using blocks.induct with
  | case1 number spans =>
    rw [blocks_nil] at h
    cases h
  | case2 number line rest ih =>
    rw [blocks_line] at h
    rcases List.mem_cons.1 h with rfl | h
    · exact .inr ⟨0, by simp, rfl⟩
    · rcases ih h with ⟨span, hspan, -⟩ | ⟨i, hi, rfl⟩
      · cases hspan
      · refine .inr ⟨i + 1, by simpa using hi, ?_⟩
        rw [List.getElem_cons_succ, Nat.add_assoc, Nat.add_comm 1]
  | case3 line rest span later position inner ih =>
    rw [blocks_span rfl] at h
    rcases List.mem_cons.1 h with rfl | h
    · exact .inl ⟨span, List.mem_cons_self, rfl⟩
    · rcases ih h with ⟨span', hspan', hposition⟩ | ⟨i, hi, rfl⟩
      · exact .inl ⟨span', List.mem_cons_of_mem _ hspan', hposition⟩
      · -- the lines of the region come before
        have hend : span.startLine ≤ span.position.endLine := span.position.ordered
        have hlt : i < rest.length - (span.position.endLine - span.startLine) := by
          rw [← List.length_drop]; exact hi
        refine .inr ⟨span.position.endLine - span.startLine + i + 1,
          by rw [List.length_cons]; omega, ?_⟩
        rw [List.getElem_cons_succ, List.getElem_drop]
        congr 1
        show span.position.endLine + 1 + i = _
        omega
  | case4 number line rest span later hstart ih =>
    rw [blocks_before hstart] at h
    rcases List.mem_cons.1 h with rfl | h
    · exact .inr ⟨0, by simp, rfl⟩
    · rcases ih h with hspan | ⟨i, hi, rfl⟩
      · exact .inl hspan
      · refine .inr ⟨i + 1, by simpa using hi, ?_⟩
        rw [List.getElem_cons_succ, Nat.add_assoc, Nat.add_comm 1]

/-! ### Where blocks stand -/

/-- Where blocks stand, from line `number` on. -/
def layoutFrom (number count : Nat) (spans : List FreezeSpan) : List Position :=
  match count with
  | 0 => []
  | count + 1 =>
    match spans with
    | [] => .single number :: layoutFrom (number + 1) count []
    | span :: later =>
      if span.startLine = number then
        span.position ::
          layoutFrom (span.position.endLine + 1) (count - (span.position.endLine - number)) later
      else .single number :: layoutFrom (number + 1) count (span :: later)
termination_by count

theorem layoutFrom_zero (number : Nat) (spans : List FreezeSpan) :
    layoutFrom number 0 spans = [] := by
  rw [layoutFrom]

theorem layoutFrom_line (number count : Nat) :
    layoutFrom number (count + 1) [] = .single number :: layoutFrom (number + 1) count [] := by
  rw [layoutFrom]

theorem layoutFrom_before {number : Nat} {span : FreezeSpan} (h : span.startLine ≠ number)
    (count : Nat) (later : List FreezeSpan) : layoutFrom number (count + 1) (span :: later) =
      .single number :: layoutFrom (number + 1) count (span :: later) := by
  rw [layoutFrom, if_neg h]

theorem layoutFrom_span {number : Nat} {span : FreezeSpan} (h : span.startLine = number)
    (count : Nat) (later : List FreezeSpan) : layoutFrom number (count + 1) (span :: later) =
      span.position :: layoutFrom (span.position.endLine + 1)
        (count - (span.position.endLine - number)) later := by
  rw [layoutFrom, if_pos h]

/-- Where blocks stand does not depend on what the lines say. -/
theorem position_blocks (number : Nat) (lines : List Text) (spans : List FreezeSpan) :
    (blocks number lines spans).map (·.position) = layoutFrom number lines.length spans := by
  induction number, lines, spans using blocks.induct with
  | case1 number spans => rw [blocks_nil, List.length_nil, layoutFrom_zero]; rfl
  | case2 number line rest ih =>
    rw [blocks_line, List.map_cons, ih, List.length_cons, layoutFrom_line]
    rfl
  | case3 line rest span later position inner ih =>
    rw [blocks_span rfl, List.map_cons, ih, List.length_cons, layoutFrom_span rfl,
      List.length_drop]
  | case4 number line rest span later hstart ih =>
    rw [blocks_before hstart, List.map_cons, ih, List.length_cons, layoutFrom_before hstart]
    rfl

theorem spansWithin_tail {number stop : Nat} {span : FreezeSpan} {later : List FreezeSpan}
    (h : MarkerRegistry.SpansWithin number stop (span :: later)) :
    MarkerRegistry.SpansWithin (span.position.endLine + 1) stop later ∧
      span.position.endLine < stop ∧ span.position.endLine = span.endLine := by
  obtain ⟨hpairwise, hwithin⟩ := h
  obtain ⟨hfirst, hrest⟩ := List.pairwise_cons.1 hpairwise
  obtain ⟨hstart, hlt, hstop⟩ := hwithin span List.mem_cons_self
  have hend : span.position.endLine = span.endLine := Nat.max_eq_left (Nat.le_of_lt hlt)
  rw [hend]
  refine ⟨⟨hrest, fun s hs => ⟨hfirst s hs, ?_⟩⟩, hstop, rfl⟩
  exact (hwithin s (List.mem_cons_of_mem _ hs)).2

theorem spansWithin_skip {number stop : Nat} {span : FreezeSpan} {later : List FreezeSpan}
    (h : MarkerRegistry.SpansWithin number stop (span :: later)) (hne : span.startLine ≠ number) :
    MarkerRegistry.SpansWithin (number + 1) stop (span :: later) := by
  obtain ⟨hpairwise, hwithin⟩ := h
  obtain ⟨hfirst, -⟩ := List.pairwise_cons.1 hpairwise
  obtain ⟨hstart, hlt, -⟩ := hwithin span List.mem_cons_self
  refine ⟨hpairwise, fun s hs => ⟨?_, (hwithin s hs).2⟩⟩
  rcases List.mem_cons.1 hs with rfl | hs
  · omega
  · have := hfirst s hs
    omega

theorem layoutFrom_ordered {number count : Nat} {spans : List FreezeSpan}
    (h : MarkerRegistry.SpansWithin number (number + count) spans) :
    (layoutFrom number count spans).Pairwise (fun p q => p.endLine < q.startLine) ∧
      ∀ p ∈ layoutFrom number count spans,
        number ≤ p.startLine ∧ p.endLine < number + count := by
  induction number, count, spans using layoutFrom.induct with
  | case1 number spans => rw [layoutFrom_zero]; exact ⟨.nil, by simp⟩
  | case2 number count ih =>
    obtain ⟨hpairwise, hwithin⟩ := ih ⟨.nil, by simp⟩
    rw [layoutFrom_line]
    refine ⟨List.pairwise_cons.2 ⟨fun p hp => (hwithin p hp).1, hpairwise⟩, fun p hp => ?_⟩
    rcases List.mem_cons.1 hp with rfl | hp
    · exact ⟨Nat.le_refl _, by rw [Position.endLine_single]; omega⟩
    · have := hwithin p hp
      omega
  | case3 count span later ih =>
    obtain ⟨hlater, hend, -⟩ := spansWithin_tail h
    have hle : span.startLine ≤ span.position.endLine := span.position.ordered
    have hstop : span.position.endLine + 1 + (count - (span.position.endLine - span.startLine)) =
        span.startLine + count.succ := by omega
    rw [hstop] at ih
    obtain ⟨hpairwise, hwithin⟩ := ih hlater
    rw [layoutFrom_span rfl]
    refine ⟨List.pairwise_cons.2 ⟨fun p hp => (hwithin p hp).1, hpairwise⟩, fun p hp => ?_⟩
    rcases List.mem_cons.1 hp with rfl | hp
    · exact ⟨Nat.le_refl _, hend⟩
    · have := hwithin p hp
      omega
  | case4 number count span later hstart ih =>
    have hstop : number + 1 + count = number + count.succ := by omega
    rw [hstop] at ih
    obtain ⟨hpairwise, hwithin⟩ := ih (spansWithin_skip h hstart)
    rw [layoutFrom_before hstart]
    refine ⟨List.pairwise_cons.2 ⟨fun p hp => (hwithin p hp).1, hpairwise⟩, fun p hp => ?_⟩
    rcases List.mem_cons.1 hp with rfl | hp
    · exact ⟨Nat.le_refl _, by rw [Position.endLine_single]; omega⟩
    · have := hwithin p hp
      omega

/-- Between the blocks of an outline there is no line. -/
theorem tiles_layoutFrom {number count : Nat} {spans : List FreezeSpan}
    (h : MarkerRegistry.SpansWithin number (number + count) spans) :
    Tiles (number + count) number (layoutFrom number count spans) := by
  induction number, count, spans using layoutFrom.induct with
  | case1 number spans => rw [layoutFrom_zero]; rfl
  | case2 number count ih =>
    rw [Nat.add_right_comm] at ih
    rw [layoutFrom_line]
    exact ⟨rfl, ih ⟨.nil, by simp⟩⟩
  | case3 count span later ih =>
    obtain ⟨hlater, hend, -⟩ := spansWithin_tail h
    have hle : span.startLine ≤ span.position.endLine := span.position.ordered
    have hstop : span.position.endLine + 1 + (count - (span.position.endLine - span.startLine)) =
        span.startLine + count.succ := by omega
    rw [hstop] at ih
    rw [layoutFrom_span rfl]
    exact ⟨rfl, ih hlater⟩
  | case4 number count span later hstart ih =>
    rw [Nat.add_right_comm] at ih
    rw [layoutFrom_before hstart]
    exact ⟨rfl, ih (spansWithin_skip h hstart)⟩

theorem layoutFrom_lines (k : Nat) : ∀ number : Nat,
    layoutFrom number k [] = (List.range' number k).map .single := by
  induction k with
  | zero => intro number; rw [layoutFrom_zero]; rfl
  | succ k ih =>
    intro number
    rw [layoutFrom_line, ih, List.range'_succ, List.map_cons]

/-- Lines after the last region are blocks of their own. -/
theorem layoutFrom_append (k : Nat) {number count : Nat} {spans : List FreezeSpan}
    (h : MarkerRegistry.SpansWithin number (number + count) spans) :
    layoutFrom number (count + k) spans =
      layoutFrom number count spans ++ (List.range' (number + count) k).map .single := by
  induction number, count, spans using layoutFrom.induct with
  | case1 number spans =>
    cases spans with
    | nil => rw [layoutFrom_zero, Nat.zero_add, layoutFrom_lines]; rfl
    | cons span later =>
      have := h.2 span List.mem_cons_self
      omega
  | case2 number count ih =>
    have hstop : number + 1 + count = number + count.succ := by omega
    rw [hstop] at ih
    rw [Nat.succ_add, layoutFrom_line, layoutFrom_line, ih ⟨.nil, by simp⟩, List.cons_append]
  | case3 count span later ih =>
    obtain ⟨hlater, hend, -⟩ := spansWithin_tail h
    have hle : span.startLine ≤ span.position.endLine := span.position.ordered
    have hstop : span.position.endLine + 1 + (count - (span.position.endLine - span.startLine)) =
        span.startLine + count.succ := by omega
    have hrest : count + k - (span.position.endLine - span.startLine) =
        count - (span.position.endLine - span.startLine) + k := by omega
    rw [hstop] at ih
    rw [Nat.succ_add, layoutFrom_span rfl, layoutFrom_span rfl, hrest, ih hlater, List.cons_append]
  | case4 number count span later hstart ih =>
    have hstop : number + 1 + count = number + count.succ := by omega
    rw [hstop] at ih
    rw [Nat.succ_add, layoutFrom_before hstart, layoutFrom_before hstart,
      ih (spansWithin_skip h hstart), List.cons_append]

/-! ### Trees -/

theorem length_parents : ∀ (kinds : List Kind) (opened : List OpenHeading) (index : Nat),
    (parents opened index kinds).length = kinds.length
  | [], _, _ => rfl
  | kind :: rest, opened, index => by
    cases kind with
    | heading level => rw [parents, List.length_cons, length_parents rest, List.length_cons]
    | _ =>
      rw [parents, List.length_cons, length_parents rest, List.length_cons]
      simp

theorem toBlock_tree (bs : List Block) : (tree bs).map (·.toBlock) = bs := by
  have hlen : bs.length = (parents [] 0 (bs.map (·.kind))).length := by
    rw [length_parents, List.length_map]
  unfold tree
  rw [List.map_map]
  exact List.map_fst_zip (Nat.le_of_eq hlen)

theorem entry_all (t : Tree) : (Node.all t).map (·.entry) = t := by
  unfold Node.all
  rw [List.map_map]
  exact List.map_getElem_finRange t

theorem block_mem {bs : List Block} {n : Node} (h : n ∈ Node.all (tree bs)) :
    n.entry.toBlock ∈ bs := by
  have hentry : n.entry ∈ tree bs := by
    rw [← entry_all (tree bs)]
    exact List.mem_map_of_mem h
  rw [← toBlock_tree bs]
  exact List.mem_map_of_mem hentry

/-! ### Outlines -/

variable {markers : MarkerRegistry}

/-- What an outline that was read is made of. -/
theorem parse_ok {source : Text} {d : Document Node} (h : parse markers source = .ok d) :
    ∃ spans, markers.scan (Text.splitLines source) = .ok spans ∧
      d = .make source (Node.all (tree (blocks 1 (linesOf source) spans))) spans := by
  unfold parse at h
  rw [linesOf, MarkerRegistry.scan_map_of_trim Text.trim_chomp] at h
  split at h
  · cases h
  · next spans hspans => exact ⟨spans, hspans, (Except.ok.inj h).symm⟩

theorem parse_of_scan {source : Text} {spans : List FreezeSpan}
    (h : markers.scan (Text.splitLines source) = .ok spans) :
    ∃ d, parse markers source = .ok d := by
  refine ⟨.make source (Node.all (tree (blocks 1 (linesOf source) spans))) spans, ?_⟩
  unfold parse
  rw [linesOf, MarkerRegistry.scan_map_of_trim Text.trim_chomp, h]

theorem blocks_of_parse {source : Text} {d : Document Node} (h : parse markers source = .ok d) :
    d.nodes.map (·.entry.toBlock) = blocks 1 (d.lines.map Text.chomp) d.spans := by
  obtain ⟨spans, -, rfl⟩ := parse_ok h
  let bs := blocks 1 (linesOf source) spans
  calc (Node.all (tree bs)).map (·.entry.toBlock)
      = ((Node.all (tree bs)).map (·.entry)).map (·.toBlock) := by
        rw [List.map_map]
        rfl
    _ = bs := by rw [entry_all, toBlock_tree]

theorem position_of_parse {source : Text} {d : Document Node}
    (h : parse markers source = .ok d) :
    d.nodes.map NodeView.position = layoutFrom 1 d.lines.length d.spans := by
  calc d.nodes.map NodeView.position
      = (d.nodes.map (·.entry.toBlock)).map (·.position) := by
        rw [List.map_map]
        rfl
    _ = layoutFrom 1 d.lines.length d.spans := by
        rw [blocks_of_parse h, position_blocks, List.length_map]

theorem signature_of_line {n : Node} {number : Nat} {line : Text}
    (h : n.entry.toBlock = lineBlock number line) :
    signature n = some (signatureOfLine line) := by
  have hkind : n.entry.kind = classify line := congrArg Block.kind h
  have htext : n.entry.text = line := congrArg Block.text h
  have hne := classify_ne_freezeBlock line
  unfold signature signatureOfLine
  dsimp only
  rw [hkind, htext]
  cases hclass : classify line with
  | freezeBlock => exact absurd hclass hne
  | _ => rfl

theorem block_of_unfrozen {source : Text} {d : Document Node} (h : parse markers source = .ok d)
    {n : Node} (hn : n ∈ d.nodes) (hfrozen : ¬ d.Frozen n) :
    ∃ line, n.entry.toBlock = lineBlock line (Text.chomp (d.line line)) := by
  obtain ⟨spans, -, rfl⟩ := parse_ok h
  rcases mem_blocks (block_mem hn) with ⟨span, hspan, hposition⟩ | ⟨i, hi, hblock⟩
  · refine absurd ⟨span, hspan, ?_⟩ hfrozen
    have hown : NodeView.position n = span.position := hposition
    rw [hown, FreezeSpan.intersects, Position.intersects_iff]
    exact ⟨span.position.ordered, span.position.ordered⟩
  · have hlt : i < (Text.splitLines source).length := by
      rwa [linesOf, List.length_map] at hi
    have hline : (linesOf source)[i] = Text.chomp (Text.splitLines source)[i] := by
      simp only [linesOf, List.getElem_map]
    rw [hline, Nat.add_comm] at hblock
    exact ⟨i + 1, by rw [hblock, Document.line_of_lt hlt]; rfl⟩

theorem node_of_unfrozen {source : Text} {d : Document Node} (h : parse markers source = .ok d)
    {n : Node} (hn : n ∈ d.nodes) (hfrozen : ¬ d.Frozen n) :
    ∃ line, NodeView.position n = .single line ∧
      (format markers).faceOf n = faceOfLine (d.line line) ∧
      ((format markers).signature n).isSome = true ∧
      (format markers).carriesThrough n = false := by
  obtain ⟨line, hblock⟩ := block_of_unfrozen h hn hfrozen
  have hsignature := signature_of_line hblock
  have htext : n.entry.text = Text.chomp (d.line line) := congrArg Block.text hblock
  have hkind : n.entry.kind = classify (Text.chomp (d.line line)) := congrArg Block.kind hblock
  refine ⟨line, congrArg Block.position hblock, ?_, ?_, ?_⟩
  · show Face.mk (signature n) (Text.trimEnd n.entry.text) none = _
    rw [hsignature, htext]
    rfl
  · show (signature n).isSome = true
    rw [hsignature]
    rfl
  · show decide (n.entry.kind = .freezeBlock) = false
    rw [hkind]
    exact decide_eq_false (classify_ne_freezeBlock _)

/-- What an outline holds of its lines. -/
theorem lines_of_parse {source : Text} {d : Document Node} (h : parse markers source = .ok d) :
    d.lines = Text.splitLines source ∧ markers.scan d.lines = .ok d.spans ∧
      d.nodes.map NodeView.position = layoutFrom 1 d.lines.length d.spans := by
  have hposition := position_of_parse h
  obtain ⟨spans, hspans, rfl⟩ := parse_ok h
  exact ⟨rfl, hspans, hposition⟩

theorem tiles_of_parse {source : Text} {d : Document Node} (h : parse markers source = .ok d) :
    Tiles (d.lineCount + 1) 1 (d.nodes.map NodeView.position) := by
  obtain ⟨-, hscan, hposition⟩ := lines_of_parse h
  rw [hposition, Nat.add_comm, Document.lineCount]
  exact tiles_layoutFrom (MarkerRegistry.spansWithin_scan hscan)

theorem layoutFrom_replicate {spans : List FreezeSpan} {flags : List Bool} (k : Nat)
    (h : MarkerRegistry.SpansWithin 1 (1 + flags.length) spans) :
    layoutFrom 1 (flags ++ List.replicate k true).length spans =
      layoutFrom 1 flags.length spans ++ (List.range' (1 + flags.length) k).map .single := by
  rw [List.length_append, List.length_replicate]
  exact layoutFrom_append k h

/-- Outlines are read line by line. -/
def linewise (markers : MarkerRegistry) : Linewise (format markers) markers where
  reads _ := true
  makes _ := true
  face := faceOfLine
  layout spans flags := layoutFrom 1 flags.length spans
  reads_close _ := rfl
  makes_close _ := rfl
  face_close := faceOfLine_close
  of_parse h := by
    obtain ⟨hlines, hspans, hposition⟩ := lines_of_parse h
    rw [List.length_map]
    exact ⟨hlines, hspans, fun _ _ => rfl, hposition⟩
  parse_of hspans _ := parse_of_scan hspans
  of_unfrozen h hn hfrozen := by
    obtain ⟨line, hposition, hface, hsigned, hloose⟩ := node_of_unfrozen h hn hfrozen
    exact ⟨line, hposition, rfl, hface, hsigned, hloose⟩
  ordered h := .of_lt (layoutFrom_ordered h)
  layout_append := layoutFrom_replicate

end Outline

end TemplateMerge
