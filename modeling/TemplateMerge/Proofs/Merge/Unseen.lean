import TemplateMerge.Proofs.Format.OutlineFrame
import TemplateMerge.Proofs.Merge.Alike
import TemplateMerge.Proofs.Text.Blocks

/-! What is inside a frozen region is never seen.

    A region of an outline is one statement, and it is frozen.  With another inside all other
    statements still read the same, and only those after it stand elsewhere.  So two merges that
    differ in nothing but the inside of a region see the same: a region of the destination is copied
    with whatever is inside, and one of the template is left out.

        destination     a   ▒▒▒▒▒   b                a   ▓▓   b
        written         x   ▒▒▒▒▒   y                x   ▓▓   y -/

namespace TemplateMerge

namespace Document

variable {N : Type}

/-- The inside of a region. -/
def inside (d : Document N) (span : FreezeSpan) : Text :=
  d.sourceRange (span.startLine + 1) (span.endLine - 1)

/-- A region with another inside. -/
def regionWith (d : Document N) (span : FreezeSpan) (new : Text) : Text :=
  d.line span.startLine ++ new ++ d.line span.endLine

/-- The text of the document with another inside of a region. -/
def withInside (d : Document N) (span : FreezeSpan) (new : Text) : Text :=
  d.sourceRange 1 (span.startLine - 1) ++ d.regionWith span new ++
    d.sourceRange (span.endLine + 1) d.lineCount

end Document

/-! ### Statements with no line between -/

namespace Merger

variable {N : Type} [NodeView N] {m : Merger N} {td dd : Document N}

theorem blocks_bodyPieces (m : Merger N) (template destination : Prepared N) {lastLine : Nat}
    {zs : List (Statement N × Slot N)} : ∀ {next : Nat},
    Tiles (lastLine + 1) next (zs.map (·.1.position)) →
    (m.bodyPieces template destination lastLine next zs).map (·.block) =
      zs.map fun z => (m.pieceOf template destination z.1 z.2).block := by
  induction zs with
  | nil =>
    intro next h
    have hnext : next = lastLine + 1 := h
    rw [bodyPieces, gap, if_neg (by omega)]
    rfl
  | cons z zs ih =>
    intro next h
    rw [List.map_cons] at h
    obtain ⟨hstart, hrest⟩ := h
    have hordered := z.1.position.ordered
    rw [bodyPieces, if_neg (by omega), Nat.max_eq_right (by omega), List.nil_append,
      List.map_cons, ih hrest, List.map_cons]

/-- The blocks of the statements of a whole merge. -/
def ownBlocks (m : Merger N) (td dd : Document N) : List Text :=
  ((statements dd.nodes).zip (m.paired td dd).1).map fun z =>
    (m.pieceOf (.make m.format td) (.make m.format dd) z.1 z.2).block

/-- The blocks of what a whole merge adds. -/
def addedBlocks (m : Merger N) (td dd : Document N) : List Text :=
  (if m.options.addTemplateOnly then addedPieces (.make m.format td) (m.paired td dd).2
  else []).map (·.block)

/-- Where no line is between statements, the text is put together of their blocks and of what is
    added. -/
theorem content_of_tiles (h : Tiles (dd.lineCount + 1) 1 (dd.nodes.map NodeView.position)) :
    (Outcome.ofPieces (m.wholePieces td dd)).content =
      Text.assemble (m.ownBlocks td dd ++ m.addedBlocks td dd) := by
  have hzip : ((statements dd.nodes).zip (m.paired td dd).1).map (·.1.position) =
      dd.nodes.map NodeView.position := by
    have hfst := List.map_fst_zip (Nat.le_of_eq (m.kept_paired td dd).fits.length_eq)
    conv_rhs => rw [← map_position_statements dd.nodes, ← hfst, List.map_map]
    rfl
  rw [← hzip] at h
  have hbody := m.blocks_bodyPieces (.make m.format td) (.make m.format dd) h
  show Text.assemble (List.map _ (_ ++ _)) = _
  rw [List.map_append]
  exact congrArg (fun b => Text.assemble (b ++ _)) hbody

variable {td' dd' : Document N}

theorem addedBlocks_alike (ht : DocumentsAlike m.format td td')
    (hd : DocumentsAlike m.format dd dd') : m.addedBlocks td' dd' = m.addedBlocks td dd := by
  have hfree := Pairing.freeStatements_alike ht
    fun j hj => (((m.kept_paired td dd).free j).1 hj).1
  unfold addedBlocks
  rw [(m.paired_alike ht hd).2]
  cases m.options.addTemplateOnly with
  | false => rfl
  | true =>
    rw [if_pos rfl, if_pos rfl, addedPieces, addedPieces, List.map_map, List.map_map]
    exact (map_eq_of_forall₂ hfree fun x x' h => h.2.slice.symm).symm

theorem length_ownBlocks (m : Merger N) (td dd : Document N) :
    (m.ownBlocks td dd).length = dd.nodes.length := by
  rw [ownBlocks, List.length_map, List.length_zip, ← (m.kept_paired td dd).fits.length_eq,
    Nat.min_self, length_statements]

theorem getElem?_ownBlocks (m : Merger N) (td : Document N) {i : Nat} {x : Statement N}
    (hx : (statements dd.nodes)[i]? = some x) :
    ∃ slot, (m.paired td dd).1[i]? = some slot ∧
      Pairing.Fits m.format (.make m.format dd) x slot ∧
      (m.ownBlocks td dd)[i]? =
        some (m.pieceOf (.make m.format td) (.make m.format dd) x slot).block := by
  obtain ⟨slot, hslot, hfits⟩ := Pairing.exists_getElem?_of_forall₂ (m.kept_paired td dd).fits hx
  have hzip : ((statements dd.nodes).zip (m.paired td dd).1)[i]? = some (x, slot) :=
    List.getElem?_zip_eq_some.2 ⟨hx, hslot⟩
  refine ⟨slot, hslot, hfits, ?_⟩
  rw [ownBlocks, List.getElem?_map, hzip]
  rfl

theorem getElem?_ownBlocks_none (m : Merger N) (td : Document N) {i : Nat}
    (h : (statements dd.nodes)[i]? = none) : (m.ownBlocks td dd)[i]? = none := by
  rw [List.getElem?_eq_none_iff, length_statements] at h
  rwa [List.getElem?_eq_none_iff, length_ownBlocks]

theorem getElem?_ownBlocks_frozen (m : Merger N) (td : Document N) {i : Nat} {x : Statement N}
    (hx : (statements dd.nodes)[i]? = some x) (hfrozen : dd.Frozen x.node) :
    (m.ownBlocks td dd)[i]? = some (dd.slice x.position) := by
  obtain ⟨slot, -, hfits, hblock⟩ := m.getElem?_ownBlocks td hx
  rw [hblock, hfits.eq_frozen hfrozen]
  rfl

/-- The blocks of statements that are alike are the same, where their own lines are. -/
theorem getElem?_ownBlocks_alike (ht : DocumentsAlike m.format td td')
    (hd : DocumentsAlike m.format dd dd') {i : Nat} {x x' : Statement N}
    (hx : (statements dd.nodes)[i]? = some x) (hx' : (statements dd'.nodes)[i]? = some x')
    (hslice : dd'.slice x'.position = dd.slice x.position) :
    (m.ownBlocks td' dd')[i]? = (m.ownBlocks td dd)[i]? := by
  obtain ⟨slot, hslot, hfits, hblock⟩ := m.getElem?_ownBlocks td hx
  obtain ⟨slot', hslot', -, hblock'⟩ := m.getElem?_ownBlocks td' hx'
  obtain ⟨y, hy, halike⟩ := Pairing.exists_getElem?_of_forall₂ hd hx
  obtain ⟨other, hother, hslots⟩ := Pairing.exists_getElem?_of_forall₂
    (m.paired_alike ht hd).1 hslot
  rw [hx'] at hy
  rw [hslot'] at hother
  rw [← Option.some.inj hy] at halike
  rw [← Option.some.inj hother] at hslots
  rw [hblock, hblock', block_pieceOf_alike halike hfits hslots hslice]

/-- Where a template is as good as another, it is merged to the same text. -/
theorem content_alike_template (m : Merger N) (ht : DocumentsAlike m.format td td')
    (htiles : Tiles (dd.lineCount + 1) 1 (dd.nodes.map NodeView.position)) :
    (Outcome.ofPieces (m.wholePieces td' dd)).content =
      (Outcome.ofPieces (m.wholePieces td dd)).content := by
  have hrefl := DocumentsAlike.refl m.format dd
  have hown : m.ownBlocks td' dd = m.ownBlocks td dd := by
    refine List.ext_getElem? fun i => ?_
    cases hx : (statements dd.nodes)[i]? with
    | some x => exact getElem?_ownBlocks_alike ht hrefl hx hx rfl
    | none => rw [getElem?_ownBlocks_none m td' hx, getElem?_ownBlocks_none m td hx]
  rw [content_of_tiles htiles, content_of_tiles htiles, hown, addedBlocks_alike ht hrefl]

end Merger

namespace Outline

variable {markers : MarkerRegistry}

/-! ### Outlines with another inside of a region -/

theorem getElem?_cells {d : Document Node} {i : Nat} {x : Statement Node}
    (hx : (statements d.nodes)[i]? = some x) :
    (cells d)[i]? = some (x.node.entry.toBlock.cell d.lines) := by
  rw [getElem?_statements] at hx
  obtain ⟨n, hn, rfl⟩ := Option.map_eq_some_iff.1 hx
  rw [cells, List.getElem?_map, hn]
  rfl

/-- Nodes that read the same look the same, unless they are frozen. -/
theorem sameSight_of_cell {d d' : Document Node} {x x' : Statement Node}
    (h : x'.node.entry.toBlock.cell d'.lines = x.node.entry.toBlock.cell d.lines)
    (hkind : x.node.entry.kind ≠ .freezeBlock) : SameSight (format markers) d d' x x' := by
  obtain ⟨hsame, htext, hslice⟩ := Cell.mk.inj h
  have hsame : x'.node.entry.kind = x.node.entry.kind := hsame
  have htext : x'.node.entry.text = x.node.entry.text := htext
  have hsignature : signature x'.node = signature x.node := by
    unfold signature
    dsimp only
    rw [hsame, htext]
    cases hown : x.node.entry.kind with
    | freezeBlock => exact absurd hown hkind
    | _ => rfl
  refine ⟨?_, congrArg Kind.name hsame, htext, ?_, hslice⟩
  · exact congrArg (fun k => decide (k = Kind.freezeBlock)) hsame
  · show Face.mk (signature x'.node) (Text.trimEnd x'.node.entry.text) none = _
    rw [hsignature, htext]
    rfl

/-- Where the region is among the nodes. -/
def regionIndex (f : markers.Frame) : Nat := (cellsOf f.before f.spansBefore).length

/-- With another inside only the cell of the region is another. -/
theorem cells_exchanged {f : markers.Frame} {inside new : List Text} {d d' : Document Node}
    (h : FramedBy f inside d) (h' : FramedBy f new d') :
    (cells d)[regionIndex f]? = some (frozenCell f inside) ∧
      cells d' = (cells d).set (regionIndex f) (frozenCell f new) := by
  rw [h.cells, h'.cells, frameCells, frameCells, regionIndex]
  constructor
  · rw [List.getElem?_append_right (Nat.le_refl _), Nat.sub_self, List.getElem?_cons_zero]
  · rw [List.set_append_right _ _ (Nat.le_refl _), Nat.sub_self, List.set_cons_zero]

variable {s s' : Text} {d d' : Document Node} {f : markers.Frame} {inside new : List Text}

/-- The statement of the region is frozen, and its lines are the region. -/
theorem region_statement (hd : parse markers s = .ok d) (h : FramedBy f inside d) :
    ∃ x, (statements d.nodes)[regionIndex f]? = some x ∧ d.Frozen x.node ∧
      d.slice x.position = f.opening ++ inside.flatten ++ f.closing := by
  have hcell := (cells_exchanged h h).1
  obtain ⟨n, hn, hown⟩ := Option.map_eq_some_iff.1 (List.getElem?_map ▸ hcell)
  obtain ⟨hkind, -, hslice⟩ := Cell.mk.inj hown
  refine ⟨⟨regionIndex f, n⟩, by rw [getElem?_statements, hn]; rfl, ?_, hslice⟩
  exact (frozen_iff hd (List.mem_of_getElem? hn)).2 hkind

theorem cell_of_ne (h : FramedBy f inside d) (h' : FramedBy f new d') {i : Nat}
    (hi : i ≠ regionIndex f) {x x' : Statement Node} (hx : (statements d.nodes)[i]? = some x)
    (hx' : (statements d'.nodes)[i]? = some x') :
    x'.node.entry.toBlock.cell d'.lines = x.node.entry.toBlock.cell d.lines := by
  have hcell' := getElem?_cells hx'
  rw [(cells_exchanged h h').2, List.getElem?_set_ne hi.symm, getElem?_cells hx] at hcell'
  exact (Option.some.inj hcell').symm

theorem length_nodes_exchanged (h : FramedBy f inside d) (h' : FramedBy f new d') :
    d'.nodes.length = d.nodes.length := by
  have hlength := congrArg List.length (cells_exchanged h h').2
  rwa [List.length_set, cells, cells, List.length_map, List.length_map] at hlength

/-- No merge tells outlines apart that differ in the inside of a region. -/
theorem alike_of_framed (hd : parse markers s = .ok d) (hd' : parse markers s' = .ok d')
    (h : FramedBy f inside d) (h' : FramedBy f new d') :
    DocumentsAlike (format markers) d d' := by
  have hlength := length_nodes_exchanged h h'
  refine Pairing.forall₂_of_getElem? (by simp [hlength]) fun i x x' hx hx' => ?_
  have hindex := numberedFrom_statements d.nodes i x hx
  have hindex' := numberedFrom_statements d'.nodes i x' hx'
  have hnode : x.node ∈ d.nodes := List.mem_of_getElem? (getElem?_nodes (List.mem_of_getElem? hx))
  have hnode' : x'.node ∈ d'.nodes :=
    List.mem_of_getElem? (getElem?_nodes (List.mem_of_getElem? hx'))
  by_cases hi : i = regionIndex f
  · obtain ⟨y, hy, hfrozen, -⟩ := region_statement hd h
    obtain ⟨y', hy', hfrozen', -⟩ := region_statement hd' h'
    rw [hi] at hx hx'
    rw [← Option.some.inj (hx.symm.trans hy)] at hfrozen
    rw [← Option.some.inj (hx'.symm.trans hy')] at hfrozen'
    exact ⟨List.mem_of_getElem? hx, List.mem_of_getElem? hx', hindex'.trans hindex.symm,
      iff_of_true hfrozen' hfrozen, fun hnot => absurd hfrozen hnot⟩
  · have hcell := cell_of_ne h h' hi hx hx'
    have hkind : x'.node.entry.kind = x.node.entry.kind := congrArg Cell.kind hcell
    refine ⟨List.mem_of_getElem? hx, List.mem_of_getElem? hx', hindex'.trans hindex.symm, ?_,
      fun hnot => sameSight_of_cell hcell fun hfreeze => hnot ?_⟩
    · rw [frozen_iff hd' hnode', frozen_iff hd hnode, hkind]
    · exact (frozen_iff hd hnode).2 hfreeze

/-- Beside the block of the region, a merge into an outline with another inside has the same
    blocks. -/
theorem ownBlocks_exchanged {m : Merger Node} (td : Document Node)
    (hformat : m.format = format markers) (hd : parse markers s = .ok d)
    (hd' : parse markers s' = .ok d') (h : FramedBy f inside d) (h' : FramedBy f new d') :
    (m.ownBlocks td d)[regionIndex f]? = some (f.opening ++ inside.flatten ++ f.closing) ∧
      m.ownBlocks td d' =
        (m.ownBlocks td d).set (regionIndex f) (f.opening ++ new.flatten ++ f.closing) := by
  obtain ⟨x, hx, hfrozen, hslice⟩ := region_statement hd h
  obtain ⟨x', hx', hfrozen', hslice'⟩ := region_statement hd' h'
  have hown := m.getElem?_ownBlocks_frozen td hx hfrozen
  have hown' := m.getElem?_ownBlocks_frozen td hx' hfrozen'
  rw [hslice] at hown
  rw [hslice'] at hown'
  refine ⟨hown, List.ext_getElem? fun i => ?_⟩
  by_cases hi : i = regionIndex f
  · rw [hi, hown', List.getElem?_set_self (List.getElem?_eq_some_iff.1 hown).1]
  · rw [List.getElem?_set_ne (Ne.symm hi)]
    have halike : DocumentsAlike m.format d d' := hformat ▸ alike_of_framed hd hd' h h'
    cases hy : (statements d.nodes)[i]? with
    | none =>
      have hy' : (statements d'.nodes)[i]? = none := by
        rwa [List.getElem?_eq_none_iff, ← halike.length_eq, ← List.getElem?_eq_none_iff]
      rw [m.getElem?_ownBlocks_none td hy', m.getElem?_ownBlocks_none td hy]
    | some y =>
      obtain ⟨y', hy', -⟩ := Pairing.exists_getElem?_of_forall₂ halike hy
      exact Merger.getElem?_ownBlocks_alike (DocumentsAlike.refl m.format td) halike hy hy'
        (congrArg Cell.slice (cell_of_ne h h' hi hy hy'))

/-- A region is copied with whatever is inside, between what is written in any case. -/
theorem content_exchanged (m : Merger Node) (td : Document Node)
    (hformat : m.format = format markers) (hd : parse markers s = .ok d)
    (hd' : parse markers s' = .ok d') (h : FramedBy f inside d) (h' : FramedBy f new d') :
    ∃ x y, (Outcome.ofPieces (m.wholePieces td d)).content =
        x ++ (f.opening ++ inside.flatten ++ f.closing) ++ y ∧
      (Outcome.ofPieces (m.wholePieces td d')).content =
        x ++ (f.opening ++ new.flatten ++ f.closing) ++ y := by
  obtain ⟨hblock, hblocks⟩ := ownBlocks_exchanged td hformat hd hd' h h'
  have hclosing : f.closing ≠ [] := by
    refine (d.areLines.1 f.closing ?_).ne_nil
    rw [h.lines]
    simp [MarkerRegistry.Frame.lines]
  have halike : DocumentsAlike m.format d d' := hformat ▸ alike_of_framed hd hd' h h'
  rw [Merger.content_of_tiles (tiles_of_parse hd), Merger.content_of_tiles (tiles_of_parse hd'),
    hblocks, Merger.addedBlocks_alike (DocumentsAlike.refl m.format td) halike]
  refine Text.exists_assemble_set hblock ?_ ?_ ?_ _
  · simp [hclosing]
  · simp [hclosing]
  · rw [Text.isOpen_append hclosing, Text.isOpen_append hclosing]

/-! ### A document around the inside of a region -/

theorem line_opening (h : FramedBy f inside d) : d.line (f.span inside).startLine = f.opening := by
  show (d.lines[f.before.length + 1 - 1]?).getD [] = _
  rw [h.lines, Nat.add_sub_cancel, MarkerRegistry.Frame.lines,
    List.getElem?_append_right (Nat.le_refl _), Nat.sub_self]
  rfl

theorem line_closing (h : FramedBy f inside d) : d.line (f.span inside).endLine = f.closing := by
  have hplace : (f.span inside).endLine - 1 = (f.before ++ [f.opening] ++ inside).length := by
    simp only [MarkerRegistry.Frame.span, MarkerRegistry.Frame.stop, List.length_append,
      List.length_cons, List.length_nil]
    omega
  rw [Document.line, h.lines, f.lines_eq, hplace, List.getElem?_append_right (Nat.le_refl _),
    Nat.sub_self]
  rfl

theorem regionWith_span (h : FramedBy f inside d) (text : Text) :
    d.regionWith (f.span inside) text = f.opening ++ text ++ f.closing := by
  rw [Document.regionWith, line_opening h, line_closing h]

theorem inside_span (h : FramedBy f inside d) : d.inside (f.span inside) = inside.flatten := by
  have hstop : (f.span inside).endLine - 1 = (f.before ++ [f.opening] ++ inside).length := by
    simp only [MarkerRegistry.Frame.span, MarkerRegistry.Frame.stop, List.length_append,
      List.length_cons, List.length_nil]
    omega
  have hstart : (f.span inside).startLine + 1 - 1 = (f.before ++ [f.opening]).length := by
    simp only [MarkerRegistry.Frame.span, List.length_append, List.length_cons, List.length_nil]
    omega
  rw [Document.inside, Document.sourceRange, h.lines, f.lines_eq, hstop, hstart, List.take_left,
    List.drop_left]

theorem withInside_span (h : FramedBy f inside d) (text : Text) :
    d.withInside (f.span inside) text = (f.lines (Text.splitLines text)).flatten := by
  have hbefore : d.sourceRange 1 ((f.span inside).startLine - 1) = f.before.flatten := by
    show ((d.lines.take (f.before.length + 1 - 1)).drop (1 - 1)).flatten = _
    rw [h.lines, Nat.add_sub_cancel, Nat.sub_self, List.drop_zero, MarkerRegistry.Frame.lines,
      List.take_left]
  have hafter : d.sourceRange ((f.span inside).endLine + 1) d.lineCount = f.after.flatten := by
    show ((d.lines.take d.lines.length).drop (f.stop inside + 1 - 1)).flatten = _
    rw [List.take_length, h.lines, f.lines_eq_upTo, Nat.add_sub_cancel, ← f.length_upTo,
      List.drop_left]
  rw [Document.withInside, hbefore, hafter, regionWith_span h]
  simp [MarkerRegistry.Frame.lines]

theorem withInside_inside (hd : parse markers s = .ok d) {span : FreezeSpan}
    (hspan : span ∈ d.spans) : d.withInside span (d.inside span) = s := by
  obtain ⟨f, inside, h, rfl⟩ := exists_framedBy hd hspan
  have hlines := d.areLines
  rw [h.lines, f.lines_eq] at hlines
  rw [withInside_span h, inside_span h,
    Text.splitLines_flatten hlines.of_append_left.of_append_right, ← h.lines,
    (lines_of_parse hd).1, Text.flatten_splitLines]

/-- With another inside of a region there is another outline, in the same frame. -/
theorem parse_withInside (hd : parse markers s = .ok d) {span : FreezeSpan} (hspan : span ∈ d.spans)
    {text : Text} (htext : markers.Unmarked text) :
    ∃ (f : markers.Frame) (inside : List Text) (d' : Document Node),
      parse markers (d.withInside span text) = .ok d' ∧ span = f.span inside ∧
        FramedBy f inside d ∧ FramedBy f (Text.splitLines text) d' := by
  obtain ⟨f, inside, h, rfl⟩ := exists_framedBy hd hspan
  obtain ⟨d', hd', h'⟩ := parse_exchanged h htext
  exact ⟨f, inside, d', by rw [withInside_span h]; exact hd', rfl, h, h'⟩

end Outline

/-- Nothing of what is inside a region is seen when outlines are merged.  With other ended lines
    inside a region of the destination, the text is the same before and after the region, and with
    others inside a region of the template it is the same throughout; the logs say the same but for
    the numbers of lines. -/
theorem frozen_inside_unseen (markers : MarkerRegistry) (options : MergeOptions) {t d new : Text}
    {td dd : Document Outline.Node} (hs : options.strategy = .nodePair)
    (ht : (Outline.format markers).parse t = .ok td)
    (hd : (Outline.format markers).parse d = .ok dd) (hnew : markers.Unmarked new) :
    ∃ o, Merger.merge ⟨Outline.format markers, options⟩ t d = .ok o ∧
      (∀ span ∈ dd.spans, d = dd.withInside span (dd.inside span) ∧
        ∃ o' x y, Merger.merge ⟨Outline.format markers, options⟩ t (dd.withInside span new) =
            .ok o' ∧
          o.content = x ++ dd.regionWith span (dd.inside span) ++ y ∧
          o'.content = x ++ dd.regionWith span new ++ y ∧
          o'.decisions.map Decision.unlined = o.decisions.map Decision.unlined) ∧
      (∀ span ∈ td.spans, t = td.withInside span (td.inside span) ∧
        ∃ o', Merger.merge ⟨Outline.format markers, options⟩ (td.withInside span new) d =
            .ok o' ∧
          o'.content = o.content ∧ o'.changed = o.changed ∧
          o'.decisions.map Decision.unlined = o.decisions.map Decision.unlined) := by
  let m : Merger Outline.Node := ⟨Outline.format markers, options⟩
  have hbatch : m.options.strategy ≠ .batch := by rw [hs]; decide
  have hmerge := Merger.merge_eq (m := m) ht hd hbatch
  refine ⟨_, hmerge, fun span hspan => ?_, fun span hspan => ?_⟩
  · obtain ⟨f, inside, dd', hd', rfl, h, h'⟩ := Outline.parse_withInside hd hspan hnew
    obtain ⟨x, y, hcontent, hcontent'⟩ :=
      Outline.content_exchanged m td rfl hd hd' h h'
    refine ⟨(Outline.withInside_inside hd hspan).symm, _, x, y, Merger.merge_eq ht hd' hbatch, ?_,
      ?_, ?_⟩
    · rw [Outline.regionWith_span h, Outline.inside_span h]
      exact hcontent
    · rw [Outline.regionWith_span h, ← Text.flatten_splitLines new]
      exact hcontent'
    · exact Merger.unlined_decisions (DocumentsAlike.refl m.format td)
        (Outline.alike_of_framed hd hd' h h')
  · obtain ⟨f, inside, td', ht', rfl, h, h'⟩ := Outline.parse_withInside ht hspan hnew
    have halike : DocumentsAlike m.format td td' := Outline.alike_of_framed ht ht' h h'
    have hcontent := m.content_alike_template halike (Outline.tiles_of_parse hd)
    refine ⟨(Outline.withInside_inside ht hspan).symm, _, Merger.merge_eq ht' hd hbatch, hcontent,
      ?_, Merger.unlined_decisions halike (DocumentsAlike.refl m.format dd)⟩
    show decide _ = decide _
    rw [hcontent]

/-- A region gets longer on either side, and the refiner makes the same pair after it. -/
theorem frozen_inside_unseen_longer :
    let refiner : Refiner := ⟨Refiner.standardThreshold, .standard, []⟩
    let options : MergeOptions := ⟨.everywhere .template, true, .none, some refiner, .nodePair⟩
    let m : Merger Outline.Node := ⟨Outline.format .builtin, options⟩
    let t := "# structmerge:freeze\n# structmerge:unfreeze\nabcdefghij".toList
    let t' := "# structmerge:freeze\n# A\n\n# structmerge:unfreeze\nabcdefghij".toList
    let d := "# structmerge:freeze\nx\n# structmerge:unfreeze\nabcklmnopq\n".toList
    let d' := "# structmerge:freeze\n# A\n\n# structmerge:unfreeze\nabcklmnopq\n".toList
    let new := "# A\n\n".toList
    (∃ td, m.format.parse t = .ok td) ∧ (∃ dd, m.format.parse d = .ok dd) ∧
      options.strategy = .nodePair ∧ MarkerRegistry.builtin.Unmarked new ∧
      ∃ o od ot, m.merge t d = .ok o ∧ m.merge t d' = .ok od ∧ m.merge t' d = .ok ot ∧
        o.content = "# structmerge:freeze\nx\n# structmerge:unfreeze\nabcdefghij".toList ∧
        ot.content = o.content ∧ ot.changed = o.changed ∧
        od.decisions.map Decision.unlined = o.decisions.map Decision.unlined ∧
        ot.decisions.map Decision.unlined = o.decisions.map Decision.unlined := by
  intro refiner options m t t' d d' new
  have hcontent : (m.merge t d).toOption.map (·.content) =
      some "# structmerge:freeze\nx\n# structmerge:unfreeze\nabcdefghij".toList := by
    decide +kernel
  have htexts : (m.format.parse t).toOption.map (fun e => e.spans.map (e.withInside · new)) =
      some [t'] := by decide +kernel
  have hdtexts : (m.format.parse d).toOption.map (fun e => e.spans.map (e.withInside · new)) =
      some [d'] := by decide +kernel
  obtain ⟨td, ht⟩ : ∃ td, m.format.parse t = .ok td := ⟨_, rfl⟩
  obtain ⟨dd, hd⟩ : ∃ dd, m.format.parse d = .ok dd := ⟨_, rfl⟩
  have hnew : MarkerRegistry.builtin.Unmarked new := ⟨by decide, by decide +kernel⟩
  rw [ht] at htexts
  rw [hd] at hdtexts
  obtain ⟨spant, hspant, httext⟩ := List.mem_map.1
    (Option.some.inj htexts ▸ List.mem_singleton_self t')
  obtain ⟨spand, hspand, hdtext⟩ := List.mem_map.1
    (Option.some.inj hdtexts ▸ List.mem_singleton_self d')
  obtain ⟨o, ho, hdestination, htemplate⟩ :=
    frozen_inside_unseen .builtin options rfl ht hd hnew
  have ho : m.merge t d = .ok o := ho
  obtain ⟨-, od, -, -, hod, -, -, hlogd⟩ := hdestination spand hspand
  obtain ⟨-, ot, hot, hsame, hchanged, hlogt⟩ := htemplate spant hspant
  rw [hdtext] at hod
  rw [httext] at hot
  rw [ho] at hcontent
  exact ⟨⟨td, ht⟩, ⟨dd, hd⟩, rfl, hnew, o, od, ot, ho, hod, hot, Option.some.inj hcontent, hsame,
    hchanged, hlogd, hlogt⟩

end TemplateMerge
