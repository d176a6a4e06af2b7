import TemplateMerge.Proofs.Format.OutlineInsertion
import TemplateMerge.Proofs.Format.OutlineSection
import TemplateMerge.Proofs.Merge.Insertion

/-! Insertions without headings leave the tree of an outline as it is.

    An insertion is a splice: the lines up to the seam, the new lines, the other lines.  Regions are
    not cut, so the blocks of the outline are cut where its lines are, and each new line is a block
    in between.  None of these is a heading, so every other node says what it said and hangs under
    the node that it hung under.

        lines           # A     text    ## B    more
        seam                ▲
        read again      # A     new     text    ## B    more

    What goes below a heading first follows the line of the heading, so it becomes the first of what
    hangs there. -/

namespace TemplateMerge

namespace Outline

variable {markers : MarkerRegistry} {source content : Text} {d d' : Document Node}

/-- What a line outside frozen regions says. -/
def readingOfLine (l : Text) : Kind × Text := (classify (Text.chomp l), Text.chomp l)

/-- A statement that is not frozen says what its line says. -/
theorem reading_of_unfrozen (h : parse markers source = .ok d) {x : Statement Node}
    (hx : x ∈ d.unfrozen) :
    x.node.entry.toBlock.reading = readingOfLine (d.line x.position.startLine) := by
  obtain ⟨hmem, hfrozen⟩ := List.mem_filter.1 hx
  obtain ⟨line, hblock⟩ := block_of_unfrozen h (List.mem_of_getElem? (getElem?_nodes hmem))
    (of_decide_eq_true hfrozen)
  have hstart : x.position.startLine = line :=
    congrArg (fun b : Block => b.position.startLine) hblock
  rw [hblock, hstart]
  rfl

/-- Lines without regions say what each of them says. -/
theorem reading_blocks (number : Nat) (lines : List Text) :
    (blocks number (lines.map Text.chomp) []).map Block.reading = lines.map readingOfLine := by
  induction lines generalizing number with
  | nil => rw [List.map_nil, blocks_nil]; rfl
  | cons line rest ih =>
    rw [List.map_cons, blocks_line, List.map_cons, ih, List.map_cons]
    rfl

/-- Lines that are put between others, where no region is open, are blocks in between. -/
theorem blocks_splice {a b new : List Text} {sa sb : List FreezeSpan}
    (ha : MarkerRegistry.SpansWithin 1 (1 + a.length) sa)
    (hb : ∀ s ∈ sb, 1 + a.length ≤ s.startLine) :
    blocks 1 (a ++ (new ++ b)) (sa ++ sb.map (·.shift new.length)) =
      blocks 1 a sa ++ (blocks (1 + a.length) new [] ++
        (blocks (1 + a.length) b sb).map (Block.shift new.length)) := by
  have hlater : ∀ s ∈ sb.map (·.shift new.length),
      1 + a.length + new.length ≤ s.startLine := by
    intro s hs
    obtain ⟨own, hown, rfl⟩ := List.mem_map.1 hs
    exact Nat.add_le_add_right (hb own hown) new.length
  have hnew : blocks (1 + a.length) (new ++ b) ([] ++ sb.map (·.shift new.length)) =
      blocks (1 + a.length) new [] ++
        (blocks (1 + a.length) b sb).map (Block.shift new.length) := by
    rw [blocks_append ⟨.nil, by simp⟩ hlater, blocks_shift]
  rw [blocks_append ha fun s hs => Nat.le_trans (Nat.le_add_right _ _) (hlater s hs), ← hnew,
    List.nil_append]

/-- The blocks of a document into which lines have been put: those of the document, which is cut
    where its lines are, and the new lines. -/
theorem exists_cut_of_spliced {place : Nat} {new : List Text}
    (h : Spliced (linewise markers) d place d.line new content)
    (hd : parse markers source = .ok d) (hd' : parse markers content = .ok d') :
    ∃ front back, d.nodes.map (·.entry.toBlock) = front ++ back ∧
      (∀ b ∈ front, b.position.endLine < 1 + place) ∧
      (∀ b ∈ back, 1 + place ≤ b.position.startLine) ∧
      readings d' =
        front.map Block.reading ++ (new.map readingOfLine ++ back.map Block.reading) := by
  obtain ⟨sa, sb, hspans, hsa, hsb, hscan⟩ := h.scan hd
  have hplace := h.place_le
  -- the lines and the regions of both documents
  obtain ⟨a, ha⟩ : ∃ a, ((List.range' 1 place).map d.line).map Text.chomp = a := ⟨_, rfl⟩
  obtain ⟨b, hb⟩ : ∃ b, ((List.range' (1 + place) (d.lineCount - place)).map d.line).map
    Text.chomp = b := ⟨_, rfl⟩
  have hlengthA : a.length = place := by
    rw [← ha, List.length_map, List.length_map, List.length_range']
  have hlengthB : b.length = d.lineCount - place := by
    rw [← hb, List.length_map, List.length_map, List.length_range']
  have hlines : d.lines.map Text.chomp = a ++ b := by
    rw [Document.lines_eq_cut hplace, List.map_append, ha, hb]
  have hlines' : d'.lines.map Text.chomp = a ++ (new.map Text.chomp ++ b) := by
    rw [(lines_of_parse hd').1, h.lines, Text.map_sealLines Text.chomp_close, List.map_append,
      List.map_append, ha, hb, List.append_assoc]
  have hspans' : d'.spans = sa ++ sb.map (·.shift (new.map Text.chomp).length) := by
    have hown := (lines_of_parse hd').2.1
    rw [(lines_of_parse hd').1, hscan] at hown
    rw [List.length_map]
    exact (Except.ok.inj hown).symm
  -- their blocks
  rw [← hlengthA] at hsa hsb ⊢
  have hlater : ∀ s ∈ sb, 1 + a.length ≤ s.startLine := fun s hs => (hsb.2 s hs).1
  have hback : MarkerRegistry.SpansWithin (1 + a.length) (1 + a.length + b.length) sb := by
    rwa [show 1 + a.length + b.length = 1 + d.lineCount by omega]
  refine ⟨blocks 1 a sa, blocks (1 + a.length) b sb, ?_, fun x hx => (mem_blocks_within hsa hx).2,
    fun x hx => (mem_blocks_within hback hx).1, ?_⟩
  · rw [blocks_of_parse hd, hlines, hspans, blocks_append hsa hlater]
  · have hreadings : readings d' = (d'.nodes.map (·.entry.toBlock)).map Block.reading := by
      rw [readings, List.map_map]
      rfl
    rw [hreadings, blocks_of_parse hd', hlines', hspans', blocks_splice hsa hlater,
      List.map_append, List.map_append, reading_blocks, List.map_map (f := Block.shift _)]
    rfl

theorem heading_line (h : parse markers source = .ok d) {s : Statement Node}
    (hs : s ∈ statements d.nodes) {level : Nat} (hkind : s.node.entry.kind = .heading level) :
    ∃ line, s.position = .single line ∧ ∀ span ∈ d.spans, ¬ span.Covers line := by
  have hfrozen : ¬ d.Frozen s.node := fun hfrozen => by
    rw [frozen_iff h (List.mem_of_getElem? (getElem?_nodes hs)), hkind] at hfrozen
    cases hfrozen
  obtain ⟨line, hline⟩ := (linewise markers).lineStatement h hs hfrozen
  exact ⟨line, hline.position, hline.outside⟩

theorem seam_of_firstChild (h : parse markers source = .ok d) {anchor : Statement Node}
    (hanchor : anchor ∈ statements d.nodes) {level : Nat}
    (hkind : anchor.node.entry.kind = .heading level) :
    Merger.insertionLine (.make (format markers) d) anchor .firstChild =
      anchor.position.endLine := by
  obtain ⟨line, hposition, houtside⟩ := heading_line h hanchor hkind
  show d.outsideFreeze anchor.position.endLine true = _
  rcases d.outsideFreeze_cases ((linewise markers).spansWithin h) anchor.position.endLine true with
    ⟨span, hspan, hstraddles, -⟩ | ⟨-, heq⟩
  · rw [hposition, Position.endLine_single] at hstraddles
    exact absurd ⟨hstraddles.1, Nat.le_of_lt hstraddles.2⟩ (houtside span hspan)
  · exact heq

/-! ### Insertions -/

/-- A destination has become a document into which the statements of a template were put, next to an
    anchor, before the node numbered `place`. -/
structure KeptTree (d d' : Document Node) (new : List (Statement Node)) (anchor : Statement Node)
    (placement : Placement) (place : Nat) : Prop where
  /-- Its nodes have stayed what they were, where they were. -/
  grown : Grown d d' new place
  /-- The place is at the seam. -/
  seam : ∃ asked seam, d.AsksFor anchor placement asked ∧ d.IsSeam placement.edge asked seam ∧
    ∀ s ∈ statements d.nodes, s.index < place ↔ s.position.endLine ≤ seam
  /-- What goes below a heading first is the first of its children, before those that it had. -/
  firstChildren : placement = .firstChild → ∀ level, anchor.node.entry.kind = .heading level →
    place = anchor.index + 1 ∧ ∃ n, d'.nodes[anchor.index]? = some n ∧
      n.children.map (·.index.val) = List.range' place new.length ++
        (anchor.node.children.map (·.index.val)).map (moved place new.length)

variable {front back : List Block} {anchor : Statement Node}

theorem length_front_of_firstChild (h : parse markers source = .ok d)
    (hcut : d.nodes.map (·.entry.toBlock) = front ++ back)
    (hanchor : anchor ∈ statements d.nodes)
    (hfront : ∀ b ∈ front, b.position.endLine < 1 + anchor.position.endLine)
    (hback : ∀ b ∈ back, 1 + anchor.position.endLine ≤ b.position.startLine) :
    front.length = anchor.index + 1 := by
  have hsound := (linewise markers).sound h
  have hget := getElem?_of_mem_statements hanchor
  have hlt : anchor.index < d.nodes.length :=
    (List.getElem?_eq_some_iff.1 (getElem?_nodes hanchor)).1
  refine length_front hcut hfront hback hlt fun s hs => ?_
  have hle := hsound.index_le_iff (getElem?_of_mem_statements hs) hget
  omega

/-- An outline into which a template without headings is put keeps its tree. -/
theorem keptTree_of_spliced {template : Document Node} {t : Text}
    (ht : parse markers t = .ok template) (hd : parse markers source = .ok d)
    (hd' : parse markers content = .ok d')
    (hplain : ∀ x ∈ template.unfrozen, x.node.entry.kind.level? = none)
    (hanchor : anchor ∈ statements d.nodes) {placement : Placement}
    (hplacement : placement ≠ .replace)
    (h : Spliced (linewise markers) d
      (Merger.insertionLine (.make (format markers) d) anchor placement) d.line
      (template.unfrozen.map fun x => template.line x.position.startLine) content) :
    ∃ place, KeptTree d d' template.unfrozen anchor placement place := by
  obtain ⟨front, back, hcut, hfront, hback, hreadings⟩ := exists_cut_of_spliced h hd hd'
  have hnew : (template.unfrozen.map fun x => template.line x.position.startLine).map
      readingOfLine = template.unfrozen.map (·.node.entry.toBlock.reading) := by
    rw [List.map_map]
    exact List.map_congr_left fun x hx => (reading_of_unfrozen ht hx).symm
  have hbefore : readings d = front.map Block.reading ++ back.map Block.reading := by
    rw [← List.map_append, ← hcut, readings, List.map_map]
    rfl
  have hputIn : PutIn d d' (front.map Block.reading) (back.map Block.reading) template.unfrozen :=
    ⟨hbefore, hnew ▸ hreadings, hplain⟩
  have hlength : (front.map Block.reading).length = front.length := List.length_map _
  have hgrown : Grown d d' template.unfrozen front.length := hlength ▸ hputIn.grown hd hd'
  refine ⟨front.length, hgrown, ?_, ?_⟩
  · have hend : d.IsSubtreeEnd anchor ((Prepared.make (format markers) d).subtreeEnd anchor) :=
      Prepared.isSubtreeEnd_of_nested (nested hd) ((linewise markers).sound hd)
        (tiles_of_parse hd) hanchor
    obtain ⟨asked, hasked, hseam⟩ := Merger.isSeam_insertionLine (m := ⟨format markers, .standard⟩)
      (linewise markers) hd hanchor hplacement hend
    refine ⟨asked, _, hasked, hseam, fun s hs => ?_⟩
    rw [index_lt_iff hcut hfront hback hs, Nat.lt_one_add_iff]
  · rintro rfl level hkind
    rw [seam_of_firstChild hd hanchor hkind] at hfront hback
    have hplace := length_front_of_firstChild hd hcut hanchor hfront hback
    have hn := getElem?_nodes hanchor
    obtain ⟨n, hn', -⟩ := hgrown.kept anchor.index anchor.node hn
    rw [hplace, moved_of_lt (Nat.lt_succ_self _)] at hn'
    rw [hplace]
    exact ⟨rfl, n, hn', hputIn.children_first hd hd' (hlength.trans hplace) hn hkind hn'⟩

/-- Whatever template without headings is put wherever into an outline, the outline is read again
    with the tree that it had. -/
def KeepsTrees (markers : MarkerRegistry) : Prop :=
  ∀ (options : MergeOptions) (t d : Text) (td dd : Document Node)
    (request : Injection.Request Node) (anchor : Statement Node), options.strategy ≠ .batch →
    parse markers t = .ok td → parse markers d = .ok dd →
    (∀ x ∈ td.unfrozen, x.node.entry.kind.level? = none) → request.placement ≠ .replace →
    Injection.find (statements dd.nodes) request.anchor = some anchor →
      ∃ o dd' place, Merger.mergePartial ⟨format markers, options⟩ t d request = .ok o ∧
        parse markers o.content = .ok dd' ∧
        KeptTree dd dd' td.unfrozen anchor request.placement place

end Outline

/-- Insertions without headings keep the trees of outlines. -/
theorem outline_insertion_keeps_trees (markers : MarkerRegistry) : Outline.KeepsTrees markers := by
  intro options t d td dd request anchor hs ht hd hplain hrequest hfind
  have hanchor : anchor ∈ statements dd.nodes := List.mem_of_find?_eq_some hfind
  let m : Merger Outline.Node := ⟨Outline.format markers, options⟩
  have hcut : dd.Cuttable (Merger.insertionLine (.make m.format dd) anchor request.placement) :=
    Merger.cuttable_insertionLine ((Outline.linewise markers).sound hd) hanchor request.placement
  have hspliced := Merger.spliced_insert (m := m) (Outline.linewise markers) ht hcut
  rw [Document.unfrozen_make] at hspliced
  obtain ⟨dd', hd', -⟩ := hspliced.regions_survive hd
  obtain ⟨place, hkept⟩ :=
    Outline.keptTree_of_spliced ht hd hd' hplain hanchor hrequest hspliced
  exact ⟨_, dd', place, Merger.mergePartial_insert (m := m) ht hd hs hrequest hfind, hd', hkept⟩

/-- A line is put below a heading, and the heading in the template does not count, for it is in a
    region. -/
theorem outline_insertion_keeps_trees_below :
    let m : Merger Outline.Node := ⟨Outline.format .builtin, .standard⟩
    let t := "<!-- structmerge:freeze -->\n# X\n<!-- structmerge:unfreeze -->\nnew".toList
    let d := "text\n# A\nmore\n## B".toList
    let request : Injection.Request Outline.Node := .make (.ofType "heading") .firstChild
    ∃ td dd anchor, m.options.strategy ≠ .batch ∧ Outline.parse .builtin t = .ok td ∧
      Outline.parse .builtin d = .ok dd ∧
      (∀ x ∈ td.unfrozen, x.node.entry.kind.level? = none) ∧ request.placement ≠ .replace ∧
      Injection.find (statements dd.nodes) request.anchor = some anchor ∧
      ∃ o dd' place, m.mergePartial t d request = .ok o ∧
        Outline.parse .builtin o.content = .ok dd' ∧
        Outline.KeptTree dd dd' td.unfrozen anchor request.placement place ∧ place = 2 ∧
        o.content = "text\n# A\nnew\nmore\n## B".toList := by
  intro m t d request
  have hcontent : (m.mergePartial t d request).toOption.map (·.content) =
      some "text\n# A\nnew\nmore\n## B".toList := by decide +kernel
  have htemplate : ((Outline.parse .builtin t).toOption.all fun td =>
      td.unfrozen.all fun x => x.node.entry.kind.level?.isNone) = true := by decide +kernel
  have hfind : ((Outline.parse .builtin d).toOption.bind fun dd =>
      (Injection.find (statements dd.nodes) request.anchor).map fun anchor =>
        (anchor.index, anchor.node.entry.kind)) = some (1, .heading 1) := by decide +kernel
  obtain ⟨td, ht⟩ : ∃ td, Outline.parse .builtin t = .ok td := ⟨_, rfl⟩
  obtain ⟨dd, hd⟩ : ∃ dd, Outline.parse .builtin d = .ok dd := ⟨_, rfl⟩
  rw [ht] at htemplate
  rw [hd] at hfind
  obtain ⟨anchor, hanchor, hfound⟩ := Option.map_eq_some_iff.1 hfind
  obtain ⟨hindex, hkind⟩ := Prod.mk.inj hfound
  have hplain : ∀ x ∈ td.unfrozen, x.node.entry.kind.level? = none := fun x hx =>
    Option.isNone_iff_eq_none.1 (List.all_eq_true.1 htemplate x hx)
  obtain ⟨o, dd', place, ho, hd', hkept⟩ := outline_insertion_keeps_trees .builtin m.options t d td
    dd request anchor (by decide) ht hd hplain (by decide) hanchor
  have hplace : place = anchor.index + 1 := (hkept.firstChildren rfl 1 hkind).1
  have ho : m.mergePartial t d request = .ok o := ho
  rw [ho] at hcontent
  exact ⟨td, dd, anchor, by decide, ht, hd, hplain, by decide, hanchor, o, dd', place, ho, hd',
    hkept, by rw [hplace, hindex], Option.some.inj hcontent⟩

end TemplateMerge
