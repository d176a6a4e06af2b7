import TemplateMerge.Proofs.Document.Subtree
import TemplateMerge.Proofs.Format.OutlineSection
import TemplateMerge.Proofs.Format.OutlineTree
import TemplateMerge.Proofs.Merge.Aligned
import TemplateMerge.Proofs.Merge.Fixed
import TemplateMerge.Proofs.Merge.Replacement

/-! Replacing a section by itself.

    The lines of a range of an outline are read as the nodes of the range, so the template is
    aligned with the region that it is merged into.  Every node is paired with its counterpart and
    agrees with it, nothing is left to be added, and the text stays as it is.

        document    # A    text    # B    ▒▒▒▒▒    more    # C
        numbers      0      1       2       3       4       5
        replaced                    ───────────────────
        template                   # B    ▒▒▒▒▒    more
        numbers                     0       1       2
        log         replaced        =       ▒       = -/

namespace TemplateMerge

namespace Outline

variable {markers : MarkerRegistry}

/-- The entry of a node of a section that is replaced by itself, when so many nodes come before. -/
def sectionEntry (before : Nat) (x : Statement Node) : Decision :=
  if x.node.entry.kind = .freezeBlock then
    ⟨.freezeBlock, .destination, none, some x.index, some x.position.startLine, none⟩
  else
    ⟨.identical, .destination, some (x.index - before), some x.index, some x.position.startLine,
      none⟩

/-- A range that is replaced ends with its last node: it is not widened. -/
theorem replacedTail_of_parse {source : Text} {d : Document Node}
    (h : parse markers source = .ok d) {s : Statement Node} (hs : s ∈ statements d.nodes) :
    (Prepared.make (format markers) d).replacedTail s.index = (s.index, s.position.endLine) := by
  have hspans := (linewise markers).spansWithin h
  rw [Prepared.replacedTail, Prepared.lineBeforeNext_of_tiles (tiles_of_parse h) hs]
  exact Prepared.widen_of_none (Document.spanPast?_of_cuttable hspans (cuttable_node h hs).2)

theorem signature_congr {n n' : Node} (hkind : n'.entry.kind = n.entry.kind)
    (htext : n'.entry.text = n.entry.text) (h : n.entry.kind ≠ .freezeBlock) :
    signature n' = signature n := by
  unfold signature
  dsimp only
  rw [hkind, htext]
  cases hown : n.entry.kind with
  | freezeBlock => exact absurd hown h
  | _ => rfl

variable {t d : Text} {td dd : Document Node} {before : Nat} {x y : Statement Node}

/-- A node of a section is aligned with the node that it is. -/
theorem Counterpart.aligned (h : Counterpart before x y) (ht : parse markers t = .ok td)
    (hd : parse markers d = .ok dd) (hx : x ∈ statements td.nodes) (hy : y ∈ statements dd.nodes) :
    Pairing.Aligned (format markers) td dd x y := by
  have hxiff := frozen_iff ht (List.mem_of_getElem? (getElem?_nodes hx))
  have hyiff := frozen_iff hd (List.mem_of_getElem? (getElem?_nodes hy))
  refine ⟨?_, fun hout => ?_, fun hout => ?_, fun hout => ?_⟩
  · rw [hxiff, hyiff, h.kind]
  · rw [hxiff, ← h.kind] at hout
    exact decide_eq_false hout
  · obtain ⟨line, hline⟩ := (linewise markers).lineStatement ht hx hout
    exact hline.signed
  · rw [hxiff] at hout
    exact signature_congr h.kind h.text hout

/-- Paired with its counterpart, a node leaves the entry of its section. -/
theorem Counterpart.entryOf_eq (h : Counterpart before x y) (ht : parse markers t = .ok td)
    (hx : x ∈ statements td.nodes) (options : MergeOptions) :
    Merger.entryOf ⟨format markers, options⟩ y
      (Pairing.selfSlot (.make (format markers) td) x) = sectionEntry before y := by
  have hxiff := frozen_iff ht (List.mem_of_getElem? (getElem?_nodes hx))
  unfold Pairing.selfSlot sectionEntry
  cases hfrozen : (Prepared.make (format markers) td).isFrozen x with
  | true =>
    have hkind : y.node.entry.kind = .freezeBlock :=
      h.kind.trans (hxiff.1 (Pairing.isFrozen_iff.1 hfrozen))
    rw [if_pos rfl, if_pos hkind]
    rfl
  | false =>
    have hkind : y.node.entry.kind ≠ .freezeBlock := fun hkind =>
      Pairing.isFrozen_eq_false.1 hfrozen (hxiff.2 (h.kind.symm.trans hkind))
    have hnormalized : (format markers).normalized x.node = (format markers).normalized y.node :=
      congrArg Text.trimEnd h.text.symm
    have hresolve : Merger.resolvePair ⟨format markers, options⟩ x y = .agreement := by
      unfold Merger.resolvePair Resolver.resolve
      rw [if_pos hnormalized]
    rw [if_neg (by decide), if_neg hkind, Merger.entryOf]
    dsimp only
    rw [hresolve, h.index, Nat.add_sub_cancel_left]
    rfl

end Outline

namespace Merger

variable {markers : MarkerRegistry} {t d : Text} {td dd : Document Outline.Node}
  {anchor final : Statement Outline.Node}

/-- The log of a range that is merged with its own nodes. -/
theorem decisions_section (options : MergeOptions) (ht : Outline.parse markers t = .ok td)
    (hd : Outline.parse markers d = .ok dd)
    (h : List.Forall₂ (Outline.Counterpart anchor.index) (statements td.nodes)
      (Statement.range (statements dd.nodes) anchor.index final.index)) (lastLine : Nat) :
    (rangeMerge ⟨Outline.format markers, options⟩ td dd anchor final.index lastLine).decisions =
      (Statement.range (statements dd.nodes) anchor.index final.index).map
        (Outline.sectionEntry anchor.index) := by
  let m : Merger Outline.Node := ⟨Outline.format markers, options⟩
  obtain ⟨region, hown⟩ :
      ∃ region, Statement.range (statements dd.nodes) anchor.index final.index = region := ⟨_, rfl⟩
  have hregion : ∀ y ∈ region, y ∈ statements dd.nodes := by
    intro y hy
    rw [← hown] at hy
    obtain ⟨i, -, -, hi⟩ := Statement.mem_range hy
    exact List.mem_of_getElem? hi
  rw [hown] at h
  have hpair : ∀ {x y}, (x, y) ∈ (statements td.nodes).zip region →
      x ∈ statements td.nodes ∧ y ∈ statements dd.nodes ∧
        Outline.Counterpart anchor.index x y := by
    intro x y hz
    obtain ⟨hx, hy⟩ := List.of_mem_zip hz
    exact ⟨hx, hregion y hy, List.forall₂_zip h hz⟩
  have haligned : List.Forall₂ (Pairing.Aligned m.format td dd) (statements td.nodes) region := by
    refine List.forall₂_iff_zip.2 ⟨h.length_eq, fun hz => ?_⟩
    obtain ⟨hx, hy, hown⟩ := hpair hz
    exact hown.aligned ht hd hx hy
  have hentries : List.Forall₂ (fun x y => m.entryOf y
      (Pairing.selfSlot (.make m.format td) x) = Outline.sectionEntry anchor.index y)
        (statements td.nodes) region := by
    refine List.forall₂_iff_zip.2 ⟨h.length_eq, fun hz => ?_⟩
    obtain ⟨hx, -, hown⟩ := hpair hz
    exact hown.entryOf_eq ht hx options
  obtain ⟨hslots, hnone⟩ := Pairing.pair_aligned haligned hregion m.options.refiner
  have hlog : (m.rangeMerge td dd anchor final.index lastLine).decisions =
      m.statementLog region (Pairing.pair m.format m.options.refiner (.make m.format td)
        (.make m.format dd) region).1 ++ addedLog (.make m.format td) (Pairing.pair m.format
          m.options.refiner (.make m.format td) (.make m.format dd) region).2 true := by
    unfold rangeMerge
    rw [hown]
    exact decisions_regionPieces _ true
  rw [hslots, statementLog_of_forall₂ hentries, addedLog_true, freeStatements_eq_nil hnone,
    List.map_nil, List.append_nil] at hlog
  rw [hown]
  exact hlog

/-- Its entries exchange nothing and add nothing. -/
theorem kinds_sectionEntry (before : Nat) (x : Statement Outline.Node) :
    (Outline.sectionEntry before x).kind ≠ .keptTemplate ∧
      (Outline.sectionEntry before x).kind ≠ .added := by
  unfold Outline.sectionEntry
  split <;> exact ⟨by simp, by simp⟩

theorem content_enclose {left : Outcome} {lastLine : Nat}
    (hlines : anchor.position.startLine ≤ lastLine)
    (hleft : left.content = dd.sourceRange anchor.position.startLine lastLine) :
    (enclose dd anchor lastLine left).content = dd.source := by
  have hblocks : (enclose dd anchor lastLine left).content =
      Text.assemble [dd.sourceRange 1 (anchor.position.startLine - 1), left.content,
        dd.sourceRange (lastLine + 1) dd.lineCount] := rfl
  rw [hblocks, hleft]
  refine Document.assemble_eq_source ?_
  rw [List.flatMap_cons, List.flatMap_cons, List.flatMap_singleton,
    Document.splitLines_sourceRange, Document.splitLines_sourceRange,
    Document.splitLines_sourceRange, Nat.sub_self, List.drop_zero, Nat.add_sub_cancel,
    Document.lineCount, List.take_length]
  exact (dd.lines_eq_parts hlines).symm

end Merger

/-- A section of an outline that is replaced by its own lines stays as it is, whatever anchor and
    boundary it was found by and whatever is preferred.  The log records the replacement, and then
    that every statement of the section is frozen or identical with itself. -/
theorem section_replaced_by_itself (markers : MarkerRegistry) (options : MergeOptions) (d : Text)
    (dd : Document Outline.Node) (request : Injection.Request Outline.Node)
    (hs : options.strategy = .nodePair) (hd : Outline.parse markers d = .ok dd)
    (hrequest : request.placement = .replace)
    (hanchor : (Injection.find (statements dd.nodes) request.anchor).isSome = true) :
    let m : Merger Outline.Node := ⟨Outline.format markers, options⟩
    ∃ point final, Injection.locate (statements dd.nodes) request = some point ∧
      (statements dd.nodes)[point.lastReplaced]? = some final ∧
      (Prepared.make m.format dd).replacedTail point.lastReplaced =
        (final.index, final.position.endLine) ∧
      ∃ o, m.mergePartial
          (dd.sourceRange point.anchor.position.startLine final.position.endLine) d request =
            .ok o ∧
        o.content = d ∧ o.changed = false ∧
        o.decisions = Merger.replacedDecision point.anchor ::
          (Statement.range (statements dd.nodes) point.anchor.index final.index).map
            (Outline.sectionEntry point.anchor.index) := by
  intro m
  have hd : m.format.parse d = .ok dd := hd
  have L : Linewise m.format markers := Outline.linewise markers
  have hs : m.options.strategy = .nodePair := hs
  obtain ⟨point, hpoint⟩ := Merger.locate_of_find hanchor
  have hfound : point.anchor ∈ statements dd.nodes := Merger.anchor_of_locate hpoint
  obtain ⟨-, hle, hlt⟩ :=
    Merger.lastAsked_eq (L.sound hd) hpoint (getElem?_of_mem_statements hfound)
  obtain ⟨final, hown⟩ : ∃ final, (statements dd.nodes)[point.lastReplaced]? = some final :=
    ⟨_, List.getElem?_eq_getElem hlt⟩
  have hfinal : final ∈ statements dd.nodes := List.mem_of_getElem? hown
  have hindex : final.index = point.lastReplaced := by
    rw [numberedFrom_statements dd.nodes _ final hown, Nat.zero_add]
  have htail : (Prepared.make m.format dd).replacedTail point.lastReplaced =
      (final.index, final.position.endLine) := by
    rw [← hindex]
    exact Outline.replacedTail_of_parse hd hfinal
  obtain ⟨part, hpart, hparts⟩ := Outline.exists_counterparts hd hfound hfinal (hindex ▸ hle)
  have hdecisions := Merger.decisions_section options hpart hd hparts final.position.endLine
  -- the merge of the range neither exchanges nor adds, so it leaves the lines as they are
  have hrange := Merger.rangeMerge_spec L hd hpoint htail part
  have hinner := hrange.written.unchanged fun e he => by
    have he : e ∈ (m.rangeMerge part dd point.anchor final.index
      final.position.endLine).decisions := he
    rw [hdecisions] at he
    obtain ⟨x, -, rfl⟩ := List.mem_map.1 he
    exact Merger.kinds_sectionEntry point.anchor.index x
  have hcontent := Merger.content_enclose hrange.lines.1 hinner
  have hmerge := Merger.mergePartial_replace L hpart hd (by rw [hs]; decide) hrequest hpoint htail
  rw [if_neg (by rw [hs]; decide)] at hmerge
  have hsource := (L.orderly d dd hd).1
  refine ⟨point, final, hpoint, hown, htail, _, hmerge, hcontent.trans hsource,
    decide_eq_false (not_not_intro (hcontent.trans hsource)), ?_⟩
  exact congrArg (List.cons _) hdecisions

/-- A section with a region and two equal lines, up to the next heading of its level. -/
theorem section_replaced_by_itself_frozen :
    let refiner : Refiner := ⟨Refiner.standardThreshold, .standard, []⟩
    let m : Merger Outline.Node :=
      ⟨Outline.format .builtin, ⟨.everywhere .template, true, .none, some refiner, .nodePair⟩⟩
    let d := "a\n# H\n# structmerge:freeze\n# structmerge:unfreeze\n## K\nx\nx\n# L".toList
    let request : Injection.Request Outline.Node :=
      ⟨.ofType "heading", .replace, some ⟨.ofType "heading", true⟩, fun _ => rfl⟩
    ∃ dd, m.options.strategy = .nodePair ∧ Outline.parse .builtin d = .ok dd ∧
      request.placement = .replace ∧
      (Injection.find (statements dd.nodes) request.anchor).isSome = true ∧
      ∃ point final, Injection.locate (statements dd.nodes) request = some point ∧
        point.anchor.index = 1 ∧ point.lastReplaced = 5 ∧
        (statements dd.nodes)[point.lastReplaced]? = some final ∧
        ∃ o, m.mergePartial
            (dd.sourceRange point.anchor.position.startLine final.position.endLine) d request =
              .ok o ∧
          o.content = d ∧ o.changed = false := by
  intro refiner m d request
  have hnumbers : ((Outline.parse .builtin d).toOption.bind fun dd =>
      (Injection.locate (statements dd.nodes) request).map fun point =>
        (point.anchor.index, point.lastReplaced)) = some (1, 5) := by decide +kernel
  have hfind : ((Outline.parse .builtin d).toOption.bind fun dd =>
      Injection.find (statements dd.nodes) request.anchor).isSome = true := by decide +kernel
  obtain ⟨dd, hd⟩ : ∃ dd, Outline.parse .builtin d = .ok dd := ⟨_, rfl⟩
  rw [hd] at hnumbers hfind
  obtain ⟨point, final, hpoint, hfinal, -, o, ho, hcontent, hchanged, -⟩ :=
    section_replaced_by_itself .builtin m.options d dd request rfl hd rfl hfind
  have hown : some (point.anchor.index, point.lastReplaced) = some (1, 5) := by
    rw [← hnumbers]
    exact (congrArg (Option.map fun point : Injection.Point Outline.Node =>
      (point.anchor.index, point.lastReplaced)) hpoint).symm
  obtain ⟨hfirst, hlast⟩ := Prod.mk.inj (Option.some.inj hown)
  exact ⟨dd, rfl, hd, rfl, hfind, point, final, hpoint, hfirst, hlast, hfinal, o, ho, hcontent,
    hchanged⟩

end TemplateMerge
