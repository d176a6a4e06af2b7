import TemplateMerge.Proofs.Format.KeyValue
import TemplateMerge.Proofs.Format.Outline
import TemplateMerge.Proofs.Merge.LineByLine
import TemplateMerge.Proofs.Merge.Places
import TemplateMerge.Proofs.Merge.Splice

/-! Frozen regions survive.

    However a template is merged into a document, wholly or at one place, the result is the document
    with lines outside its frozen regions exchanged, and lines put in at one place that is inside no
    region.  What is exchanged or put in are lines outside the template's own regions, so none of
    them is a marker.  Hence the result can be read again, its regions are those of the document,
    and no region of the template has come in.

        template                     document                      result
        ▒▒▒▒▒   t                    1   ▒▒▒▒▒   4                 1   ▒▒▒▒▒   t -/

namespace TemplateMerge

variable {N : Type} [NodeView N]

theorem Linewise.sound {format : Format N} {r : MarkerRegistry} (L : Linewise format r) {s : Text}
    {d : Document N} (hd : format.parse s = .ok d) : (Prepared.make format d).Sound :=
  ⟨numberedFrom_statements d.nodes, L.inOrder hd, L.spansWithin hd⟩

/-- An outcome that keeps the frozen regions of the destination and takes over none. -/
structure KeepsRegions (format : Format N) (template destination : Document N) (o : Outcome) :
    Prop where
  /-- The result can be read, and its regions are those of the destination, in order. -/
  reread : ∃ result, format.parse o.content = .ok result ∧
    List.Forall₂ (SameRegion destination result) destination.spans result.spans
  /-- The log names no frozen statement of the template. -/
  unnamed : ∀ j ∈ o.decisions.filterMap (·.templateIndex),
    ∃ n, template.nodes[j]? = some n ∧ ¬ template.Frozen n

namespace Merger

variable {m : Merger N} {r : MarkerRegistry} {t d : Text} {td dd : Document N}
  {region : List (Statement N)} {slots : List (Slot N)} {used : List Bool}

/-! ### Plain lines -/

theorem plain_line (L : Linewise m.format r) (ht : m.format.parse t = .ok td) {x : Statement N}
    (hx : x ∈ statements td.nodes) (hfrozen : ¬ td.Frozen x.node) :
    L.Plain (td.line x.position.startLine) := by
  obtain ⟨line, hline⟩ := L.lineStatement ht hx hfrozen
  rw [hline.position]
  exact ⟨hline.unmarked, L.reads_line ht hline.first hline.last⟩

/-- A line is kept, or exchanged for a plain one outside the regions. -/
theorem newLine_kept (L : Linewise m.format r) (ht : m.format.parse t = .ok td)
    (hd : m.format.parse d = .ok dd)
    (h : Pairing.Kept m.format (.make m.format td) (.make m.format dd) region slots used)
    (hregion : ∀ x ∈ region, x ∈ statements dd.nodes) (line : Nat) :
    m.newLine (.make m.format td) (.make m.format dd) (region.zip slots) line = dd.line line ∨
      ((∀ span ∈ dd.spans, ¬ span.Covers line) ∧
        L.Plain (m.newLine (.make m.format td) (.make m.format dd) (region.zip slots) line)) := by
  cases htaken : m.takenAt? (region.zip slots) line with
  | none => exact .inl (newLine_of_none htaken)
  | some x =>
    obtain ⟨z, hz, rfl, hx⟩ := takenAt?_eq_some htaken
    obtain ⟨hmem, hfrozen, hxmem, hxfrozen⟩ := taken_of_kept h hz hx
    obtain ⟨line, hline⟩ := L.lineStatement hd (hregion _ hmem) hfrozen
    rw [newLine_of_some htaken]
    refine .inr ⟨?_, plain_line L ht hxmem hxfrozen⟩
    rw [hline.position]
    exact hline.outside

theorem addedLines_plain (L : Linewise m.format r) (ht : m.format.parse t = .ok td)
    (h : Pairing.Kept m.format (.make m.format td) (.make m.format dd) region slots used)
    (addTemplateOnly : Bool) :
    ∀ l ∈ addedLines (.make m.format td) used addTemplateOnly, L.Plain l := by
  intro l hl
  cases addTemplateOnly with
  | false => cases hl
  | true =>
    obtain ⟨x, hx, rfl⟩ := List.mem_map.1 hl
    obtain ⟨hmem, hfrozen⟩ := free_of_kept h hx
    exact plain_line L ht hmem hfrozen

theorem cuttable_lineCount (L : Linewise m.format r) (hd : m.format.parse d = .ok dd) :
    dd.Cuttable dd.lineCount := by
  refine ⟨Nat.le_refl _, fun span hspan hstraddles => ?_⟩
  have hstop := ((L.spansWithin hd).2 span hspan).2.2
  have := hstraddles.2
  omega

/-! ### Whole merges -/

/-- A merged text is made of the destination. -/
theorem spliced_merge (L : Linewise m.format r) (ht : m.format.parse t = .ok td)
    (hd : m.format.parse d = .ok dd) :
    Spliced L dd dd.lineCount
      (m.newLine (.make m.format td) (.make m.format dd)
        ((statements dd.nodes).zip (m.paired td dd).1))
      (addedLines (.make m.format td) (m.paired td dd).2 m.options.addTemplateOnly)
      (Outcome.ofPieces (m.wholePieces td dd)).content := by
  have hkept := m.kept_paired td dd
  obtain ⟨hle, hcut⟩ := cuttable_lineCount L hd
  have hlines := lines_regionPieces L ht hd (Nat.le_refl 1) (Nat.le_refl dd.lineCount)
    (numberedFrom_statements dd.nodes) (L.inOrder hd) (fun _ hx => hx) m.options.addTemplateOnly
  refine ⟨?_, hle, hcut, fun line _ _ => newLine_kept L ht hd hkept (fun _ hx => hx) line,
    addedLines_plain L ht hkept _⟩
  rw [Outcome.ofPieces, Text.splitLines_assemble, List.flatMap_map, Nat.sub_self,
    List.range'_zero, List.map_nil, List.append_nil]
  exact congrArg Text.sealLines hlines

/-- The log of a region names no frozen statement. -/
theorem unfrozen_of_regionPieces {region : Region N} {start : Nat}
    (hn : NumberedFrom start region.list) {addTemplateOnly : Bool} {j : Nat}
    (hj : j ∈ ((m.regionPieces (.make m.format td) (.make m.format dd) region
      addTemplateOnly).filterMap (·.decision)).filterMap (·.templateIndex)) :
    ∃ n, td.nodes[j]? = some n ∧ ¬ td.Frozen n := by
  let paired := Pairing.pair m.format m.options.refiner (.make m.format td) (.make m.format dd)
    region.list
  have hkept : Pairing.Kept m.format (.make m.format td) (.make m.format dd) region.list paired.1
      paired.2 := Pairing.kept_pair (numberedFrom_statements td.nodes) hn
  rw [decisions_regionPieces] at hj
  exact unfrozen_of_named hkept hj

/-- A whole merge keeps the frozen regions. -/
theorem merge_keepsRegions (L : Linewise m.format r) (ht : m.format.parse t = .ok td)
    (hd : m.format.parse d = .ok dd) (hs : m.options.strategy ≠ .batch) :
    ∃ o, m.merge t d = .ok o ∧ KeepsRegions m.format td dd o := by
  refine ⟨_, merge_eq ht hd hs, (spliced_merge L ht hd).regions_survive hd, fun j hj => ?_⟩
  exact unfrozen_of_regionPieces (numberedFrom_statements dd.nodes) hj

/-! ### Inserted templates -/

theorem mem_unfrozen {format : Format N} {doc : Document N} {x : Statement N}
    (h : x ∈ (Prepared.make format doc).unfrozen) :
    x ∈ statements doc.nodes ∧ ¬ doc.Frozen x.node := by
  obtain ⟨hmem, hfrozen⟩ := List.mem_filter.1 h
  exact ⟨hmem, Pairing.isFrozen_eq_false.1 (by simpa using hfrozen)⟩

theorem spliced_insert (L : Linewise m.format r) (ht : m.format.parse t = .ok td) {line : Nat}
    (hcut : dd.Cuttable line) :
    Spliced L dd line dd.line
      ((Prepared.make m.format td).unfrozen.map fun x => td.line x.position.startLine)
      (insertAfterLine (.make m.format td) (.make m.format dd) line).content := by
  obtain ⟨hle, hout⟩ := hcut
  have hplain : ∀ x ∈ (Prepared.make m.format td).unfrozen,
      Text.splitLines (td.slice x.position) = [td.line x.position.startLine] := by
    intro x hx
    obtain ⟨hmem, hfrozen⟩ := mem_unfrozen hx
    obtain ⟨line, hline⟩ := L.lineStatement ht hmem hfrozen
    rw [hline.position]
    exact Document.splitLines_slice_single hline.first hline.last
  have hadded : ((Prepared.make m.format td).unfrozen.map
      (addedPiece (.make m.format td))).flatMap (fun p => Text.splitLines p.block) =
        (Prepared.make m.format td).unfrozen.map fun x => td.line x.position.startLine := by
    rw [List.flatMap_map, List.map_eq_flatMap]
    exact List.flatMap_congr hplain
  refine ⟨?_, hle, hout, fun _ _ _ => .inl rfl, fun l hl => ?_⟩
  · show Text.splitLines (Text.assemble (List.map _ _)) = _
    rw [Text.splitLines_assemble, List.flatMap_map, List.flatMap_append, List.flatMap_cons, hadded,
      List.flatMap_singleton]
    show Text.sealLines (Text.splitLines (dd.sourceRange 1 line) ++ _ ++
      Text.splitLines (dd.sourceRange (line + 1) dd.lineCount)) = _
    rw [Document.splitLines_sourceRange_map (Nat.le_refl 1) hle, Nat.add_sub_cancel,
      Document.splitLines_sourceRange_map (by omega) (Nat.le_refl _), Nat.add_sub_add_right,
      Nat.add_comm line 1]
  · obtain ⟨x, hx, rfl⟩ := List.mem_map.1 hl
    obtain ⟨hmem, hfrozen⟩ := mem_unfrozen hx
    exact plain_line L ht hmem hfrozen

theorem decisions_insert (template destination : Prepared N) (line : Nat) :
    (insertAfterLine template destination line).decisions =
      template.unfrozen.map addedEntry := by
  have hadded : (template.unfrozen.map (addedPiece template)).filterMap (·.decision) =
      template.unfrozen.map addedEntry := by
    rw [List.filterMap_map]
    exact congrFun List.filterMap_eq_map _
  show List.filterMap _ (_ :: _ ++ [_]) = _
  rw [List.filterMap_append, List.filterMap_cons, hadded]
  simp

theorem insert_keepsRegions (L : Linewise m.format r) (ht : m.format.parse t = .ok td)
    (hd : m.format.parse d = .ok dd) {line : Nat} (hcut : dd.Cuttable line) :
    KeepsRegions m.format td dd
      (insertAfterLine (.make m.format td) (.make m.format dd) line) := by
  refine ⟨(spliced_insert L ht hcut).regions_survive hd, fun j hj => ?_⟩
  rw [decisions_insert, templateIndex_added] at hj
  obtain ⟨x, hx, rfl⟩ := List.mem_map.1 hj
  obtain ⟨hmem, hfrozen⟩ := mem_unfrozen hx
  obtain ⟨i, hi⟩ := List.mem_iff_getElem?.1 hmem
  rw [getElem?_statements] at hi
  obtain ⟨n, hn, rfl⟩ := Option.map_eq_some_iff.1 hi
  exact ⟨n, hn, hfrozen⟩

/-! ### Replaced ranges -/

/-- The outcome of replacing a range, when no hook is asked for. -/
def replacement (m : Merger N) (template destination : Prepared N) (point : Injection.Point N) :
    Outcome :=
  let region := replacedRegion destination point
  (((Outcome.empty.push (destination.document.sourceRange 1 (region.firstLine - 1))).record
    (replacedDecision point.anchor)).absorb
      (.ofPieces (m.regionPieces template destination region true))).push
        (destination.document.sourceRange (region.lastLine + 1) destination.document.lineCount)

theorem replaceRange_eq (hs : m.options.strategy ≠ .boundary) (template destination : Prepared N)
    (point : Injection.Point N) :
    m.replaceRange template destination point = .ok (m.replacement template destination point) := by
  unfold replaceRange
  dsimp only
  rw [if_neg hs]
  rfl

/-- Outside the region that is gone through, lines are those of the destination. -/
theorem newLine_outside {template destination : Prepared N} {first last line : Nat}
    {zs : List (Statement N × Slot N)} (h : InOrder first last (zs.map (·.1)))
    (hline : line < first ∨ last < line) :
    m.newLine template destination zs line = destination.document.line line := by
  refine newLine_of_none (takenAt?_eq_none fun z hz heq => ?_)
  obtain ⟨h1, h2⟩ := h.within z.1 (List.mem_map_of_mem hz)
  have := z.1.position.ordered
  omega

/-- A region of the destination with the lines before and after it. -/
theorem spliced_region (L : Linewise m.format r) (ht : m.format.parse t = .ok td)
    (hd : m.format.parse d = .ok dd) {region : Region N} {start : Nat}
    (hregion : Region.Sound (.make m.format dd) start region) :
    let paired := Pairing.pair m.format m.options.refiner (.make m.format td) (.make m.format dd)
      region.list
    Spliced L dd region.lastLine
      (m.newLine (.make m.format td) (.make m.format dd) (region.list.zip paired.1))
      (addedLines (.make m.format td) paired.2 true)
      (Text.assemble [dd.sourceRange 1 (region.firstLine - 1),
        (Outcome.ofPieces
          (m.regionPieces (.make m.format td) (.make m.format dd) region true)).content,
        dd.sourceRange (region.lastLine + 1) dd.lineCount]) := by
  intro paired
  let sub := m.newLine (.make m.format td) (.make m.format dd) (region.list.zip paired.1)
  have hkept : Pairing.Kept m.format (.make m.format td) (.make m.format dd) region.list
      paired.1 paired.2 := Pairing.kept_pair (numberedFrom_statements td.nodes) hregion.numbered
  have hle : region.lastLine ≤ dd.lineCount := hregion.cuttable.1
  have hnonempty := hregion.nonempty
  have hpos := hregion.firstLine_pos
  have hzip : (region.list.zip paired.1).map (·.1) = region.list :=
    List.map_fst_zip (Nat.le_of_eq hkept.fits.length_eq)
  have horder : InOrder region.firstLine region.lastLine
      ((region.list.zip paired.1).map (·.1)) := by
    rw [hzip]
    exact hregion.ordered
  -- what is before and after the region is written as it stands
  have hbefore : (List.range' 1 (region.firstLine - 1)).map dd.line =
      (List.range' 1 (region.firstLine - 1)).map sub := by
    refine List.map_congr_left fun line hline => Eq.symm ?_
    have := (List.mem_range'_1.1 hline).2
    exact newLine_outside horder (.inl (by omega))
  have hafter : (List.range' (1 + region.lastLine) (dd.lineCount - region.lastLine)).map dd.line =
      (List.range' (1 + region.lastLine) (dd.lineCount - region.lastLine)).map sub := by
    refine List.map_congr_left fun line hline => Eq.symm ?_
    have := (List.mem_range'_1.1 hline).1
    exact newLine_outside horder (.inr (by omega))
  have hcut : List.range' 1 region.lastLine = List.range' 1 (region.firstLine - 1) ++
      List.range' region.firstLine (region.lastLine + 1 - region.firstLine) := by
    rw [← range'_cut hpos (by omega), Nat.add_sub_cancel]
  have hinner : Text.splitLines (Outcome.ofPieces
      (m.regionPieces (.make m.format td) (.make m.format dd) region true)).content =
        Text.sealLines ((List.range' region.firstLine (region.lastLine + 1 - region.firstLine)).map
          sub ++ addedLines (.make m.format td) paired.2 true) := by
    rw [Outcome.ofPieces, Text.splitLines_assemble, List.flatMap_map]
    exact congrArg Text.sealLines (lines_regionPieces L ht hd hpos hle hregion.numbered
      hregion.ordered hregion.subset true)
  refine ⟨?_, hle, hregion.cuttable.2, fun line _ _ => newLine_kept L ht hd hkept hregion.subset
    line, addedLines_plain L ht hkept _⟩
  rw [Text.splitLines_assemble, List.flatMap_cons, List.flatMap_cons, List.flatMap_singleton,
    hinner, Document.splitLines_sourceRange_map (Nat.le_refl 1) (by omega),
    Document.splitLines_sourceRange_map (by omega) (Nat.le_refl _), Nat.add_sub_cancel,
    Nat.add_sub_add_right, Nat.add_comm region.lastLine 1, hbefore, hafter, ← List.append_assoc,
    Text.sealLines_append_sealLines_append, hcut, List.map_append, List.append_assoc _ _
      (addedLines _ _ _), Nat.add_comm 1 region.lastLine]

theorem replacement_keepsRegions (L : Linewise m.format r) (ht : m.format.parse t = .ok td)
    (hd : m.format.parse d = .ok dd) {point : Injection.Point N}
    (hanchor : (Prepared.make m.format dd).list[point.anchor.index]? = some point.anchor) :
    KeepsRegions m.format td dd
      (m.replacement (.make m.format td) (.make m.format dd) point) := by
  have hregion := replacedRegion_sound (L.sound hd) hanchor
  refine ⟨(spliced_region L ht hd hregion).regions_survive hd, fun j hj => ?_⟩
  -- the range itself is recorded, and that names no statement of the template
  have hlog : (m.replacement (.make m.format td) (.make m.format dd) point).decisions =
      replacedDecision point.anchor :: (m.regionPieces (.make m.format td) (.make m.format dd)
        (replacedRegion (.make m.format dd) point) true).filterMap (·.decision) := rfl
  rw [hlog, List.filterMap_cons] at hj
  exact unfrozen_of_regionPieces hregion.numbered hj

/-! ### Partial merges -/

theorem find_of_locate {list : List (Statement N)} {request : Injection.Request N}
    {point : Injection.Point N} (h : Injection.locate list request = some point) :
    Injection.find list request.anchor = some point.anchor := by
  obtain ⟨anchor, hanchor, hpoint⟩ := Option.map_eq_some_iff.1 h
  have hown : point.anchor = anchor := by
    rw [← hpoint]
    dsimp only
    split <;> rfl
  rw [hown]
  exact hanchor

theorem anchor_of_locate {list : List (Statement N)} {request : Injection.Request N}
    {point : Injection.Point N} (h : Injection.locate list request = some point) :
    point.anchor ∈ list :=
  List.mem_of_find?_eq_some (find_of_locate h)

/-- The place that a request asks for is found when its anchor is. -/
theorem locate_of_find {list : List (Statement N)} {request : Injection.Request N}
    (h : (Injection.find list request.anchor).isSome = true) :
    ∃ point, Injection.locate list request = some point := by
  obtain ⟨anchor, hanchor⟩ := Option.isSome_iff_exists.1 h
  exact ⟨_, Option.map_eq_some_iff.2 ⟨anchor, hanchor, rfl⟩⟩

/-- What is done at a place keeps the frozen regions. -/
theorem applyAt_keepsRegions (L : Linewise m.format r) (ht : m.format.parse t = .ok td)
    (hd : m.format.parse d = .ok dd) (hs : m.options.strategy ≠ .boundary)
    {point : Injection.Point N} (hanchor : point.anchor ∈ statements dd.nodes) :
    ∃ o, m.applyAt (.make m.format td) (.make m.format dd) point = .ok o ∧
      KeepsRegions m.format td dd o := by
  have hinsert : ∀ placement, KeepsRegions m.format td dd
      (insertAfterLine (.make m.format td) (.make m.format dd)
        (insertionLine (.make m.format dd) point.anchor placement)) := fun placement =>
    insert_keepsRegions L ht hd (cuttable_insertionLine (L.sound hd) hanchor placement)
  unfold applyAt
  cases point.placement with
  | replace =>
    exact ⟨_, replaceRange_eq hs _ _ point,
      replacement_keepsRegions L ht hd (getElem?_of_mem_statements hanchor)⟩
  | before => exact ⟨_, rfl, hinsert .before⟩
  | after => exact ⟨_, rfl, hinsert .after⟩
  | firstChild => exact ⟨_, rfl, hinsert .firstChild⟩
  | lastChild => exact ⟨_, rfl, hinsert .lastChild⟩

theorem mergePartial_keepsRegions (L : Linewise m.format r) (ht : m.format.parse t = .ok td)
    (hd : m.format.parse d = .ok dd) (hs : m.options.strategy = .nodePair)
    {request : Injection.Request N}
    (hanchor : (Injection.find (statements dd.nodes) request.anchor).isSome = true) :
    ∃ o, m.mergePartial t d request = .ok o ∧ KeepsRegions m.format td dd o := by
  obtain ⟨point, hpoint⟩ := locate_of_find hanchor
  obtain ⟨o, ho, hkeeps⟩ := applyAt_keepsRegions L ht hd (by rw [hs]; decide)
    (anchor_of_locate hpoint)
  refine ⟨{ o with changed := decide (o.content ≠ d) }, ?_, hkeeps.reread, hkeeps.unnamed⟩
  rw [mergePartial_eq ht hd hpoint, ho]
  exact finish_eq (by rw [hs]; decide) d o

end Merger

/-! ### The two formats -/

/-- Whatever is merged into whatever, wholly or at a place that is found, the frozen regions are
    kept. -/
def Format.KeepsFrozenRegions (format : Format N) : Prop :=
  ∀ (options : MergeOptions) (t d : Text) (td dd : Document N), options.strategy = .nodePair →
    format.parse t = .ok td → format.parse d = .ok dd →
      (∃ o, Merger.merge ⟨format, options⟩ t d = .ok o ∧ KeepsRegions format td dd o) ∧
      ∀ request : Injection.Request N,
        (Injection.find (statements dd.nodes) request.anchor).isSome = true →
          ∃ o, Merger.mergePartial ⟨format, options⟩ t d request = .ok o ∧
            KeepsRegions format td dd o

/-- Formats that read line by line keep the frozen regions. -/
theorem Linewise.keepsFrozenRegions {format : Format N} {r : MarkerRegistry}
    (L : Linewise format r) : format.KeepsFrozenRegions := by
  intro options t d td dd hs ht hd
  have hbatch : options.strategy ≠ .batch := by rw [hs]; decide
  exact ⟨Merger.merge_keepsRegions (m := ⟨format, options⟩) L ht hd hbatch, fun request hanchor =>
    Merger.mergePartial_keepsRegions (m := ⟨format, options⟩) L ht hd hs hanchor⟩

/-- Frozen regions survive every merge of outlines and of key/value files, and none comes in. -/
theorem frozen_regions_survive (markers : MarkerRegistry) (options : KeyValue.Options) :
    (Outline.format markers).KeepsFrozenRegions ∧
      (KeyValue.format options markers).KeepsFrozenRegions :=
  ⟨(Outline.linewise markers).keepsFrozenRegions,
    (KeyValue.linewise options markers).keepsFrozenRegions⟩

/-- The range that is replaced ends in a region, and is widened over it. -/
theorem frozen_regions_survive_replacement :
    let format := KeyValue.format ⟨none, none⟩ .builtin
    let t := "# structmerge:freeze\nb=1\n# structmerge:unfreeze\nc=2".toList
    let d := "a=1\n# structmerge:freeze\nb=3\n# structmerge:unfreeze".toList
    ∃ td dd, format.parse t = .ok td ∧ format.parse d = .ok dd ∧
      ∃ o, Merger.mergePartial ⟨format, .standard⟩ t d (.make .any .replace) = .ok o ∧
        KeepsRegions format td dd o := by
  refine ⟨_, _, rfl, rfl, ?_⟩
  exact ((frozen_regions_survive .builtin ⟨none, none⟩).2 .standard _ _ _ _ rfl rfl rfl).2
    (.make .any .replace) rfl

end TemplateMerge
