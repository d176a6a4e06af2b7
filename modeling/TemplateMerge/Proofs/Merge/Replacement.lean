import TemplateMerge.Proofs.Merge.FrozenRegions
import TemplateMerge.Proofs.Merge.Substitution
import TemplateMerge.Proofs.Merge.Widening

/-! A replacement touches its range only.

    The range that a request asks for is widened until it ends outside frozen regions, and the
    template is merged into it.  What a hook leaves of that merge stands between the lines before
    the range and the lines after it, which are copied.

        destination    1 … a─1      a … L               L+1 … end
        statements                  a … b  b+1 … e                     b+1 … e are frozen
        written        copied       what is left        copied
        log            replaced     entries a … e, additions -/

namespace TemplateMerge

variable {N : Type}

namespace Injection

variable [NodeView N] {list : List (Statement N)} {request : Request N} {point : Point N}

theorem placement_of_locate (h : locate list request = some point) :
    point.placement = request.placement := by
  obtain ⟨anchor, -, rfl⟩ := Option.map_eq_some_iff.1 h
  dsimp only
  split <;> rfl

/-- The statement that a range is found to end with is one of the document. -/
theorem boundary_of_locate (h : locate list request = some point) {last : Statement N}
    (hlast : point.boundary = some last) : last ∈ list := by
  obtain ⟨anchor, -, rfl⟩ := Option.map_eq_some_iff.1 h
  dsimp only at hlast
  split at hlast
  · cases hlast
  · obtain ⟨hfound, -⟩ := Option.filter_eq_some_iff.1 hlast
    split at hfound
    · obtain ⟨i, -, hi⟩ := Option.bind_eq_some_iff.1 hfound
      exact List.mem_of_getElem? hi
    · exact List.mem_of_getLast? hfound

end Injection

variable [NodeView N]

/-- The merge of a template into statements of a destination, from the anchor to the one numbered
    `last`, of which those up to `asked` were asked for; the last line is `lastLine`. -/
structure RangeMerge (template destination : Document N) (anchor : Statement N)
    (asked last lastLine : Nat) (o : Outcome) : Prop where
  /-- The statements are of the destination, and none that was asked for is left out. -/
  bounds : anchor.index ≤ asked ∧ asked ≤ last ∧ last < destination.nodes.length
  /-- The lines are of the destination. -/
  lines : anchor.position.startLine ≤ lastLine ∧ lastLine ≤ destination.lineCount
  /-- All other statements are on other lines. -/
  outside : ∀ s ∈ statements destination.nodes,
    (s.index < anchor.index → s.position.endLine < anchor.position.startLine) ∧
      (last < s.index → lastLine < s.position.startLine)
  /-- The statements that were not asked for are frozen. -/
  widened : ∀ s ∈ statements destination.nodes, asked < s.index → s.index ≤ last →
    destination.Frozen s.node
  /-- The text is what the log says. -/
  written : Audited template destination anchor.position.startLine lastLine o
  /-- The first entries name the statements, in order. -/
  numbered : (o.decisions.take (last + 1 - anchor.index)).map (·.destinationIndex) =
    (List.range' anchor.index (last + 1 - anchor.index)).map some
  /-- The entry of a frozen statement names nothing of the template. -/
  frozen : ∀ e ∈ o.decisions.take (last + 1 - anchor.index), ∀ s ∈ statements destination.nodes,
    e.destinationIndex = some s.index → destination.Frozen s.node →
      e.kind = .freezeBlock ∧ e.templateIndex = none
  /-- All other entries are additions. -/
  additions : ∀ e ∈ o.decisions.drop (last + 1 - anchor.index),
    e.kind = .added ∧ e.destinationIndex = none
  /-- Every statement of the template is added that is neither frozen nor paired, in order. -/
  complete : ∃ indices : List Nat,
    (o.decisions.drop (last + 1 - anchor.index)).map (·.templateIndex) = indices.map some ∧
      indices.Pairwise (· < ·) ∧
      ∀ j, j ∈ indices ↔ (∃ n, template.nodes[j]? = some n ∧ ¬ template.Frozen n) ∧
        j ∉ (o.decisions.take (last + 1 - anchor.index)).filterMap (·.templateIndex)

/-- An outcome that has the lines of the destination before the anchor, what is left of the merge of
    a range, and the lines after `lastLine`. -/
structure Encloses (destination : Document N) (anchor : Statement N) (lastLine : Nat)
    (left o : Outcome) : Prop where
  /-- The text. -/
  content : o.content = Text.joinBlocks
    ([destination.sourceRange 1 (anchor.position.startLine - 1), left.content,
      destination.sourceRange (lastLine + 1) destination.lineCount].filter (· ≠ []))
  /-- The log: the replacement is recorded first. -/
  decisions : o.decisions = Merger.replacedDecision anchor :: left.decisions

namespace Merger

variable {m : Merger N} {r : MarkerRegistry} {t d : Text} {td dd : Document N}
  {point : Injection.Point N}

/-! ### The range -/

/-- The statement that a found place asks to end with is the last one that is replaced. -/
theorem lastAsked_eq {p : Prepared N} (h : p.Sound) {request : Injection.Request N}
    (hpoint : Injection.locate p.list request = some point)
    (hanchor : p.list[point.anchor.index]? = some point.anchor) :
    lastAsked p point = point.lastReplaced ∧ point.anchor.index ≤ point.lastReplaced ∧
      point.lastReplaced < p.list.length := by
  have hlt : point.anchor.index < p.list.length := (List.getElem?_eq_some_iff.1 hanchor).1
  have hbounds : point.anchor.index ≤ point.lastReplaced ∧
      point.lastReplaced < p.list.length := by
    unfold Injection.Point.lastReplaced
    split
    · exact ⟨Nat.le_refl _, hlt⟩
    · next last hlast =>
      obtain ⟨i, hi⟩ := List.mem_iff_getElem?.1 (Injection.boundary_of_locate hpoint hlast)
      have hindex : last.index = i := by rw [h.numbered i last hi, Nat.zero_add]
      have := (List.getElem?_eq_some_iff.1 hi).1
      omega
  obtain ⟨hle, hlast⟩ := hbounds
  refine ⟨?_, hle, hlast⟩
  have hget : p.list[point.lastReplaced]? = some p.list[point.lastReplaced] :=
    List.getElem?_eq_getElem hlast
  have hend : (point.replaced p.list).getLast? = some p.list[point.lastReplaced] :=
    (Statement.getLast?_range hle hlast).trans hget
  unfold lastAsked
  rw [hend, Option.map_some, Option.getD_some, h.numbered _ _ hget, Nat.zero_add]

/-- The merge of a template into a range. -/
def rangeMerge (m : Merger N) (template destination : Document N) (anchor : Statement N)
    (last lastLine : Nat) : Outcome :=
  .ofPieces (m.regionPieces (.make m.format template) (.make m.format destination)
    ⟨Statement.range (statements destination.nodes) anchor.index last, anchor.position.startLine,
      lastLine⟩ true)

omit [NodeView N] in
theorem map_index_range {list : List (Statement N)} (h : NumberedFrom 0 list) {first last : Nat}
    (hlast : last < list.length) :
    (Statement.range list first last).map (·.index) = List.range' first (last + 1 - first) := by
  rw [(Statement.numberedFrom_range h first last).map_index, Statement.length_range hlast]

/-- The merge into a range that a place asks for, after it is widened. -/
theorem rangeMerge_spec (L : Linewise m.format r) (hd : m.format.parse d = .ok dd)
    {request : Injection.Request N}
    (hpoint : Injection.locate (statements dd.nodes) request = some point) {last lastLine : Nat}
    (htail : (Prepared.make m.format dd).replacedTail point.lastReplaced = (last, lastLine))
    (td : Document N) :
    RangeMerge td dd point.anchor point.lastReplaced last lastLine
      (m.rangeMerge td dd point.anchor last lastLine) := by
  let p := Prepared.make m.format dd
  have hsound : p.Sound := L.sound hd
  have hanchor : p.list[point.anchor.index]? = some point.anchor :=
    getElem?_of_mem_statements (anchor_of_locate hpoint)
  have htail : p.replacedTail point.lastReplaced = (last, lastLine) := htail
  obtain ⟨hasked, hfirst, hlast⟩ := lastAsked_eq hsound hpoint hanchor
  have hregion := replacedRegion_sound hsound hanchor
  have hends := hsound.replacedTail (List.getElem?_eq_getElem hlast)
  have hwiden := hsound.widen_frozen point.lastReplaced _ rfl
  rw [replacedRegion_eq, hasked, htail] at hregion
  rw [htail] at hends
  rw [← Prepared.replacedTail, htail] at hwiden
  obtain ⟨⟨s, hs, hend, hcount⟩, hwide, -⟩ := hends
  obtain ⟨hnext, hfrozen⟩ := hwiden
  have hlt : last < (statements dd.nodes).length := (List.getElem?_eq_some_iff.1 hs).1
  -- the log, cut after the entries of the statements
  let region := Statement.range (statements dd.nodes) point.anchor.index last
  let paired := Pairing.pair m.format m.options.refiner (.make m.format td) p region
  have hkept : Pairing.Kept m.format (.make m.format td) p region paired.1 paired.2 :=
    Pairing.kept_pair (numberedFrom_statements td.nodes) hregion.numbered
  have hlog : (m.rangeMerge td dd point.anchor last lastLine).decisions =
      m.statementLog region paired.1 ++ addedLog (.make m.format td) paired.2 true :=
    decisions_regionPieces _ true
  have hindices : region.map (·.index) =
      List.range' point.anchor.index (last + 1 - point.anchor.index) :=
    map_index_range hsound.numbered hlt
  have hlength : (m.statementLog region paired.1).length =
      last + 1 - point.anchor.index := by
    rw [length_statementLog hkept.fits.length_eq, ← List.length_map (·.index), hindices,
      List.length_range']
  refine
    { bounds := ?bounds, lines := ?lines, outside := ?outside, widened := ?widened
      written := ?written, numbered := ?numbered, frozen := ?frozen, additions := ?additions
      complete := ?complete }
  case bounds => exact ⟨hfirst, hwide, by rwa [length_statements] at hlt⟩
  case lines => exact ⟨hregion.nonempty, hcount⟩
  case outside =>
    intro x hx
    have hget : p.list[x.index]? = some x := getElem?_of_mem_statements hx
    refine ⟨hsound.endLine_lt hget hanchor, fun hafter => ?_⟩
    have hline : lastLine = p.lineBeforeNext last := hnext
    rw [hline]
    exact Prepared.lineBeforeNext_lt hsound.ordered hafter hget
  case widened =>
    intro x hx hafter hle
    exact hfrozen x.index x hafter hle (getElem?_of_mem_statements hx)
  case written =>
    exact audited_regionPieces _ hregion.numbered hregion.subset hregion.ordered
      hregion.firstLine_pos (Nat.le_succ_of_le hregion.nonempty) hcount true
  case numbered =>
    rw [hlog, List.take_left' hlength, destinationIndex_statementLog hkept.fits.length_eq, hindices]
  case frozen =>
    rw [hlog, List.take_left' hlength]
    intro e he x hx hindex hfrozen
    obtain ⟨z, hz, rfl⟩ := List.mem_map.1 he
    obtain ⟨i, hi⟩ := List.mem_iff_getElem?.1 hz
    obtain ⟨hstatement, hslot⟩ := List.getElem?_zip_eq_some.1 hi
    obtain ⟨slot, hslot', hfits⟩ := Pairing.exists_getElem?_of_forall₂ hkept.fits hstatement
    rw [hslot] at hslot'
    rw [destinationIndex_entryOf, Option.some.injEq] at hindex
    have hown : z.1 = x := by
      have hget := getElem?_of_mem_statements (hregion.subset _ (List.mem_of_getElem? hstatement))
      rw [hindex, getElem?_of_mem_statements hx] at hget
      exact (Option.some.inj hget).symm
    rw [← Option.some.inj hslot'] at hfits
    rw [hfits.eq_frozen (hown ▸ hfrozen)]
    exact ⟨rfl, rfl⟩
  case additions =>
    rw [hlog, List.drop_left' hlength]
    intro e he
    exact (mem_addedLog he).2
  case complete =>
    rw [hlog, List.drop_left' hlength, List.take_left' hlength,
      templateIndex_statementLog hkept.fits.length_eq]
    refine ⟨_, templateIndex_addedLog paired.2 true,
      pairwise_addedIndices (numberedFrom_statements td.nodes) paired.2 true, fun j => ?_⟩
    rw [mem_addedIndices hkept, pairable_make]
    exact and_iff_right rfl

/-! ### Around the range -/

/-- What is left of the merge of a range, with the lines before and after it. -/
def enclose (destination : Document N) (anchor : Statement N) (lastLine : Nat) (left : Outcome) :
    Outcome :=
  (((Outcome.empty.push (destination.sourceRange 1 (anchor.position.startLine - 1))).record
    (replacedDecision anchor)).absorb left).push
      (destination.sourceRange (lastLine + 1) destination.lineCount)

theorem encloses_enclose (destination : Document N) (anchor : Statement N) (lastLine : Nat)
    (left : Outcome) (changed : Bool) :
    Encloses destination anchor lastLine left
      { enclose destination anchor lastLine left with changed } :=
  ⟨Text.assemble_eq_joinBlocks [destination.sourceRange 1 (anchor.position.startLine - 1),
    left.content, destination.sourceRange (lastLine + 1) destination.lineCount], rfl⟩

/-- A replacement is what the hook leaves of the merge of the range, if there is a hook to run, with
    the lines around it. -/
theorem mergePartial_replace (L : Linewise m.format r) (ht : m.format.parse t = .ok td)
    (hd : m.format.parse d = .ok dd) (hs : m.options.strategy ≠ .batch)
    {request : Injection.Request N} (hrequest : request.placement = .replace)
    (hpoint : Injection.locate (statements dd.nodes) request = some point) {last lastLine : Nat}
    (htail : (Prepared.make m.format dd).replacedTail point.lastReplaced = (last, lastLine)) :
    m.mergePartial t d request =
      ((if m.options.strategy = .boundary then
          m.format.boundaryHook (point.boundary.getD point.anchor)
            (m.rangeMerge td dd point.anchor last lastLine)
        else .ok (m.rangeMerge td dd point.anchor last lastLine)).map
          (enclose dd point.anchor lastLine)).bind fun o =>
            .ok { o with changed := decide (o.content ≠ d) } := by
  have hlocate : Injection.locate (Prepared.make m.format dd).list request = some point := hpoint
  have hanchor : (Prepared.make m.format dd).list[point.anchor.index]? = some point.anchor :=
    getElem?_of_mem_statements (anchor_of_locate hpoint)
  obtain ⟨hasked, -⟩ := lastAsked_eq (L.sound hd) hlocate hanchor
  have hregion := replacedRegion_eq (Prepared.make m.format dd) point
  rw [hasked, htail] at hregion
  rw [mergePartial_eq ht hd hpoint, applyAt, (Injection.placement_of_locate hpoint).trans hrequest]
  dsimp only
  rw [replaceRange, hregion, funext (finish_eq hs d)]
  rfl

end Merger

/-! ### Formats -/

/-- Every replacement whose anchor is found touches its range only: outside are the lines of the
    destination, inside is what the hook leaves of the merge of the range, or that merge if no hook
    runs. -/
def Format.ReplacesRange (format : Format N) : Prop :=
  ∀ (options : MergeOptions) (t d : Text) (td dd : Document N) (request : Injection.Request N),
    format.parse t = .ok td → format.parse d = .ok dd → request.placement = .replace →
    (Injection.find (statements dd.nodes) request.anchor).isSome = true →
      ∃ (point : Injection.Point N) (last lastLine : Nat),
        Injection.locate (statements dd.nodes) request = some point ∧
        (Prepared.make format dd).replacedTail point.lastReplaced = (last, lastLine) ∧
        let m : Merger N := ⟨format, options⟩
        let inner := m.rangeMerge td dd point.anchor last lastLine
        RangeMerge td dd point.anchor point.lastReplaced last lastLine inner ∧
        (options.strategy = .nodePair → ∃ o, m.mergePartial t d request = .ok o ∧
          Encloses dd point.anchor lastLine inner o) ∧
        (options.strategy = .boundary →
          match format.boundaryHook (point.boundary.getD point.anchor) inner with
          | .ok left => ∃ o, m.mergePartial t d request = .ok o ∧
            Encloses dd point.anchor lastLine left o
          | .error error => m.mergePartial t d request = .error error)

theorem Linewise.replacesRange {format : Format N} {r : MarkerRegistry} (L : Linewise format r) :
    format.ReplacesRange := by
  intro options t d td dd request ht hd hrequest hanchor
  let m : Merger N := ⟨format, options⟩
  have ht : m.format.parse t = .ok td := ht
  have hd : m.format.parse d = .ok dd := hd
  have hL : Linewise m.format r := L
  obtain ⟨point, hpoint⟩ := Merger.locate_of_find hanchor
  cases htail : (Prepared.make m.format dd).replacedTail point.lastReplaced with
  | mk last lastLine =>
    refine ⟨point, last, lastLine, hpoint, htail, Merger.rangeMerge_spec hL hd hpoint htail td,
      fun hs => ?_, fun hs => ?_⟩
    · have hs : m.options.strategy = .nodePair := hs
      have hpartial :=
        Merger.mergePartial_replace hL ht hd (by rw [hs]; decide) hrequest hpoint htail
      rw [if_neg (by rw [hs]; decide)] at hpartial
      exact ⟨_, hpartial, Merger.encloses_enclose dd point.anchor lastLine _ _⟩
    · have hs : m.options.strategy = .boundary := hs
      have hpartial :=
        Merger.mergePartial_replace hL ht hd (by rw [hs]; decide) hrequest hpoint htail
      rw [if_pos hs] at hpartial
      split
      · next left hleft =>
        have hleft : m.format.boundaryHook (point.boundary.getD point.anchor)
          (m.rangeMerge td dd point.anchor last lastLine) = .ok left := hleft
        rw [hleft] at hpartial
        exact ⟨_, hpartial, Merger.encloses_enclose dd point.anchor lastLine left _⟩
      · next error herror =>
        have herror : m.format.boundaryHook (point.boundary.getD point.anchor)
          (m.rangeMerge td dd point.anchor last lastLine) = .error error := herror
        rw [herror] at hpartial
        exact hpartial

/-- Another hook makes no difference to how a format reads. -/
def Linewise.withHook {format : Format N} {r : MarkerRegistry} (L : Linewise format r)
    (hook : Statement N → Outcome → Except MergeError Outcome) :
    Linewise { format with boundaryHook := hook } r :=
  ⟨L.reads, L.makes, L.face, L.layout, L.reads_close, L.makes_close, L.face_close, L.of_parse,
    L.parse_of, L.of_unfrozen, L.ordered, L.layout_append⟩

/-- A replacement touches its range only, in outlines and in key/value files, whatever hook works on
    it. -/
theorem replacement_touches_range (markers : MarkerRegistry) (options : KeyValue.Options)
    (hook : Statement Outline.Node → Outcome → Except MergeError Outcome)
    (hook' : Statement (Typed KeyValue.Node) → Outcome → Except MergeError Outcome) :
    Format.ReplacesRange { Outline.format markers with boundaryHook := hook } ∧
      Format.ReplacesRange { KeyValue.format options markers with boundaryHook := hook' } :=
  ⟨((Outline.linewise markers).withHook hook).replacesRange,
    ((KeyValue.linewise options markers).withHook hook').replacesRange⟩

/-- The range ends inside a region, and the hook empties what is merged into it. -/
theorem replacement_touches_range_emptied :
    let hook : Statement (Typed KeyValue.Node) → Outcome → Except MergeError Outcome :=
      fun _ _ => .ok .empty
    let m : Merger (Typed KeyValue.Node) :=
      ⟨{ KeyValue.format ⟨none, none⟩ .builtin with boundaryHook := hook },
        { MergeOptions.standard with strategy := .boundary }⟩
    let t := "e=5\n".toList
    let d := "; top\na=1\n# structmerge:freeze\nb=2\n# structmerge:unfreeze\nc=3".toList
    let request : Injection.Request (Typed KeyValue.Node) := .make .any .replace
    ∃ td dd, m.format.parse t = .ok td ∧ m.format.parse d = .ok dd ∧
      request.placement = .replace ∧
      (Injection.find (statements dd.nodes) request.anchor).isSome = true ∧
      ∃ point last lastLine, Injection.locate (statements dd.nodes) request = some point ∧
        (Prepared.make m.format dd).replacedTail point.lastReplaced = (last, lastLine) ∧
        RangeMerge td dd point.anchor point.lastReplaced last lastLine
          (m.rangeMerge td dd point.anchor last lastLine) ∧
        ∃ o, m.mergePartial t d request = .ok o ∧ Encloses dd point.anchor lastLine .empty o ∧
          o.content = "; top\nc=3".toList := by
  intro hook m t d request
  have hfind : ((m.format.parse d).toOption.map fun dd =>
      (Injection.find (statements dd.nodes) request.anchor).isSome) = some true := by
    decide +kernel
  have hcontent : (m.mergePartial t d request).toOption.map (·.content) =
      some "; top\nc=3".toList := by decide +kernel
  obtain ⟨td, ht⟩ : ∃ td, m.format.parse t = .ok td := ⟨_, rfl⟩
  obtain ⟨dd, hd⟩ : ∃ dd, m.format.parse d = .ok dd := ⟨_, rfl⟩
  rw [hd] at hfind
  have hanchor : (Injection.find (statements dd.nodes) request.anchor).isSome = true :=
    Option.some.inj hfind
  obtain ⟨point, last, lastLine, hpoint, htail, hrange, -, hhook⟩ :=
    (replacement_touches_range .builtin ⟨none, none⟩ (fun _ o => .ok o) hook).2 m.options t d td dd
      request ht hd rfl hanchor
  obtain ⟨o, ho, hencloses⟩ := hhook rfl
  have ho : m.mergePartial t d request = .ok o := ho
  rw [ho] at hcontent
  exact ⟨td, dd, ht, hd, rfl, hanchor, point, last, lastLine, hpoint, htail, hrange, o, ho,
    hencloses, Option.some.inj hcontent⟩

end TemplateMerge
