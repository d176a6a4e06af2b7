import TemplateMerge.Proofs.Format.OutlineTree
import TemplateMerge.Proofs.Merge.Replacement
import TemplateMerge.Proofs.Text.Blocks

/-! Insertions are pure splices.

    A template that goes next to a statement goes between two lines of the document: before the
    first line of the statement, after its last, or after the last of all that hangs below it.
    Where this is inside a frozen region, the seam is at an end of the region, the near one for what
    goes before and the far one for what goes after.

        lines             1     2   ▒▒▒▒▒▒▒▒▒▒▒   7     8
        asked for                         ▲
        seam                      ▲             ▲
                                before        after

    The lines above the seam are copied, the template's statements outside its own regions follow
    one by one, and then the lines below.  Nothing else is written, and nothing else is logged. -/

namespace TemplateMerge

variable {N : Type}

/-- The end of a frozen region at which a template is put that goes before or after a statement:
    the line that it follows. -/
def Placement.edge : Placement → FreezeSpan → Nat
  | .before, span => span.startLine - 1
  | _, span => span.endLine

namespace Document

/-- A template that is to follow line `asked` follows line `seam`: the document can be cut there,
    and this is another line only where a region is in the way, and then the line at its edge. -/
structure IsSeam (d : Document N) (edge : FreezeSpan → Nat) (asked seam : Nat) : Prop where
  cuttable : d.Cuttable seam
  kept : (∀ span ∈ d.spans, ¬ span.Straddles asked) → seam = asked
  moved : ∀ span ∈ d.spans, span.Straddles asked → seam = edge span

variable {d : Document N}

/-- A place outside regions is the one that was asked for, or an edge of the region around that. -/
theorem outsideFreeze_cases (h : MarkerRegistry.SpansWithin 1 (1 + d.lineCount) d.spans)
    (line : Nat) (forward : Bool) :
    (∃ span ∈ d.spans, span.Straddles line ∧
      d.outsideFreeze line forward = if forward then span.endLine else span.startLine - 1) ∨
    ((∀ span ∈ d.spans, ¬ span.Straddles line) ∧ d.outsideFreeze line forward = line) := by
  unfold outsideFreeze
  cases hfound : d.freezeSpanAt (.single (line + 1)) with
  | none =>
    refine .inr ⟨fun span hspan hstraddles => ?_, rfl⟩
    exact not_covers_of_freezeSpanAt hfound span hspan
      ⟨Nat.le_succ_of_le hstraddles.1, hstraddles.2⟩
  | some span =>
    obtain ⟨hmem, hcovers⟩ := covers_of_freezeSpanAt h hfound
    dsimp only
    split
    · next hstart => exact .inl ⟨span, hmem, ⟨hstart, hcovers.2⟩, rfl⟩
    · next hstart =>
      refine .inr ⟨fun s hs hstraddles => hstart ?_, rfl⟩
      rw [← h.eq_of_covers hs hmem ⟨Nat.le_succ_of_le hstraddles.1, hstraddles.2⟩ hcovers]
      exact hstraddles.1

theorem isSeam_outsideFreeze (h : MarkerRegistry.SpansWithin 1 (1 + d.lineCount) d.spans)
    {line : Nat} (hline : line ≤ d.lineCount) (forward : Bool) :
    d.IsSeam (fun span => if forward then span.endLine else span.startLine - 1) line
      (d.outsideFreeze line forward) := by
  refine ⟨cuttable_outsideFreeze h hline forward, fun hnone => ?_, fun s hs hstraddles => ?_⟩
  · rcases outsideFreeze_cases h line forward with ⟨span, hmem, hspan, -⟩ | ⟨-, heq⟩
    · exact absurd hspan (hnone span hmem)
    · exact heq
  · rcases outsideFreeze_cases h line forward with ⟨span, hmem, hspan, heq⟩ | ⟨hnone, -⟩
    · have hsame : s = span :=
        h.eq_of_covers hs hmem (n := line) ⟨hstraddles.1, Nat.le_of_lt hstraddles.2⟩
          ⟨hspan.1, Nat.le_of_lt hspan.2⟩
      rw [heq, hsame]
    · exact absurd hstraddles (hnone s hs)

variable [NodeView N]

/-- The statements outside frozen regions. -/
def unfrozen (d : Document N) : List (Statement N) :=
  (statements d.nodes).filter fun s => ¬ d.Frozen s.node

theorem unfrozen_make (format : Format N) (d : Document N) :
    (Prepared.make format d).unfrozen = d.unfrozen := by
  refine List.filter_congr fun s _ => ?_
  rw [Bool.eq_iff_iff, Bool.not_eq_true', decide_eq_true_iff]
  exact Pairing.isFrozen_eq_false

/-- The line that a template is asked to follow when it goes next to a statement. -/
def AsksFor (d : Document N) (anchor : Statement N) : Placement → Nat → Prop
  | .before, line => line + 1 = anchor.position.startLine
  | .firstChild, line => line = anchor.position.endLine
  | .after, line | .lastChild, line => d.IsSubtreeEnd anchor line
  | .replace, _ => False

end Document

variable [NodeView N]

/-- An outcome that is a destination, given by its text, with the statements of a template put in
    after line `seam`. -/
structure Inserted (template destination : Document N) (source : Text) (seam : Nat) (o : Outcome) :
    Prop where
  /-- The lines up to the seam, what the statements are in the template, and the other lines. -/
  content : o.content = Text.joinBlocks ((destination.sourceRange 1 seam ::
    template.unfrozen.map (template.slice ·.position) ++
      [destination.sourceRange (seam + 1) destination.lineCount]).filter (· ≠ []))
  /-- The log: an addition for each statement. -/
  decisions : o.decisions = template.unfrozen.map Merger.addedEntry
  /-- Without statements nothing happens. -/
  unchanged : template.unfrozen = [] → o.content = source ∧ o.changed = false

namespace Merger

variable {m : Merger N} {r : MarkerRegistry} {t d : Text} {td dd : Document N}

omit [NodeView N] in
theorem assemble_cut (dd : Document N) (line : Nat) :
    Text.assemble [dd.sourceRange 1 line, dd.sourceRange (line + 1) dd.lineCount] = dd.source := by
  refine Document.assemble_eq_source ?_
  rw [List.flatMap_cons, List.flatMap_singleton, Document.splitLines_sourceRange,
    Document.splitLines_sourceRange, Nat.sub_self, List.drop_zero, Nat.add_sub_cancel,
    Document.lineCount, List.take_length, List.take_append_drop]

theorem inserted_insertAfterLine (L : Linewise m.format r) (hd : m.format.parse d = .ok dd)
    (td : Document N) (line : Nat) :
    let o := insertAfterLine (.make m.format td) (.make m.format dd) line
    Inserted td dd d line { o with changed := decide (o.content ≠ d) } := by
  intro o
  have hblocks : o.content = Text.assemble (dd.sourceRange 1 line ::
      td.unfrozen.map (td.slice ·.position) ++ [dd.sourceRange (line + 1) dd.lineCount]) := by
    show Text.assemble (List.map _ (_ :: _ ++ [_])) = _
    rw [Document.unfrozen_make, List.map_append, List.map_cons, List.map_map]
    rfl
  have hnothing : td.unfrozen = [] → o.content = d := by
    intro hnil
    rw [hblocks, hnil, ← (L.orderly d dd hd).1]
    exact assemble_cut dd line
  refine ⟨hblocks.trans (Text.assemble_eq_joinBlocks _), ?_, fun hnil => ⟨hnothing hnil, ?_⟩⟩
  · exact (decisions_insert _ _ line).trans (by rw [Document.unfrozen_make])
  · exact decide_eq_false (not_not_intro (hnothing hnil))

/-- Where a template goes next to a statement, and where it is put. -/
theorem isSeam_insertionLine (L : Linewise m.format r) (hd : m.format.parse d = .ok dd)
    {anchor : Statement N} (hanchor : anchor ∈ statements dd.nodes) {placement : Placement}
    (hplacement : placement ≠ .replace)
    (hend : dd.IsSubtreeEnd anchor ((Prepared.make m.format dd).subtreeEnd anchor)) :
    ∃ asked, dd.AsksFor anchor placement asked ∧ dd.IsSeam placement.edge asked
      (insertionLine (.make m.format dd) anchor placement) := by
  have hsound := L.sound hd
  obtain ⟨hfirst, hlast⟩ := (L.inOrder hd).within anchor hanchor
  have hbefore : anchor.position.startLine - 1 ≤ dd.lineCount :=
    Nat.le_trans (Nat.sub_le _ 1) (Nat.le_trans anchor.position.ordered hlast)
  have hsubtree := hsound.subtreeEnd_le hanchor
  cases placement with
  | replace => exact absurd rfl hplacement
  | before =>
    exact ⟨_, Nat.sub_add_cancel hfirst,
      Document.isSeam_outsideFreeze hsound.spans hbefore false⟩
  | firstChild => exact ⟨_, rfl, Document.isSeam_outsideFreeze hsound.spans hlast true⟩
  | after => exact ⟨_, hend, Document.isSeam_outsideFreeze hsound.spans hsubtree true⟩
  | lastChild => exact ⟨_, hend, Document.isSeam_outsideFreeze hsound.spans hsubtree true⟩

theorem mergePartial_insert (ht : m.format.parse t = .ok td) (hd : m.format.parse d = .ok dd)
    (hs : m.options.strategy ≠ .batch) {request : Injection.Request N}
    (hrequest : request.placement ≠ .replace) {anchor : Statement N}
    (hanchor : Injection.find (statements dd.nodes) request.anchor = some anchor) :
    let o := insertAfterLine (.make m.format td) (.make m.format dd)
      (insertionLine (.make m.format dd) anchor request.placement)
    m.mergePartial t d request = .ok { o with changed := decide (o.content ≠ d) } := by
  intro o
  obtain ⟨point, hpoint⟩ := locate_of_find (Option.isSome_iff_exists.2 ⟨anchor, hanchor⟩)
  have hown : point.anchor = anchor :=
    Option.some.inj ((find_of_locate hpoint).symm.trans hanchor)
  have happly : m.applyAt (.make m.format td) (.make m.format dd) point = .ok o := by
    rw [applyAt, Injection.placement_of_locate hpoint, hown]
    split
    · next heq => exact absurd heq hrequest
    · rfl
  rw [mergePartial_eq ht hd hpoint, happly]
  exact finish_eq hs d o

end Merger

/-! ### The two formats -/

/-- Whatever is put next to a statement that is found, the destination is cut at a seam and nothing
    else happens to it. -/
def Format.InsertsPurely (format : Format N) : Prop :=
  ∀ (options : MergeOptions) (t d : Text) (td dd : Document N) (request : Injection.Request N)
    (anchor : Statement N), options.strategy ≠ .batch →
    format.parse t = .ok td → format.parse d = .ok dd → request.placement ≠ .replace →
    Injection.find (statements dd.nodes) request.anchor = some anchor →
      ∃ asked seam o, dd.AsksFor anchor request.placement asked ∧
        dd.IsSeam request.placement.edge asked seam ∧
        Merger.mergePartial ⟨format, options⟩ t d request = .ok o ∧ Inserted td dd d seam o

/-- Formats that read line by line insert purely, if subtrees end where they are said to end. -/
theorem Linewise.insertsPurely {format : Format N} {r : MarkerRegistry} (L : Linewise format r)
    (hends : ∀ {s : Text} {d : Document N}, format.parse s = .ok d → ∀ a ∈ statements d.nodes,
      d.IsSubtreeEnd a ((Prepared.make format d).subtreeEnd a)) : format.InsertsPurely := by
  intro options t d td dd request anchor hs ht hd hrequest hfind
  have hanchor : anchor ∈ statements dd.nodes := List.mem_of_find?_eq_some hfind
  let m : Merger N := ⟨format, options⟩
  have hL : Linewise m.format r := L
  obtain ⟨asked, hasked, hseam⟩ :=
    Merger.isSeam_insertionLine hL hd hanchor hrequest (hends hd anchor hanchor)
  exact ⟨asked, _, _, hasked, hseam, Merger.mergePartial_insert (m := m) ht hd hs hrequest hfind,
    Merger.inserted_insertAfterLine hL hd td _⟩

/-- Insertions are pure splices, in outlines and in key/value files. -/
theorem insertion_is_splice (markers : MarkerRegistry) (options : KeyValue.Options) :
    (Outline.format markers).InsertsPurely ∧ (KeyValue.format options markers).InsertsPurely := by
  constructor
  · refine (Outline.linewise markers).insertsPurely fun hd a ha => ?_
    exact Prepared.isSubtreeEnd_of_nested (Outline.nested hd)
      ((Outline.linewise markers).sound hd) (Outline.tiles_of_parse hd) ha
  · refine (KeyValue.linewise options markers).insertsPurely fun hd a ha => ?_
    exact Prepared.isSubtreeEnd_of_flat ha rfl fun n m h => by cases h

/-- The anchor is inside a region, and what is to follow it follows the region. -/
theorem insertion_is_splice_after_region :
    let m : Merger (Typed KeyValue.Node) := ⟨KeyValue.format ⟨none, none⟩ .builtin, .standard⟩
    let t := "x=9".toList
    let d := "# structmerge:freeze\nb=3\n# structmerge:unfreeze\nc=4".toList
    let request : Injection.Request (Typed KeyValue.Node) := .make .any .after
    ∃ td dd anchor, m.options.strategy ≠ .batch ∧ m.format.parse t = .ok td ∧
      m.format.parse d = .ok dd ∧ request.placement ≠ .replace ∧
      Injection.find (statements dd.nodes) request.anchor = some anchor ∧
      ∃ asked seam o, dd.AsksFor anchor request.placement asked ∧
        dd.IsSeam request.placement.edge asked seam ∧ m.mergePartial t d request = .ok o ∧
        Inserted td dd d seam o ∧
        o.content = "# structmerge:freeze\nb=3\n# structmerge:unfreeze\nx=9\nc=4".toList := by
  intro m t d request
  have hcontent : (m.mergePartial t d request).toOption.map (·.content) =
      some "# structmerge:freeze\nb=3\n# structmerge:unfreeze\nx=9\nc=4".toList := by
    decide +kernel
  obtain ⟨td, ht⟩ : ∃ td, m.format.parse t = .ok td := ⟨_, rfl⟩
  obtain ⟨dd, hd⟩ : ∃ dd, m.format.parse d = .ok dd := ⟨_, rfl⟩
  have hfind : ((m.format.parse d).toOption.bind fun dd =>
      Injection.find (statements dd.nodes) request.anchor).isSome = true := by decide +kernel
  rw [hd] at hfind
  obtain ⟨anchor, hanchor⟩ := Option.isSome_iff_exists.1 hfind
  obtain ⟨asked, seam, o, hasked, hseam, ho, hinserted⟩ :=
    (insertion_is_splice .builtin ⟨none, none⟩).2 m.options t d td dd request anchor (by decide) ht
      hd (by decide) hanchor
  have ho : m.mergePartial t d request = .ok o := ho
  rw [ho] at hcontent
  exact ⟨td, dd, anchor, by decide, ht, hd, by decide, hanchor, asked, seam, o, hasked, hseam, ho,
    hinserted, Option.some.inj hcontent⟩

end TemplateMerge
