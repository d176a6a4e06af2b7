import TemplateMerge.Proofs.Format.Linewise

/-! Texts that are made of a document by exchanging and adding lines.

    Lines outside frozen regions are exchanged for others, and lines are put in at one place that is
    inside no region; none of the new lines is a marker.  Then the text can be read again, and its
    regions are those of the document, byte for byte (`regions_survive`).

        document    1   ▒▒▒▒▒   4         ▒▒▒▒▒
        text        x   ▒▒▒▒▒   4   +   + ▒▒▒▒▒ -/

namespace TemplateMerge

variable {N : Type} [NodeView N] {format : Format N} {r : MarkerRegistry}

/-- A line that can be read and is no marker. -/
def Linewise.Plain (L : Linewise format r) (l : Text) : Prop :=
  r.classify l = none ∧ L.reads l = true

/-- A text made of a document: `sub` says what stands for every line, and new lines follow line
    `place`. -/
structure Spliced (L : Linewise format r) (d : Document N) (place : Nat) (sub : Nat → Text)
    (new : List Text) (content : Text) : Prop where
  /-- The lines of the text. -/
  lines : Text.splitLines content = Text.sealLines ((List.range' 1 place).map sub ++ new ++
    (List.range' (1 + place) (d.lineCount - place)).map sub)
  /-- The place is in the document, and inside no region. -/
  place_le : place ≤ d.lineCount
  outside : ∀ span ∈ d.spans, ¬ span.Straddles place
  /-- Lines are kept, or are exchanged outside regions. -/
  kept : ∀ line, 1 ≤ line → line ≤ d.lineCount → sub line = d.line line ∨
    ((∀ span ∈ d.spans, ¬ span.Covers line) ∧ L.Plain (sub line))
  /-- New lines are plain. -/
  fresh : ∀ l ∈ new, L.Plain l

/-- A region that was carried over: its markers are the same, and so are its lines, save that the
    last one may have been ended. -/
structure SameRegion (d d' : Document N) (s s' : FreezeSpan) : Prop where
  startMarker : s'.startMarker = s.startMarker
  endMarker : s'.endMarker = s.endMarker
  reason : s'.reason = s.reason
  slice : d'.slice s'.position = d.slice s.position ∨
    d'.slice s'.position = (d.slice s.position).close

variable {L : Linewise format r} {d : Document N} {s content : Text} {place : Nat}
  {sub : Nat → Text} {new : List Text}

namespace Spliced

theorem readAlike (h : Spliced L d place sub new content) (hd : format.parse s = .ok d)
    {first n : Nat} (h1 : 1 ≤ first) (h2 : first + n ≤ d.lineCount + 1) :
    List.Forall₂ r.ReadAlike ((List.range' first n).map d.line)
      ((List.range' first n).map sub) := by
  rw [List.forall₂_map_left_iff, List.forall₂_map_right_iff, List.forall₂_same]
  intro line hline
  obtain ⟨hge, hlt⟩ := List.mem_range'_1.1 hline
  rcases h.kept line (by omega) (by omega) with heq | ⟨hout, hplain⟩
  · rw [heq]
    exact MarkerRegistry.ReadAlike.refl _
  · exact .inl ⟨L.unmarked_of_outside hd (by omega) (by omega) hout, hplain.1⟩

/-- Every line of the text can be read. -/
theorem reads (h : Spliced L d place sub new content) (hd : format.parse s = .ok d) :
    ∀ l ∈ Text.splitLines content, L.reads l = true := by
  have hsub : ∀ line, 1 ≤ line → line ≤ d.lineCount → L.reads (sub line) = true := by
    intro line h1 h2
    rcases h.kept line h1 h2 with heq | ⟨-, hplain⟩
    · rw [heq]
      exact L.reads_line hd h1 h2
    · exact hplain.2
  have hplace := h.place_le
  have hraw : ∀ l ∈ (List.range' 1 place).map sub ++ new ++
      (List.range' (1 + place) (d.lineCount - place)).map sub, L.reads l = true := by
    intro l hl
    rw [List.mem_append, List.mem_append, List.mem_map, List.mem_map] at hl
    rcases hl with (⟨line, hline, rfl⟩ | hl) | ⟨line, hline, rfl⟩
    · have := List.mem_range'_1.1 hline
      exact hsub line (by omega) (by omega)
    · exact (h.fresh l hl).2
    · have := List.mem_range'_1.1 hline
      exact hsub line (by omega) (by omega)
  intro l hl
  rw [h.lines] at hl
  obtain ⟨k, hk, rfl | rfl⟩ := Text.mem_sealLines hl
  · exact hraw l hk
  · rw [L.reads_close]
    exact hraw k hk

/-- The scan finds the regions of before, those after the place further down. -/
theorem scan (h : Spliced L d place sub new content) (hd : format.parse s = .ok d) :
    ∃ sa sb, d.spans = sa ++ sb ∧ MarkerRegistry.SpansWithin 1 (1 + place) sa ∧
      MarkerRegistry.SpansWithin (1 + place) (1 + d.lineCount) sb ∧
      r.scan (Text.splitLines content) = .ok (sa ++ sb.map (·.shift new.length)) := by
  have hplace := h.place_le
  have hscan := L.scan_lines hd
  rw [Document.lines_eq_cut hplace] at hscan
  have hcut : ∀ span ∈ d.spans, ¬ span.Straddles ((List.range' 1 place).map d.line).length := by
    rw [List.length_map, List.length_range']
    exact h.outside
  obtain ⟨sa, sb, hspans, hsa, hsb, hnew⟩ := MarkerRegistry.scan_splice hscan hcut
    (h.readAlike hd (Nat.le_refl 1) (by omega)) (h.readAlike hd (by omega) (by omega))
    fun l hl => (h.fresh l hl).1
  rw [List.length_map, List.length_range'] at hsa hsb
  rw [List.length_map, List.length_range', Nat.add_assoc, Nat.add_sub_of_le hplace] at hsb
  refine ⟨sa, sb, hspans, hsa, hsb, ?_⟩
  rw [← hnew, h.lines]
  exact MarkerRegistry.scanFrom_congr (MarkerRegistry.readAlike_sealLines _) none 1

theorem sub_region (h : Spliced L d place sub new content) {span : FreezeSpan}
    (hspan : span ∈ d.spans) (h1 : 1 ≤ span.startLine) (h2 : span.endLine ≤ d.lineCount) :
    (List.range' span.startLine (span.endLine + 1 - span.startLine)).map sub =
      (List.range' span.startLine (span.endLine + 1 - span.startLine)).map d.line := by
  refine List.map_congr_left fun line hline => ?_
  obtain ⟨hge, hlt⟩ := List.mem_range'_1.1 hline
  rcases h.kept line (by omega) (by omega) with heq | ⟨hout, -⟩
  · exact heq
  · exact absurd ⟨hge, by omega⟩ (hout span hspan)

/-- A region before the place has stayed where it was. -/
theorem region_before (h : Spliced L d place sub new content) {d' : Document N}
    (hlines : d'.lines = Text.splitLines content) {span : FreezeSpan} (hspan : span ∈ d.spans)
    (h1 : 1 ≤ span.startLine) (hlt : span.startLine < span.endLine) (h2 : span.endLine ≤ place) :
    SameRegion d d' span span := by
  have hplace := h.place_le
  have hcut : (List.range' 1 place).map sub =
      (List.range' 1 (span.startLine - 1)).map sub ++
        ((List.range' span.startLine (span.endLine + 1 - span.startLine)).map d.line ++
          (List.range' (span.endLine + 1) (1 + place - (span.endLine + 1))).map sub) := by
    rw [← h.sub_region hspan h1 (by omega), ← List.map_append, ← List.map_append,
      ← range'_cut (by omega) (by omega), ← range'_cut h1 (by omega), Nat.add_sub_cancel_left]
  rw [h.lines, hcut] at hlines
  simp only [List.append_assoc] at hlines
  rw [← List.append_assoc] at hlines
  have hrun := Document.sourceRange_of_run h1 (by omega) hlines
  rw [List.length_map, List.length_range', Nat.sub_add_cancel h1,
    show span.startLine - 1 + (span.endLine + 1 - span.startLine) = span.endLine by omega] at hrun
  have hend : max span.endLine span.startLine = span.endLine := by omega
  refine ⟨rfl, rfl, rfl, ?_⟩
  rw [Document.slice, Document.slice, FreezeSpan.position, Position.startLine_ofLines,
    Position.endLine_ofLines, hend]
  exact hrun

/-- A region after the place has moved down. -/
theorem region_after (h : Spliced L d place sub new content) {d' : Document N}
    (hlines : d'.lines = Text.splitLines content) {span : FreezeSpan} (hspan : span ∈ d.spans)
    (h1 : place < span.startLine) (hlt : span.startLine < span.endLine)
    (h2 : span.endLine ≤ d.lineCount) : SameRegion d d' span (span.shift new.length) := by
  have hplace := h.place_le
  have hcut : (List.range' (1 + place) (d.lineCount - place)).map sub =
      (List.range' (1 + place) (span.startLine - (1 + place))).map sub ++
        ((List.range' span.startLine (span.endLine + 1 - span.startLine)).map d.line ++
          (List.range' (span.endLine + 1) (d.lineCount + 1 - (span.endLine + 1))).map sub) := by
    rw [← h.sub_region hspan (by omega) h2, ← List.map_append, ← List.map_append,
      ← range'_cut (by omega) (by omega), ← range'_cut (by omega) (by omega)]
    congr 2
    omega
  rw [h.lines, hcut, ← List.append_assoc, ← List.append_assoc] at hlines
  have hrun := Document.sourceRange_of_run (by omega) h2 hlines
  rw [List.length_append, List.length_append, List.length_map, List.length_map, List.length_range',
    List.length_range'] at hrun
  have hend : max span.endLine span.startLine = span.endLine := by omega
  have hend' : max (span.endLine + new.length) (span.startLine + new.length) =
      span.endLine + new.length := by omega
  refine ⟨rfl, rfl, rfl, ?_⟩
  rw [Document.slice, Document.slice, FreezeSpan.position, FreezeSpan.position,
    Position.startLine_ofLines, Position.endLine_ofLines, Position.startLine_ofLines,
    Position.endLine_ofLines, FreezeSpan.shift, hend, hend']
  rw [show span.startLine + new.length =
      place + new.length + (span.startLine - (1 + place)) + 1 by omega,
    show span.endLine + new.length = place + new.length + (span.startLine - (1 + place)) +
      (span.endLine + 1 - span.startLine) by omega]
  exact hrun

/-- The text can be read again, and its regions are those of the document. -/
theorem regions_survive (h : Spliced L d place sub new content) (hd : format.parse s = .ok d) :
    ∃ d', format.parse content = .ok d' ∧
      List.Forall₂ (SameRegion d d') d.spans d'.spans := by
  obtain ⟨sa, sb, hspans, hsa, hsb, hscan⟩ := h.scan hd
  obtain ⟨d', hd'⟩ := L.parse_of hscan (h.reads hd)
  have hlines : d'.lines = Text.splitLines content := L.lines_eq hd'
  have hspans' : d'.spans = sa ++ sb.map (·.shift new.length) := by
    have := L.scan_lines hd'
    rw [hlines, hscan] at this
    exact (Except.ok.inj this).symm
  have hplace := h.place_le
  refine ⟨d', hd', ?_⟩
  have hbefore : List.Forall₂ (SameRegion d d') sa sa := by
    refine List.forall₂_same.2 fun span hspan => ?_
    obtain ⟨h1, hlt, hstop⟩ := hsa.2 span hspan
    exact h.region_before hlines (by rw [hspans]; simp [hspan]) h1 hlt (by omega)
  have hafter : List.Forall₂ (SameRegion d d') sb (sb.map (·.shift new.length)) := by
    refine List.forall₂_map_right_iff.2 (List.forall₂_same.2 fun span hspan => ?_)
    obtain ⟨h1, hlt, hstop⟩ := hsb.2 span hspan
    exact h.region_after hlines (by rw [hspans]; simp [hspan]) (by omega) hlt (by omega)
  rw [hspans', hspans]
  exact List.rel_append hbefore hafter

end Spliced

end TemplateMerge
