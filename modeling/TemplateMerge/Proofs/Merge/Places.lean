import TemplateMerge.Merge.Basic
import TemplateMerge.Proofs.Document.Statements
import TemplateMerge.Proofs.Freeze.Scan
import TemplateMerge.Proofs.Merge.Lines

/-! Places where a document can be cut.

    A partial merge puts lines in after some line, and that must not be inside a frozen region.  A
    place inside is moved to an end of its region, and a range that would end inside is widened
    until it does not.

        lines          1   ▒▒▒▒▒▒▒   5
        after line 3       ▲ ·   ▲            before or after the region
        range 1–3      ─────────────          widened to line 4 -/

namespace TemplateMerge

variable {N : Type}

namespace Document

variable {d : Document N}

/-- A document can be cut after a line of it that is not inside a region. -/
def Cuttable (d : Document N) (line : Nat) : Prop :=
  line ≤ d.lineCount ∧ ∀ span ∈ d.spans, ¬ span.Straddles line

theorem covers_of_freezeSpanAt (h : MarkerRegistry.SpansWithin 1 (1 + d.lineCount) d.spans)
    {line : Nat} {span : FreezeSpan} (hspan : d.freezeSpanAt (.single line) = some span) :
    span ∈ d.spans ∧ span.Covers line := by
  have hmem : span ∈ d.spans := List.mem_of_find?_eq_some hspan
  have hlt := (h.2 span hmem).2.1
  have hintersects : span.intersects (.single line) = true :=
    List.find?_some (p := fun s : FreezeSpan => s.intersects (.single line)) hspan
  obtain ⟨hstart, hend⟩ := Position.intersects_iff.1 hintersects
  rw [FreezeSpan.position, Position.endLine_ofLines, Position.startLine_single] at hend
  exact ⟨hmem, hstart, by omega⟩

theorem not_covers_of_freezeSpanAt {line : Nat} (h : d.freezeSpanAt (.single line) = none) :
    ∀ span ∈ d.spans, ¬ span.Covers line := by
  intro span hspan hcovers
  refine List.find?_eq_none.1 h span hspan (Position.intersects_iff.2 ⟨hcovers.1, ?_⟩)
  exact Nat.le_trans hcovers.2 (Nat.le_max_left ..)

theorem cuttable_outsideFreeze (h : MarkerRegistry.SpansWithin 1 (1 + d.lineCount) d.spans)
    {line : Nat} (hline : line ≤ d.lineCount) (forward : Bool) :
    d.Cuttable (d.outsideFreeze line forward) := by
  unfold outsideFreeze
  split
  · next span hfound =>
    obtain ⟨hmem, hcovers⟩ := covers_of_freezeSpanAt h hfound
    obtain ⟨hfirst, hlt, hstop⟩ := h.2 span hmem
    split
    · next hstart =>
      -- at an end of the region no other region is open
      cases forward with
      | true =>
        refine ⟨by rw [if_pos rfl]; omega, fun s hs hstraddles => ?_⟩
        rw [if_pos rfl] at hstraddles
        have : s = span := h.eq_of_covers hs hmem ⟨hstraddles.1, Nat.le_of_lt hstraddles.2⟩
          ⟨Nat.le_of_lt hlt, Nat.le_refl _⟩
        exact absurd hstraddles.2 (by rw [this]; omega)
      | false =>
        refine ⟨by rw [if_neg (by decide)]; omega, fun s hs hstraddles => ?_⟩
        rw [if_neg (by decide)] at hstraddles
        obtain ⟨hs1, hs2⟩ := hstraddles
        have : s = span := h.eq_of_covers hs hmem (n := span.startLine) ⟨by omega, by omega⟩
          ⟨Nat.le_refl _, Nat.le_of_lt hlt⟩
        rw [this] at hs1
        omega
    · next hstart =>
      refine ⟨hline, fun s hs hstraddles => ?_⟩
      have : s = span := h.eq_of_covers hs hmem ⟨Nat.le_succ_of_le hstraddles.1, hstraddles.2⟩
        hcovers
      exact hstart (this ▸ hstraddles.1)
  · next hnone =>
    refine ⟨hline, fun s hs hstraddles => ?_⟩
    exact not_covers_of_freezeSpanAt hnone s hs ⟨Nat.le_succ_of_le hstraddles.1, hstraddles.2⟩

/-- Where no region is found that reaches past a line, there is none, if regions stand apart. -/
theorem not_straddles_of_spanPast?
    (h : d.spans.Pairwise fun s t => s.position.endLine < t.position.startLine) {line : Nat}
    (hnone : d.spanPast? line = none) : ∀ span ∈ d.spans, ¬ span.Straddles line := by
  rintro span hspan ⟨hstart, hpast⟩
  have hhere : span.position.startLine ≤ line ∧ line ≤ span.position.endLine :=
    ⟨hstart, Nat.le_trans (Nat.le_of_lt hpast) (Nat.le_max_left ..)⟩
  cases hfound : d.freezeSpanAt (.single line) with
  | none => exact List.find?_eq_none.1 hfound span hspan (Position.intersects_iff.2 hhere)
  | some other =>
    have hother : other.intersects (.single line) = true :=
      List.find?_some (p := fun s : FreezeSpan => s.intersects (.single line)) hfound
    have hsame : other = span := by
      refine MarkerRegistry.eq_of_apart
        (q := fun s : FreezeSpan => s.position.startLine ≤ line ∧ line ≤ s.position.endLine)
        h ?_ (List.mem_of_find?_eq_some hfound) hspan (Position.intersects_iff.1 hother) hhere
      rintro a b hlt ⟨-, ha⟩ ⟨hb, -⟩
      omega
    rw [spanPast?, hfound, Option.filter_eq_none_iff] at hnone
    exact hnone other rfl (by simpa [hsame] using hpast)

/-- Where no region reaches past a line, the document can be cut after it. -/
theorem cuttable_of_spanPast? (h : MarkerRegistry.SpansWithin 1 (1 + d.lineCount) d.spans)
    {line : Nat} (hline : line ≤ d.lineCount) (hnone : d.spanPast? line = none) :
    d.Cuttable line :=
  ⟨hline, not_straddles_of_spanPast? h.positions_apart hnone⟩

theorem mem_of_spanPast? {line : Nat} {span : FreezeSpan}
    (h : d.spanPast? line = some span) : span ∈ d.spans ∧ span.Straddles line := by
  obtain ⟨hfound, hpast⟩ := Option.filter_eq_some_iff.1 h
  have hintersects : span.intersects (.single line) = true :=
    List.find?_some (p := fun s : FreezeSpan => s.intersects (.single line)) hfound
  exact ⟨List.mem_of_find?_eq_some hfound, (Position.intersects_iff.1 hintersects).1,
    by simpa using hpast⟩

theorem spanPast?_of_cuttable (h : MarkerRegistry.SpansWithin 1 (1 + d.lineCount) d.spans)
    {line : Nat} (hcut : d.Cuttable line) : d.spanPast? line = none := by
  refine Option.eq_none_iff_forall_ne_some.2 fun span hspan => ?_
  obtain ⟨hfound, hpast⟩ := Option.filter_eq_some_iff.1 hspan
  obtain ⟨hmem, hcovers⟩ := covers_of_freezeSpanAt h hfound
  exact hcut.2 span hmem ⟨hcovers.1, by simpa using hpast⟩

end Document

variable [NodeView N]

namespace Prepared

/-- A document whose statements are numbered and stand in order, and whose regions do too. -/
structure Sound (p : Prepared N) : Prop where
  numbered : NumberedFrom 0 p.list
  ordered : InOrder 1 p.document.lineCount p.list
  spans : MarkerRegistry.SpansWithin 1 (1 + p.document.lineCount) p.document.spans

variable {p : Prepared N}

theorem Sound.endLine_lt (h : p.Sound) {i j : Nat} {s t : Statement N} (hs : p.list[i]? = some s)
    (ht : p.list[j]? = some t) (hij : i < j) : s.position.endLine < t.position.startLine := by
  obtain ⟨hi, rfl⟩ := List.getElem?_eq_some_iff.1 hs
  obtain ⟨hj, rfl⟩ := List.getElem?_eq_some_iff.1 ht
  exact List.pairwise_iff_getElem.1 h.ordered.apart i j hi hj hij

theorem Sound.endLine_mono (h : p.Sound) {i j : Nat} {s t : Statement N}
    (hs : p.list[i]? = some s) (ht : p.list[j]? = some t) (hij : i ≤ j) :
    s.position.endLine ≤ t.position.endLine := by
  rcases Nat.lt_or_eq_of_le hij with hlt | rfl
  · exact Nat.le_of_lt (Nat.lt_of_lt_of_le (h.endLine_lt hs ht hlt) t.position.ordered)
  · rw [Option.some.inj (hs.symm.trans ht)]

/-- The statements before one are those that end before it begins. -/
theorem Sound.index_lt_iff (h : p.Sound) {i j : Nat} {s t : Statement N} (hs : p.list[i]? = some s)
    (ht : p.list[j]? = some t) : i < j ↔ s.position.endLine < t.position.startLine := by
  refine ⟨h.endLine_lt hs ht, fun hlt => ?_⟩
  by_contra hge
  have := h.endLine_mono ht hs (Nat.le_of_not_lt hge)
  have := t.position.ordered
  omega

theorem Sound.index_le_iff (h : p.Sound) {i j : Nat} {s t : Statement N} (hs : p.list[i]? = some s)
    (ht : p.list[j]? = some t) : i ≤ j ↔ s.position.endLine ≤ t.position.endLine := by
  refine ⟨h.endLine_mono hs ht, fun hle => ?_⟩
  by_contra hgt
  have := h.endLine_lt ht hs (Nat.lt_of_not_le hgt)
  have := s.position.ordered
  omega

/-- The line before the next statement is a line of the document, and no statement up to there
    goes past it. -/
theorem Sound.lineBeforeNext (h : p.Sound) {i : Nat} {s : Statement N} (hs : p.list[i]? = some s) :
    s.position.endLine ≤ p.lineBeforeNext i ∧ p.lineBeforeNext i ≤ p.document.lineCount := by
  have hlast := (h.ordered.within s (List.mem_of_getElem? hs)).2
  unfold Prepared.lineBeforeNext
  split
  · next next hnext =>
    have hlt := h.endLine_lt hs hnext (Nat.lt_succ_self i)
    have hstart := (h.ordered.within next (List.mem_of_getElem? hnext))
    have hordered := next.position.ordered
    omega
  · exact ⟨hlast, Nat.le_refl _⟩

/-- A place where a replaced range may end: after a statement, and within the document. -/
def Ends (p : Prepared N) (index line : Nat) : Prop :=
  ∃ s, p.list[index]? = some s ∧ s.position.endLine ≤ line ∧ line ≤ p.document.lineCount

/-- The statements after the one numbered `index` that begin no later than line `line`. -/
def startingBy (p : Prepared N) (index line : Nat) : List (Statement N) :=
  (p.list.drop (index + 1)).takeWhile (·.position.startLine ≤ line)

theorem getElem?_startingBy {index line j : Nat} (h : j < (p.startingBy index line).length) :
    (p.startingBy index line)[j]? = p.list[index + 1 + j]? := by
  rw [← List.getElem?_drop]
  conv_rhs => rw [← List.takeWhile_append_dropWhile (p := (·.position.startLine ≤ line))
    (l := p.list.drop (index + 1))]
  exact (List.getElem?_append_left h).symm

/-- The last of the statements that begin in time, by their count. -/
theorem lastStartingBy_eq (h : NumberedFrom 0 p.list) (index line : Nat) :
    p.lastStartingBy index line = index + (p.startingBy index line).length := by
  have hlast : p.lastStartingBy index line =
      ((p.startingBy index line).getLast?.map (·.index)).getD index := by
    unfold Prepared.lastStartingBy startingBy
    split <;> next heq => rw [heq]; rfl
  rw [hlast]
  cases hrun : (p.startingBy index line).getLast? with
  | none =>
    rw [List.getLast?_eq_none_iff.1 hrun]
    rfl
  | some s =>
    rw [List.getLast?_eq_getElem?] at hrun
    obtain ⟨hlt, -⟩ := List.getElem?_eq_some_iff.1 hrun
    rw [getElem?_startingBy hlt] at hrun
    rw [Option.map_some, Option.getD_some, h _ s hrun]
    omega

theorem lastStartingBy_lt (h : NumberedFrom 0 p.list) {index : Nat} (hindex : index < p.list.length)
    (line : Nat) : index ≤ p.lastStartingBy index line ∧
      p.lastStartingBy index line < p.list.length := by
  have hcut : (p.startingBy index line).length ≤ (p.list.drop (index + 1)).length :=
    (List.takeWhile_sublist _).length_le
  rw [List.length_drop] at hcut
  rw [lastStartingBy_eq h]
  omega

theorem widen_of_none {index line : Nat} (h : p.document.spanPast? line = none) :
    p.widen index line = (index, line) := by
  rw [Prepared.widen]
  split
  · rfl
  · next hspan => rw [h] at hspan; cases hspan

theorem widen_of_some {index line : Nat} {span : FreezeSpan}
    (h : p.document.spanPast? line = some span) :
    p.widen index line = p.widen (p.lastStartingBy index span.endLine)
      (max (p.lineBeforeNext (p.lastStartingBy index span.endLine)) span.endLine) := by
  rw [Prepared.widen]
  split
  · next hnone => rw [h] at hnone; cases hnone
  · next hspan =>
    rw [h] at hspan
    rw [Option.some.inj hspan]

/-- A widened range ends with a statement, no earlier than before. -/
theorem widen_later (h : NumberedFrom 0 p.list) (index line : Nat)
    (hindex : index < p.list.length) :
    index ≤ (p.widen index line).1 ∧ (p.widen index line).1 < p.list.length := by
  induction index, line using Prepared.widen.induct p with
  | case1 index line hnone =>
    rw [widen_of_none hnone]
    exact ⟨Nat.le_refl _, hindex⟩
  | case2 index line span hspan next ih =>
    obtain ⟨hle, hlt⟩ := lastStartingBy_lt h hindex span.endLine
    obtain ⟨hle', hlt'⟩ := ih hlt
    rw [widen_of_some hspan]
    exact ⟨Nat.le_trans hle hle', hlt'⟩

/-- A widened range still ends after a statement, and where the document can be cut. -/
theorem Sound.widen (h : p.Sound) (index line : Nat) (hends : p.Ends index line) :
    p.Ends (p.widen index line).1 (p.widen index line).2 ∧
      p.document.Cuttable (p.widen index line).2 := by
  induction index, line using Prepared.widen.induct p with
  | case1 index line hnone =>
    rw [widen_of_none hnone]
    obtain ⟨s, hs, hline, hlast⟩ := hends
    exact ⟨⟨s, hs, hline, hlast⟩, Document.cuttable_of_spanPast? h.spans hlast hnone⟩
  | case2 index line span hspan next ih =>
    obtain ⟨s, hs, -, -⟩ := hends
    obtain ⟨hindex, -⟩ := List.getElem?_eq_some_iff.1 hs
    have ht := List.getElem?_eq_getElem (lastStartingBy_lt h.numbered hindex span.endLine).2
    obtain ⟨hend, hlast⟩ := h.lineBeforeNext ht
    have hstop := (h.spans.2 span (Document.mem_of_spanPast? hspan).1).2.2
    rw [widen_of_some hspan]
    exact ih ⟨_, ht, Nat.le_trans hend (Nat.le_max_left ..), Nat.max_le.2 ⟨hlast, by omega⟩⟩

theorem Sound.replacedTail (h : p.Sound) {index : Nat} {s : Statement N}
    (hs : p.list[index]? = some s) :
    p.Ends (p.replacedTail index).1 (p.replacedTail index).2 ∧
      index ≤ (p.replacedTail index).1 ∧ p.document.Cuttable (p.replacedTail index).2 := by
  obtain ⟨hend, hlast⟩ := h.lineBeforeNext hs
  obtain ⟨hindex, -⟩ := List.getElem?_eq_some_iff.1 hs
  obtain ⟨hends, hcut⟩ := h.widen index (p.lineBeforeNext index) ⟨s, hs, hend, hlast⟩
  exact ⟨hends, (widen_later h.numbered index _ hindex).1, hcut⟩

theorem Sound.subtreeEnd_le (h : p.Sound) {anchor : Statement N} (hanchor : anchor ∈ p.list) :
    p.subtreeEnd anchor ≤ p.document.lineCount := by
  have hown := (h.ordered.within anchor hanchor).2
  unfold Prepared.subtreeEnd
  dsimp only
  split
  · exact hown
  · refine Nat.max_le.2 ⟨?_, hown⟩
    split
    · next next hnext =>
      have hmem : next ∈ p.list := List.mem_of_mem_drop (List.mem_of_find?_eq_some hnext)
      exact Nat.le_trans (Nat.sub_le _ 1)
        (Nat.le_trans next.position.ordered (h.ordered.within next hmem).2)
    · exact Nat.le_refl _

end Prepared

/-- A region that a merge can go through: a run of statements in order, after which the document
    can be cut. -/
structure Region.Sound (p : Prepared N) (first : Nat) (region : Region N) : Prop where
  numbered : NumberedFrom first region.list
  ordered : InOrder region.firstLine region.lastLine region.list
  subset : ∀ s ∈ region.list, s ∈ p.list
  firstLine_pos : 1 ≤ region.firstLine
  nonempty : region.firstLine ≤ region.lastLine
  cuttable : p.document.Cuttable region.lastLine

namespace Merger

variable {p : Prepared N}

/-- Where a template is inserted, the document can be cut. -/
theorem cuttable_insertionLine (h : p.Sound) {anchor : Statement N} (hanchor : anchor ∈ p.list)
    (placement : Placement) : p.document.Cuttable (insertionLine p anchor placement) := by
  have hlast := (h.ordered.within anchor hanchor).2
  have hordered := anchor.position.ordered
  have hsubtree := h.subtreeEnd_le hanchor
  cases placement with
  | before => exact Document.cuttable_outsideFreeze h.spans (by omega) false
  | firstChild => exact Document.cuttable_outsideFreeze h.spans hlast true
  | _ => exact Document.cuttable_outsideFreeze h.spans hsubtree true

/-! ### Replaced ranges -/

/-- The last statement of a replaced range, by its number, before the range is widened. -/
def lastAsked (p : Prepared N) (point : Injection.Point N) : Nat :=
  ((point.replaced p.list).getLast?.map (·.index)).getD point.anchor.index

/-- The last statement that a point asks to replace is one from the anchor on. -/
theorem lastReplaced_spec (h : p.Sound) {point : Injection.Point N}
    (hanchor : p.list[point.anchor.index]? = some point.anchor) :
    ∃ s, p.list[lastAsked p point]? = some s ∧ point.anchor.index ≤ lastAsked p point := by
  unfold lastAsked
  cases hlast : (point.replaced p.list).getLast? with
  | none => exact ⟨_, hanchor, Nat.le_refl _⟩
  | some s =>
    obtain ⟨i, hfirst, -, hi⟩ := Statement.mem_range (List.mem_of_getLast? hlast)
    have hindex : s.index = i := by rw [h.numbered i s hi, Nat.zero_add]
    refine ⟨s, ?_, ?_⟩
    · rw [Option.map_some, Option.getD_some, hindex]; exact hi
    · rw [Option.map_some, Option.getD_some, hindex]; exact hfirst

theorem replacedRegion_eq (p : Prepared N) (point : Injection.Point N) :
    replacedRegion p point =
      ⟨Statement.range p.list point.anchor.index (p.replacedTail (lastAsked p point)).1,
        point.anchor.position.startLine, (p.replacedTail (lastAsked p point)).2⟩ := rfl

theorem replacedRegion_sound (h : p.Sound) {point : Injection.Point N}
    (hanchor : p.list[point.anchor.index]? = some point.anchor) :
    Region.Sound p point.anchor.index (replacedRegion p point) := by
  obtain ⟨s, hs, hle⟩ := lastReplaced_spec h hanchor
  obtain ⟨⟨t, ht, hend, -⟩, hindex, hcut⟩ := h.replacedTail hs
  have hpos := (h.ordered.within _ (List.mem_of_getElem? hanchor)).1
  have hlast := h.endLine_mono hanchor ht (Nat.le_trans hle hindex)
  have hordered := point.anchor.position.ordered
  rw [replacedRegion_eq]
  refine ⟨Statement.numberedFrom_range h.numbered _ _, ⟨?_, fun x hx => ?_⟩, fun x hx => ?_, hpos,
    Nat.le_trans hordered (Nat.le_trans hlast hend), hcut⟩
  · exact h.ordered.apart.sublist
      ((List.drop_sublist _ _).trans (List.take_sublist _ _))
  · obtain ⟨i, hfirst, hle', hi⟩ := Statement.mem_range hx
    refine ⟨?_, Nat.le_trans (h.endLine_mono hi ht hle') hend⟩
    rcases Nat.lt_or_eq_of_le hfirst with hlt | rfl
    · have := h.endLine_lt hanchor hi hlt
      dsimp only
      omega
    · rw [← Option.some.inj (hanchor.symm.trans hi)]
  · obtain ⟨i, -, -, hi⟩ := Statement.mem_range hx
    exact List.mem_of_getElem? hi

end Merger

end TemplateMerge
