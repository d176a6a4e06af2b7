import TemplateMerge.Proofs.Merge.FrozenRegions
import TemplateMerge.Proofs.Merge.Widening

/-! The end of a replaced range.

    A range is widened in rounds, each up to the end of the region that it ended in or further.
    Then fewer regions reach past the range, so there are no more rounds than regions, however the
    regions and statements lie.

        lines          1   2   3   4   5   6   7   8   9   10
        regions            ▒▒▒▒▒▒▒▒▒       ▒▒▒▒▒▒▒▒▒
        statements     s       t               u           v
        asked          ─────                                    s, up to line 2
        first round    ─────────────────────                    over t, up to line 6
        second round   ─────────────────────────────────        over u, up to line 9

    In a document in order the range is then as the merge needs it: it ends on the line before the
    next statement, and not inside a region. -/

namespace TemplateMerge

variable {N : Type} [NodeView N]

namespace Prepared

/-! ### Rounds -/

/-- One round for a range that ends with the statement numbered `tail.1` on line `tail.2`; none, if
    no region reaches past it. -/
def round? (p : Prepared N) (tail : Nat × Nat) : Option (Nat × Nat) :=
  (p.document.spanPast? tail.2).map fun span =>
    let next := p.lastStartingBy tail.1 span.endLine
    (next, max (p.lineBeforeNext next) span.endLine)

/-- The given number of rounds, if there are as many. -/
def rounds (p : Prepared N) : Nat → Nat × Nat → Option (Nat × Nat)
  | 0, tail => some tail
  | n + 1, tail => (p.round? tail).bind (p.rounds n)

/-- The number of regions that end after a line. -/
def regionsAfter (p : Prepared N) (line : Nat) : Nat :=
  p.document.spans.countP fun s => decide (line < s.endLine)

variable {p : Prepared N}

omit [NodeView N] in
theorem regionsAfter_lt {line later : Nat} {span : FreezeSpan} (hspan : span ∈ p.document.spans)
    (hpast : line < span.endLine) (hlater : span.endLine ≤ later) :
    p.regionsAfter later < p.regionsAfter line := by
  have hmono : ∀ spans : List FreezeSpan, spans.countP (fun s => decide (later < s.endLine)) ≤
      spans.countP (fun s => decide (line < s.endLine)) := fun spans =>
    List.countP_mono_left fun s _ hs => by
      simp only [decide_eq_true_eq] at hs ⊢
      omega
  obtain ⟨front, back, hsplit⟩ := List.append_of_mem hspan
  have hfront := hmono front
  have hback := hmono back
  -- the region itself no longer counts
  simp only [regionsAfter, hsplit, List.countP_append, List.countP_cons, hpast,
    Nat.not_lt.2 hlater, decide_true, decide_false]
  simp
  omega

/-- Widening is as many rounds as there are, and no more than the regions that end later. -/
theorem rounds_widen (p : Prepared N) (index line : Nat) :
    ∃ n ≤ p.regionsAfter line, p.rounds n (index, line) = some (p.widen index line) ∧
      p.round? (p.widen index line) = none := by
  induction index, line using Prepared.widen.induct p with
  | case1 index line hnone =>
    rw [widen_of_none hnone]
    refine ⟨0, Nat.zero_le _, rfl, ?_⟩
    rw [round?, hnone, Option.map_none]
  | case2 index line span hspan next ih =>
    rw [widen_of_some hspan]
    obtain ⟨n, hn, hrounds, hend⟩ := ih
    obtain ⟨hmem, -, hpast⟩ := Document.mem_of_spanPast? hspan
    have hfewer := regionsAfter_lt hmem hpast (Nat.le_max_right (p.lineBeforeNext next) _)
    refine ⟨n + 1, Nat.le_trans (Nat.succ_le_succ hn) hfewer, ?_, hend⟩
    rw [rounds, round?, hspan, Option.map_some, Option.bind_some]
    exact hrounds

/-- Rounds after which there are no more are the widening. -/
theorem widen_of_rounds {n : Nat} {tail last : Nat × Nat} (h : p.rounds n tail = some last)
    (hend : p.round? last = none) : p.widen tail.1 tail.2 = last := by
  induction n generalizing tail with
  | zero =>
    obtain rfl : tail = last := Option.some.inj h
    exact widen_of_none (Option.map_eq_none_iff.1 hend)
  | succ n ih =>
    obtain ⟨next, hround, hrest⟩ := Option.bind_eq_some_iff.1 h
    obtain ⟨span, hspan, rfl⟩ := Option.map_eq_some_iff.1 hround
    rw [widen_of_some hspan]
    exact ih hrest

/-! ### Documents in order -/

/-- The end of a replaced range is as a merge needs it: the range should end with the statement
    numbered `index`, and ends with the one numbered `tail.1` on line `tail.2`. -/
structure TailFits (p : Prepared N) (index : Nat) (tail : Nat × Nat) : Prop where
  /-- The range ends with a statement, no earlier than it should. -/
  later : index ≤ tail.1 ∧ tail.1 < p.list.length
  /-- The statements it is widened over begin in regions. -/
  begins : ∀ i s, index < i → i ≤ tail.1 → p.list[i]? = some s →
    ∃ span ∈ p.document.spans, span.Covers s.position.startLine
  /-- It ends on the line before the next statement. -/
  next : ∀ s, p.list[tail.1 + 1]? = some s → tail.2 + 1 = s.position.startLine
  /-- It ends with the document, if there is no next statement. -/
  last : p.list.length ≤ tail.1 + 1 → tail.2 = p.document.lineCount
  /-- No region has both its last line and the line after. -/
  whole : ∀ span ∈ p.document.spans, ¬ (span.Covers tail.2 ∧ span.Covers (tail.2 + 1))

/-- In a document in order, a replaced range ends as a merge needs it. -/
theorem Laid.tailFits (h : p.Laid) {index : Nat} (hindex : index < p.list.length) :
    p.TailFits index (p.replacedTail index) := by
  obtain ⟨hline, hbegins⟩ := h.widen_begins index (p.lineBeforeNext index) rfl
  obtain ⟨-, -, -, hend⟩ := p.rounds_widen index (p.lineBeforeNext index)
  have hbefore := p.lineBeforeNext_cases (p.replacedTail index).1
  rw [show p.lineBeforeNext (p.replacedTail index).1 = (p.replacedTail index).2 from hline.symm]
    at hbefore
  refine ⟨widen_later h.numbered index _ hindex, hbegins, fun s hs => ?_, fun hlast => ?_, ?_⟩
  · rcases hbefore with ⟨next, hnext, hbefore⟩ | ⟨hnone, -⟩
    · have hfirst := (h.ordered.within s (List.mem_of_getElem? hs)).1
      rw [hnext, Option.some.injEq] at hs
      rw [hbefore, hs, Nat.sub_add_cancel hfirst]
    · rw [hnone] at hs
      cases hs
  · rcases hbefore with ⟨next, hnext, -⟩ | ⟨-, hbefore⟩
    · rw [List.getElem?_eq_none hlast] at hnext
      cases hnext
    · exact hbefore
  · rintro span hspan ⟨hhere, hnext⟩
    refine Document.not_straddles_of_spanPast? h.apart ?_ span hspan ⟨hhere.1, hnext.2⟩
    exact Option.map_eq_none_iff.1 hend

end Prepared

/-- Widening a replaced range ends after no more rounds than there are regions, whatever the
    statements and the regions are.  In a document in order, the range then ends as a merge needs
    it. -/
theorem widening_ends_and_fits (p : Prepared N) :
    (∀ index, ∃ n ≤ p.document.spans.length,
      p.rounds n (index, p.lineBeforeNext index) = some (p.replacedTail index) ∧
        p.round? (p.replacedTail index) = none) ∧
    (p.Laid → ∀ index < p.list.length, p.TailFits index (p.replacedTail index)) := by
  refine ⟨fun index => ?_, fun hlaid index hindex => hlaid.tailFits hindex⟩
  obtain ⟨n, hn, hrounds, hend⟩ := p.rounds_widen index (p.lineBeforeNext index)
  exact ⟨n, Nat.le_trans hn List.countP_le_length, hrounds, hend⟩

/-- The first line of the second region is the line before the next statement after the first. -/
theorem widening_ends_and_fits_two_regions :
    let format := KeyValue.format ⟨none, none⟩ .builtin
    let source := ("a=1\n# structmerge:freeze\nb=2\n# structmerge:unfreeze\n\n" ++
      "# structmerge:freeze\nc=3\n# structmerge:unfreeze\n\nd=4").toList
    ∃ d, format.parse source = .ok d ∧ (Prepared.make format d).Laid ∧
      (Prepared.make format d).TailFits 0 (2, 9) ∧
      (Prepared.make format d).lineBeforeNext 0 = 2 ∧
      (Prepared.make format d).replacedTail 0 = (2, 9) := by
  intro format source
  have hfacts : (format.parse source).toOption.map (fun d =>
      let p := Prepared.make format d
      (p.list.length, p.lineBeforeNext 0, p.rounds 2 (0, 2), p.round? (2, 9))) =
        some (4, 2, some (2, 9), none) := by decide +kernel
  obtain ⟨d, hd⟩ : ∃ d, format.parse source = .ok d := ⟨_, rfl⟩
  rw [hd] at hfacts
  have hall := Option.some.inj hfacts
  simp only [Prod.mk.injEq] at hall
  obtain ⟨hlength, hline, hrounds, hend⟩ := hall
  have hlaid : (Prepared.make format d).Laid :=
    ((KeyValue.linewise ⟨none, none⟩ .builtin).sound hd).laid
  have htail : (Prepared.make format d).replacedTail 0 = (2, 9) := by
    rw [Prepared.replacedTail, hline]
    exact Prepared.widen_of_rounds hrounds hend
  have hfits := (widening_ends_and_fits (Prepared.make format d)).2 hlaid 0 (by omega)
  exact ⟨d, hd, hlaid, htail ▸ hfits, hline, htail⟩

end TemplateMerge
