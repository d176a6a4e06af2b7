import TemplateMerge.Proofs.Merge.Places

/-! What a replaced range is widened over.

    A range ends on the line before the next statement.  As long as that line is inside a frozen
    region, the range goes on: over the statements that begin in the region, and up to the line
    before the next one again.  So all statements the range is widened over are frozen, and the
    range still ends on the line before the next statement.

        lines          4   5   ▒▒▒▒▒▒▒▒▒▒▒▒▒   10
        statements     s             u   v     w
        asked          ────────────                     s, up to the line before u
        widened        ──────────────────────           over u and v -/

namespace TemplateMerge

variable {N : Type} [NodeView N]

namespace Prepared

variable {p : Prepared N}

theorem startLine_le (h : NumberedFrom 0 p.list) {index line i : Nat} {s : Statement N}
    (hindex : index < i) (hi : i ≤ p.lastStartingBy index line) (hs : p.list[i]? = some s) :
    s.position.startLine ≤ line := by
  rw [lastStartingBy_eq h] at hi
  obtain ⟨j, rfl⟩ := Nat.exists_eq_add_of_le (Nat.succ_le_of_lt hindex)
  have hget : (p.startingBy index line)[j]? = some s := by
    rw [getElem?_startingBy (by omega), hs]
  have hall := List.all_eq_true.1 (List.all_takeWhile (l := p.list.drop (index + 1))) s
    (List.mem_of_getElem? hget)
  simpa using hall

/-- The statement after the last that begins in time begins later. -/
theorem lt_startLine (h : NumberedFrom 0 p.list) {index line : Nat} {s : Statement N}
    (hs : p.list[p.lastStartingBy index line + 1]? = some s) : line < s.position.startLine := by
  let late := (p.list.drop (index + 1)).dropWhile (·.position.startLine ≤ line)
  have hcut : p.startingBy index line ++ late = p.list.drop (index + 1) :=
    List.takeWhile_append_dropWhile
  have hhead : late.head? = some s := by
    rw [lastStartingBy_eq h, Nat.add_right_comm, ← List.getElem?_drop, ← hcut,
      List.getElem?_append_right (Nat.le_refl _), Nat.sub_self] at hs
    rw [List.head?_eq_getElem?]
    exact hs
  have hfails := List.head?_dropWhile_not (fun x : Statement N => x.position.startLine ≤ line)
    (p.list.drop (index + 1))
  rw [show ((p.list.drop (index + 1)).dropWhile fun x : Statement N =>
    x.position.startLine ≤ line).head? = some s from hhead] at hfails
  simpa using hfails

theorem lineBeforeNext_cases (p : Prepared N) (index : Nat) :
    (∃ s, p.list[index + 1]? = some s ∧ p.lineBeforeNext index = s.position.startLine - 1) ∨
      (p.list[index + 1]? = none ∧ p.lineBeforeNext index = p.document.lineCount) := by
  unfold Prepared.lineBeforeNext
  cases hnext : p.list[index + 1]? with
  | none => exact .inr ⟨rfl, rfl⟩
  | some s => exact .inl ⟨s, rfl, rfl⟩

theorem lineBeforeNext_lt (h : InOrder 1 p.document.lineCount p.list) {index i : Nat}
    {s : Statement N} (hindex : index < i) (hs : p.list[i]? = some s) :
    p.lineBeforeNext index < s.position.startLine := by
  obtain ⟨hi, rfl⟩ := List.getElem?_eq_some_iff.1 hs
  have hfirst := (h.within _ (List.getElem_mem hi)).1
  rcases p.lineBeforeNext_cases index with ⟨next, hnext, hline⟩ | ⟨hnone, -⟩
  · obtain ⟨hlt, rfl⟩ := List.getElem?_eq_some_iff.1 hnext
    rw [hline]
    have hle : index + 1 ≤ i := hindex
    rcases Nat.lt_or_eq_of_le hle with hbefore | rfl
    · have := List.pairwise_iff_getElem.1 h.apart _ _ hlt hi hbefore
      have := p.list[index + 1].position.ordered
      omega
    · omega
  · have := List.getElem?_eq_none_iff.1 hnone
    omega

/-- A statement that begins in a region is frozen. -/
theorem frozen_of_begins {span : FreezeSpan} (hspan : span ∈ p.document.spans) {s : Statement N}
    (h : span.Covers s.position.startLine) : p.document.Frozen s.node := by
  have hordered := s.position.ordered
  refine ⟨span, hspan, Position.intersects_iff.2 ⟨?_, ?_⟩⟩
  · exact Nat.le_trans h.1 hordered
  · exact Nat.le_trans h.2 (Nat.le_max_left ..)

/-! ### Documents in order -/

/-- Statements are numbered and stand in order, and no two regions have a line in common. -/
structure Laid (p : Prepared N) : Prop where
  /-- The numbers of statements are their places, as in every document that is made ready. -/
  numbered : NumberedFrom 0 p.list
  /-- Every statement ends before the next begins, and all are lines of the document. -/
  ordered : InOrder 1 p.document.lineCount p.list
  /-- Every region ends before the next begins. -/
  apart : p.document.spans.Pairwise fun s t => s.position.endLine < t.position.startLine
  /-- All are lines of the document. -/
  within : ∀ s ∈ p.document.spans,
    1 ≤ s.position.startLine ∧ s.position.endLine ≤ p.document.lineCount

theorem Sound.laid (h : p.Sound) : p.Laid := by
  refine ⟨h.numbered, h.ordered, h.spans.positions_apart, fun s hs => ?_⟩
  obtain ⟨hfirst, hown, hstop⟩ := h.spans.2 s hs
  simp only [FreezeSpan.position, Position.endLine_ofLines, Position.startLine_ofLines]
  omega

/-- One step of widening goes over statements that begin in the region, and up to the line before
    the next again. -/
theorem Laid.widen_step (h : p.Laid) {index : Nat} {span : FreezeSpan}
    (hspan : p.document.spanPast? (p.lineBeforeNext index) = some span) :
    (∀ i s, index < i → i ≤ p.lastStartingBy index span.endLine → p.list[i]? = some s →
      span.Covers s.position.startLine) ∧
    max (p.lineBeforeNext (p.lastStartingBy index span.endLine)) span.endLine =
      p.lineBeforeNext (p.lastStartingBy index span.endLine) := by
  obtain ⟨hmem, hstart, -⟩ := Document.mem_of_spanPast? hspan
  refine ⟨fun i s hindex hi hs => ⟨?_, startLine_le h.numbered hindex hi hs⟩, ?_⟩
  · exact Nat.le_of_lt (Nat.lt_of_le_of_lt hstart (lineBeforeNext_lt h.ordered hindex hs))
  · refine Nat.max_eq_left ?_
    rcases p.lineBeforeNext_cases (p.lastStartingBy index span.endLine) with
      ⟨next, hnext, hline⟩ | ⟨-, hline⟩
    · have := lt_startLine h.numbered hnext
      omega
    · rw [hline]
      exact Nat.le_trans (Nat.le_max_left ..) (h.within span hmem).2

/-- A range that ends before the next statement is widened over statements that begin in regions,
    and still ends before the next. -/
theorem Laid.widen_begins (h : p.Laid) (index line : Nat) (hline : line = p.lineBeforeNext index) :
    (p.widen index line).2 = p.lineBeforeNext (p.widen index line).1 ∧
      ∀ i s, index < i → i ≤ (p.widen index line).1 → p.list[i]? = some s →
        ∃ span ∈ p.document.spans, span.Covers s.position.startLine := by
  induction index, line using Prepared.widen.induct p with
  | case1 index line hnone =>
    rw [widen_of_none hnone]
    exact ⟨hline, fun i s hlt hle => absurd hle (Nat.not_le_of_lt hlt)⟩
  | case2 index line span hspan next ih =>
    subst hline
    obtain ⟨hcovers, hmax⟩ := h.widen_step hspan
    obtain ⟨hend, hrest⟩ := ih hmax
    rw [widen_of_some hspan]
    refine ⟨hend, fun i s hlt hle hs => ?_⟩
    rcases Nat.lt_or_ge next i with hafter | hbefore
    · exact hrest i s hafter hle hs
    · exact ⟨span, (Document.mem_of_spanPast? hspan).1, hcovers i s hlt hbefore hs⟩

/-- A range that ends before the next statement is widened over frozen statements only, and still
    ends before the next. -/
theorem Sound.widen_frozen (h : p.Sound) (index line : Nat)
    (hline : line = p.lineBeforeNext index) :
    (p.widen index line).2 = p.lineBeforeNext (p.widen index line).1 ∧
      ∀ i s, index < i → i ≤ (p.widen index line).1 → p.list[i]? = some s →
        p.document.Frozen s.node := by
  obtain ⟨hend, hbegins⟩ := h.laid.widen_begins index line hline
  refine ⟨hend, fun i s hlt hle hs => ?_⟩
  obtain ⟨span, hspan, hcovers⟩ := hbegins i s hlt hle hs
  exact frozen_of_begins hspan hcovers

end Prepared

end TemplateMerge
