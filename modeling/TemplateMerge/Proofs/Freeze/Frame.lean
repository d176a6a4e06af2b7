import TemplateMerge.Proofs.Freeze.Scan

/-! What stands around the inside of a frozen region.

    A region is opened and closed by markers, and the lines between are none.  So whatever lines
    without markers stand there, the scan finds the same regions: those before, this one, and those
    after, further down or up by the lines between.

        lines       ── before ──   freeze   inside …   unfreeze   ── after ──
        regions     as in before   from marker to marker          as in after, further down

    `Frame` is all that stands around the inside, and the lines of a document are a frame and an
    inside for every region of it (`exists_frame`). -/

namespace TemplateMerge

namespace MarkerRegistry

/-- Ended lines that are no markers. -/
structure Unmarked (r : MarkerRegistry) (t : Text) : Prop where
  ended : t.isOpen = false
  unmarked : ∀ l ∈ Text.splitLines t, r.classify l = none

/-- The lines around the inside of a region, with the regions before and after it. -/
structure Frame (r : MarkerRegistry) where
  /-- The lines before the region. -/
  before : List Text
  /-- The opening marker's line. -/
  opening : Text
  /-- The closing marker's line. -/
  closing : Text
  /-- The lines after the region. -/
  after : List Text
  /-- The reason given for the freeze. -/
  reason : Option Text
  /-- The regions of the lines before. -/
  spansBefore : List FreezeSpan
  /-- The regions of the lines after, as if these were a document. -/
  spansAfter : List FreezeSpan
  opens : r.classify opening = some (.freeze reason)
  closes : r.classify closing = some .unfreeze
  scan_before : r.scan before = .ok spansBefore
  scan_after : r.scan after = .ok spansAfter

namespace Frame

variable {r : MarkerRegistry}

/-- The lines of the frame around an inside. -/
def lines (f : r.Frame) (inside : List Text) : List Text :=
  f.before ++ f.opening :: (inside ++ f.closing :: f.after)

/-- The number of the closing marker's line. -/
def stop (f : r.Frame) (inside : List Text) : Nat := f.before.length + inside.length + 2

/-- The region. -/
def span (f : r.Frame) (inside : List Text) : FreezeSpan :=
  ⟨f.before.length + 1, f.stop inside, Text.trim f.opening, Text.trim f.closing, f.reason⟩

/-- The regions of the lines before, the region, and the regions of the lines after. -/
def spans (f : r.Frame) (inside : List Text) : List FreezeSpan :=
  f.spansBefore ++ f.span inside :: f.spansAfter.map (·.shift (f.stop inside))

/-- The lines up to the closing marker. -/
def upTo (f : r.Frame) (inside : List Text) : List Text :=
  f.before ++ f.opening :: (inside ++ [f.closing])

theorem length_upTo (f : r.Frame) (inside : List Text) :
    (f.upTo inside).length = f.stop inside := by
  simp only [upTo, stop, List.length_append, List.length_cons, List.length_nil]
  omega

theorem lines_eq_upTo (f : r.Frame) (inside : List Text) :
    f.lines inside = f.upTo inside ++ f.after := by
  simp [lines, upTo]

theorem lines_eq (f : r.Frame) (inside : List Text) :
    f.lines inside = (f.before ++ [f.opening]) ++ inside ++ f.closing :: f.after := by
  simp [lines]

/-- Whatever the inside is, these are the regions. -/
theorem scan_lines (f : r.Frame) {inside : List Text} (h : ∀ l ∈ inside, r.classify l = none) :
    r.scan (f.lines inside) = .ok (f.spans inside) := by
  have hafter := scanFrom_shift f.scan_after (f.stop inside)
  refine scanFrom_append f.scan_before ?_
  rw [scanFrom_cons, f.opens]
  dsimp only
  rw [scanFrom_unmarked h, scanFrom_cons, f.closes]
  have hnumber : 1 + f.before.length + 1 + inside.length = f.stop inside := by
    unfold stop
    omega
  dsimp only
  rw [hnumber, Nat.add_comm (f.stop inside), show r.scanFrom none (1 + f.stop inside) f.after =
    .ok (f.spansAfter.map (·.shift (f.stop inside))) from hafter]
  show Except.ok (_ :: _) = Except.ok (f.span inside :: _)
  rw [span, Nat.add_comm 1]

end Frame

variable {r : MarkerRegistry}

/-- Regions further down were found with the same lines further up. -/
theorem exists_scanFrom_unshift {ls : List Text} {k : Nat} : ∀ {o : Option OpenRegion} {n : Nat}
    {spans : List FreezeSpan}, r.scanFrom (o.map (·.shift k)) (n + k) ls = .ok spans →
      ∃ own, r.scanFrom o n ls = .ok own ∧ spans = own.map (·.shift k) := by
  induction ls with
  | nil =>
    intro o n spans h
    obtain ⟨ho, rfl⟩ := scanFrom_nil h
    rw [Option.map_eq_none_iff.1 ho]
    exact ⟨[], rfl, rfl⟩
  | cons l ls ih =>
    intro o n spans h
    rw [scanFrom_cons]
    rcases scanFrom_cons_cases h with ⟨hm, hrest⟩ | ⟨reason, hm, ho, hrest⟩ |
      ⟨opened, later, hm, ho, hrest, rfl⟩
    · rw [Nat.add_right_comm] at hrest
      obtain ⟨own, hown, rfl⟩ := ih hrest
      exact ⟨own, by rw [hm]; exact hown, rfl⟩
    · rw [Nat.add_right_comm] at hrest
      obtain ⟨own, hown, rfl⟩ := ih (o := some ⟨n, Text.trim l, reason⟩) hrest
      rw [hm, Option.map_eq_none_iff.1 ho]
      exact ⟨own, hown, rfl⟩
    · rw [Nat.add_right_comm] at hrest
      obtain ⟨own, hown, rfl⟩ := ih (o := none) hrest
      obtain ⟨opened, rfl, rfl⟩ := Option.map_eq_some_iff.1 ho
      rw [hm]
      exact ⟨_ :: own, by simp only [hown]; rfl, rfl⟩

/-- An open region goes on over lines without markers to a closing marker. -/
theorem exists_closing {ls : List Text} {opened : OpenRegion} : ∀ {n : Nat}
    {spans : List FreezeSpan}, r.scanFrom (some opened) n ls = .ok spans →
      ∃ inside closing after later, ls = inside ++ closing :: after ∧
        (∀ l ∈ inside, r.classify l = none) ∧ r.classify closing = some .unfreeze ∧
        r.scanFrom none (n + inside.length + 1) after = .ok later ∧
        spans = ⟨opened.line, n + inside.length, opened.marker, Text.trim closing,
          opened.reason⟩ :: later := by
  induction ls with
  | nil => intro n spans h; simp [scanFrom] at h
  | cons l ls ih =>
    intro n spans h
    rcases scanFrom_cons_cases h with ⟨hm, hrest⟩ | ⟨_, -, hnone, -⟩ |
      ⟨opened', later, hm, ho, hrest, rfl⟩
    · obtain ⟨inside, closing, after, later, rfl, hinside, hclosing, hlater, rfl⟩ := ih hrest
      have hlength : n + (l :: inside).length = n + 1 + inside.length := by
        rw [List.length_cons]
        omega
      refine ⟨l :: inside, closing, after, later, rfl, fun k hk => ?_, hclosing, ?_, ?_⟩
      · rcases List.mem_cons.1 hk with rfl | hk
        · exact hm
        · exact hinside k hk
      · rw [hlength]
        exact hlater
      · rw [hlength]
    · cases hnone
    · cases ho
      exact ⟨[], l, ls, later, rfl, by simp, hm, hrest, rfl⟩

/-- The lines before a region and those from its opening marker on are scanned apart. -/
theorem exists_cut {ls : List Text} {spans : List FreezeSpan} (h : r.scan ls = .ok spans)
    {span : FreezeSpan} (hspan : span ∈ spans) :
    ∃ sa sb, r.scan (ls.take (span.startLine - 1)) = .ok sa ∧
      r.scanFrom none span.startLine (ls.drop (span.startLine - 1)) = .ok sb ∧ span ∈ sb := by
  have hwithin := spansWithin_scan h
  obtain ⟨hfirst, hlt, hstop⟩ := hwithin.2 span hspan
  have hlength : (ls.take (span.startLine - 1)).length = span.startLine - 1 := by
    rw [List.length_take]
    omega
  -- no region has both the line before the marker and the marker
  have hcut : ∀ s ∈ spans,
      ¬ s.Straddles (1 + (ls.take (span.startLine - 1)).length - 1) := by
    rintro s hs ⟨hs1, hs2⟩
    rw [hlength] at hs1 hs2
    have hsame := hwithin.eq_of_covers hs hspan (n := span.startLine) ⟨by omega, by omega⟩
      ⟨Nat.le_refl _, Nat.le_of_lt hlt⟩
    rw [hsame] at hs1
    omega
  rw [scan, ← List.take_append_drop (span.startLine - 1) ls] at h
  obtain ⟨sa, sb, rfl, hbefore, hrest⟩ := scanFrom_cut h (by simp) hcut
  rw [hlength, Nat.add_sub_cancel' hfirst] at hrest
  refine ⟨sa, sb, hbefore, hrest, (List.mem_append.1 hspan).resolve_left fun hmem => ?_⟩
  have hend := ((spansWithin_scanFrom hbefore (by simp)).2 span hmem).2
  rw [hlength] at hend
  omega

/-- A region that begins with the first line begins with an opening marker, and goes on to a closing
    one. -/
theorem exists_region {ls : List Text} {spans : List FreezeSpan} {span : FreezeSpan}
    (h : r.scanFrom none span.startLine ls = .ok spans) (hspan : span ∈ spans) :
    ∃ opening reason inside closing after later, ls = opening :: (inside ++ closing :: after) ∧
      r.classify opening = some (.freeze reason) ∧ (∀ l ∈ inside, r.classify l = none) ∧
      r.classify closing = some .unfreeze ∧
      r.scanFrom none (span.startLine + 1 + inside.length + 1) after = .ok later ∧
      span = ⟨span.startLine, span.startLine + 1 + inside.length, Text.trim opening,
        Text.trim closing, reason⟩ := by
  have hwithin := spansWithin_scanFrom h (by simp)
  cases ls with
  | nil =>
    obtain ⟨-, rfl⟩ := scanFrom_nil h
    cases hspan
  | cons opening rest =>
    rcases scanFrom_cons_cases h with ⟨-, hlater⟩ | ⟨reason, hopens, -, hinner⟩ |
      ⟨_, _, -, hnone, -⟩
    · have hfirst := ((spansWithin_scanFrom hlater (by simp)).2 span hspan).1
      simp only [Option.map_none, Option.getD_none] at hfirst
      omega
    · obtain ⟨inside, closing, after, later, rfl, hinside, hcloses, hafter, rfl⟩ :=
        exists_closing hinner
      refine ⟨opening, reason, inside, closing, after, later, rfl, hopens, hinside, hcloses, hafter,
        ?_⟩
      -- the first region that is found begins with the same line
      have hlt := (hwithin.2 span hspan).2.1
      refine hwithin.eq_of_covers hspan List.mem_cons_self (n := span.startLine)
        ⟨Nat.le_refl _, Nat.le_of_lt hlt⟩ ⟨Nat.le_refl _, ?_⟩
      dsimp only
      omega
    · cases hnone

theorem exists_frame {ls : List Text} {spans : List FreezeSpan} (h : r.scan ls = .ok spans)
    {span : FreezeSpan} (hspan : span ∈ spans) :
    ∃ (f : r.Frame) (inside : List Text), ls = f.lines inside ∧
      (∀ l ∈ inside, r.classify l = none) ∧ span = f.span inside := by
  obtain ⟨sa, sb, hbefore, hrest, hmem⟩ := exists_cut h hspan
  obtain ⟨opening, reason, inside, closing, after, later, hlines, hopens, hinside, hcloses, hafter,
    hown⟩ := exists_region hrest hmem
  obtain ⟨hfirst, hlt, hstop⟩ := (spansWithin_scan h).2 span hspan
  have hlength : (ls.take (span.startLine - 1)).length = span.startLine - 1 := by
    rw [List.length_take]
    omega
  have hnumber : span.startLine + 1 + inside.length + 1 =
      1 + (span.startLine - 1 + inside.length + 2) := by omega
  rw [hnumber] at hafter
  obtain ⟨own, hown', -⟩ := exists_scanFrom_unshift (o := none) hafter
  let f : r.Frame :=
    { before := ls.take (span.startLine - 1), opening, closing, after, reason
      spansBefore := sa, spansAfter := own
      opens := hopens, closes := hcloses, scan_before := hbefore, scan_after := hown' }
  have hstart : f.before.length + 1 = span.startLine := by
    show (ls.take (span.startLine - 1)).length + 1 = _
    omega
  have hend : f.stop inside = span.startLine + 1 + inside.length := by
    show f.before.length + inside.length + 2 = _
    omega
  refine ⟨f, inside, ?_, hinside, ?_⟩
  · rw [MarkerRegistry.Frame.lines, ← hlines, List.take_append_drop]
  · rw [hown, MarkerRegistry.Frame.span, hstart, hend]

end MarkerRegistry

end TemplateMerge
