import TemplateMerge.Proofs.Freeze.Frame

/-! Markers that take turns, and the first one that does not.

    Of the lines of a document the scan looks at those with markers.  It finds regions just when
    openings and closings take turns there, and every opening makes a region with the closing after
    it.

        lines        ·   freeze   ·   unfreeze   freeze   unfreeze   ·
        markers            2              4         5         6
        regions            └───── 2–4 ────┘         └── 5–6 ──┘

    Else a line is out of turn, or a region is left open at the end.  Before the first line that is
    out of turn the scan has a region open just when there is one (`ReadUpTo`), so it is at this
    line that it stops. -/

namespace TemplateMerge

/-- Whether the marker opens a region. -/
def Marker.opens : Marker → Bool
  | .freeze _ => true
  | .unfreeze => false

/-- The reason that the marker gives. -/
def Marker.reason? : Marker → Option Text
  | .freeze reason => reason
  | .unfreeze => none

/-- A line with a marker. -/
structure MarkerLine where
  /-- The number of the line. -/
  number : Nat
  /-- The line. -/
  text : Text
  /-- The marker. -/
  marker : Marker
  deriving DecidableEq, Repr

namespace MarkerLine

/-- The region from an opening to a closing. -/
def regionTo (opening closing : MarkerLine) : FreezeSpan :=
  ⟨opening.number, closing.number, Text.trim opening.text, Text.trim closing.text,
    opening.marker.reason?⟩

/-- The region that is open after an opening. -/
def opened (m : MarkerLine) : MarkerRegistry.OpenRegion :=
  ⟨m.number, Text.trim m.text, m.marker.reason?⟩

end MarkerLine

namespace MarkerRegistry

/-! ### Openings and closings in turn -/

/-- The lines with markers, in order, when the first line has number `first`. -/
def markerLinesFrom (r : MarkerRegistry) (first : Nat) (lines : List Text) : List MarkerLine :=
  (lines.zipIdx first).filterMap fun p => (r.classify p.1).map (⟨p.2, p.1, ·⟩)

/-- The lines of a document with markers, in order. -/
def markerLines (r : MarkerRegistry) (lines : List Text) : List MarkerLine :=
  r.markerLinesFrom 1 lines

/-- The lines are pairs of an opening and a closing, one after the other. -/
structure Pairs (ms : List MarkerLine) (pairs : List (MarkerLine × MarkerLine)) : Prop where
  /-- No line is left out, and the order is kept. -/
  lines : ms = pairs.flatMap fun p => [p.1, p.2]
  /-- The first of a pair opens a region, the second closes it. -/
  turns : ∀ p ∈ pairs, p.1.marker.opens = true ∧ p.2.marker.opens = false

theorem pairs_nil_iff {pairs : List (MarkerLine × MarkerLine)} : Pairs [] pairs ↔ pairs = [] := by
  constructor
  · rintro ⟨hlines, -⟩
    cases pairs with
    | nil => rfl
    | cons p rest => simp at hlines
  · rintro rfl
    exact ⟨rfl, by simp⟩

theorem not_pairs_singleton {m : MarkerLine} {pairs : List (MarkerLine × MarkerLine)} :
    ¬ Pairs [m] pairs := by
  rintro ⟨hlines, -⟩
  cases pairs <;> simp at hlines

theorem pairs_cons_cons_iff {o c : MarkerLine} {ms : List MarkerLine}
    {pairs : List (MarkerLine × MarkerLine)} : Pairs (o :: c :: ms) pairs ↔
      o.marker.opens = true ∧ c.marker.opens = false ∧
        ∃ rest, Pairs ms rest ∧ pairs = (o, c) :: rest := by
  constructor
  · rintro ⟨hlines, hturns⟩
    cases pairs with
    | nil => simp at hlines
    | cons p rest =>
      obtain ⟨ho, hc⟩ := hturns p List.mem_cons_self
      simp only [List.flatMap_cons, List.cons_append, List.nil_append, List.cons.injEq] at hlines
      obtain ⟨rfl, rfl, hrest⟩ := hlines
      exact ⟨ho, hc, rest, ⟨hrest, fun q hq => hturns q (List.mem_cons_of_mem _ hq)⟩, rfl⟩
  · rintro ⟨ho, hc, rest, ⟨rfl, hturns⟩, rfl⟩
    refine ⟨rfl, fun q hq => ?_⟩
    rcases List.mem_cons.1 hq with rfl | hq
    · exact ⟨ho, hc⟩
    · exact hturns q hq

/-- The first line of a pair, hence of all pairs, opens a region. -/
theorem Pairs.opens {m : MarkerLine} {ms : List MarkerLine}
    {pairs : List (MarkerLine × MarkerLine)} (h : Pairs (m :: ms) pairs) :
    m.marker.opens = true := by
  cases ms with
  | nil => exact absurd h not_pairs_singleton
  | cons c ms => exact (pairs_cons_cons_iff.1 h).1

/-- Lines are pairs just when openings and closings take turns. -/
theorem exists_pairs_iff {ms : List MarkerLine} : (∃ pairs, Pairs ms pairs) ↔
    ∃ k, ms.map (·.marker.opens) = (List.replicate k [true, false]).flatten := by
  constructor
  · rintro ⟨pairs, hpairs⟩
    refine ⟨pairs.length, ?_⟩
    induction pairs generalizing ms with
    | nil => rw [hpairs.lines]; rfl
    | cons p rest ih =>
      obtain ⟨ho, hc⟩ := hpairs.turns p List.mem_cons_self
      have hrest := ih ⟨rfl, fun q hq => hpairs.turns q (List.mem_cons_of_mem _ hq)⟩
      rw [hpairs.lines, List.length_cons, List.replicate_succ, List.flatten_cons, ← hrest,
        List.flatMap_cons, List.map_append, List.map_cons, List.map_cons, ho, hc]
      rfl
  · rintro ⟨k, hk⟩
    induction k generalizing ms with
    | zero => exact ⟨[], by rw [List.map_eq_nil_iff.1 hk]; exact pairs_nil_iff.2 rfl⟩
    | succ k ih =>
      rw [List.replicate_succ, List.flatten_cons] at hk
      obtain ⟨o, os, rfl, ho, hk⟩ := List.map_eq_cons_iff.1 hk
      obtain ⟨c, ms, rfl, hc, hk⟩ := List.map_eq_cons_iff.1 hk
      obtain ⟨rest, hrest⟩ := ih hk
      exact ⟨_, pairs_cons_cons_iff.2 ⟨ho, hc, rest, hrest, rfl⟩⟩

variable {r : MarkerRegistry}

theorem markerLinesFrom_cons (n : Nat) (l : Text) (ls : List Text) :
    r.markerLinesFrom n (l :: ls) =
      ((r.classify l).map (⟨n, l, ·⟩)).toList ++ r.markerLinesFrom (n + 1) ls := by
  rw [markerLinesFrom, List.zipIdx_cons, List.filterMap_cons]
  dsimp only
  cases r.classify l <;> rfl

/-- A scan finds the pairs of the markers; an opening read before goes with those that come. -/
theorem scanFrom_eq_ok_iff {ls : List Text} : ∀ {o : Option MarkerLine} {n : Nat}
    {spans : List FreezeSpan}, (∀ m ∈ o, m.marker.opens = true) →
      (r.scanFrom (o.map (·.opened)) n ls = .ok spans ↔
        ∃ pairs, Pairs (o.toList ++ r.markerLinesFrom n ls) pairs ∧
          spans = pairs.map fun p => p.1.regionTo p.2) := by
  induction ls with
  | nil =>
    intro o n spans _
    cases o with
    | none => simp [markerLinesFrom, scanFrom, pairs_nil_iff, eq_comm]
    | some m => simp [markerLinesFrom, scanFrom, not_pairs_singleton]
  | cons l ls ih =>
    intro o n spans ho
    rw [scanFrom_cons, markerLinesFrom_cons]
    cases hm : r.classify l with
    | none => exact ih ho
    | some marker =>
      cases marker with
      | freeze reason =>
        cases o with
        | none => exact ih (o := some ⟨n, l, .freeze reason⟩) (by rintro m ⟨⟩; rfl)
        | some m =>
          -- two openings in a row
          constructor
          · intro h
            cases h
          · rintro ⟨pairs, hpairs, -⟩
            cases (pairs_cons_cons_iff.1 hpairs).2.1
      | unfreeze =>
        cases o with
        | none =>
          -- a closing comes first
          constructor
          · intro h
            cases h
          · rintro ⟨pairs, hpairs, -⟩
            cases hpairs.opens
        | some m =>
          have hnone : ∀ x ∈ (none : Option MarkerLine), x.marker.opens = true := by simp
          constructor
          · intro h
            cases hrest : r.scanFrom none (n + 1) ls with
            | error e => rw [Option.map_some, hrest] at h; cases h
            | ok later =>
              obtain ⟨rest, hpairs, rfl⟩ := (ih hnone).1 hrest
              rw [Option.map_some, hrest] at h
              exact ⟨_, pairs_cons_cons_iff.2 ⟨ho m rfl, rfl, rest, hpairs, rfl⟩,
                (Except.ok.inj h).symm⟩
          · rintro ⟨pairs, hpairs, rfl⟩
            obtain ⟨-, -, rest, hrest, rfl⟩ := pairs_cons_cons_iff.1 hpairs
            have hscan := (ih hnone).2 ⟨rest, hrest, rfl⟩
            rw [Option.map_none] at hscan
            rw [Option.map_some]
            simp only [hscan]
            rfl

/-! ### The first line out of turn -/

/-- The marker on the line of that number, if it is a line with a marker. -/
def markerAt (r : MarkerRegistry) (lines : List Text) (n : Nat) : Option Marker :=
  if n = 0 then none else lines[n - 1]?.bind r.classify

/-- A region is opened on line `k`, and no marker stands between it and line `n`. -/
structure OpenFrom (r : MarkerRegistry) (lines : List Text) (k n : Nat) : Prop where
  before : k < n
  opens : ∃ reason, r.markerAt lines k = some (.freeze reason)
  still_open : ∀ j, k < j → j < n → r.markerAt lines j = none

/-- Line `n` closes a region, and none is open. -/
def Unopened (r : MarkerRegistry) (lines : List Text) (n : Nat) : Prop :=
  r.markerAt lines n = some .unfreeze ∧ ∀ k, ¬ r.OpenFrom lines k n

/-- Line `n` opens a region, and the one opened on line `k` is still open. -/
def NestedIn (r : MarkerRegistry) (lines : List Text) (k n : Nat) : Prop :=
  (∃ reason, r.markerAt lines n = some (.freeze reason)) ∧ r.OpenFrom lines k n

/-- Line `n` closes what is not open, or opens inside of what is. -/
def OutOfTurn (r : MarkerRegistry) (lines : List Text) (n : Nat) : Prop :=
  r.Unopened lines n ∨ ∃ k, r.NestedIn lines k n

/-- What is wrong with markers that do not take turns: the first line that is out of turn, or, when
    there is none, the region that is open at the end. -/
inductive FirstFault (r : MarkerRegistry) (lines : List Text) : StructureError → Prop
  | unopened {n : Nat} (h : r.Unopened lines n) (first : ∀ m < n, ¬ r.OutOfTurn lines m) :
    FirstFault r lines (.unexpectedUnfreeze n)
  | nested {k n : Nat} (h : r.NestedIn lines k n) (first : ∀ m < n, ¬ r.OutOfTurn lines m) :
    FirstFault r lines (.nestedFreeze k n)
  | unclosed {k : Nat} (h : r.OpenFrom lines k (lines.length + 1))
    (inTurn : ∀ m, ¬ r.OutOfTurn lines m) :
    FirstFault r lines (.unclosedFreeze k lines.length [Position.ofLines k lines.length])

/-- What the scan knows when it comes to line `n`: all lines before were in turn, and the region it
    has open is the one that is open there. -/
structure ReadUpTo (r : MarkerRegistry) (lines : List Text) (o : Option OpenRegion) (n : Nat) :
    Prop where
  inTurn : ∀ m < n, ¬ r.OutOfTurn lines m
  opened_iff : ∀ k, r.OpenFrom lines k n ↔ o.map (·.line) = some k

variable {lines : List Text} {k n : Nat} {o : Option OpenRegion}

theorem markerAt_append (done : List Text) (l : Text) (ls : List Text) :
    r.markerAt (done ++ l :: ls) (done.length + 1) = r.classify l := by
  rw [markerAt, if_neg (Nat.succ_ne_zero _), Nat.add_sub_cancel,
    List.getElem?_append_right (Nat.le_refl _), Nat.sub_self]
  rfl

theorem markerAt_of_length_lt (h : lines.length < n) : r.markerAt lines n = none := by
  rw [markerAt, List.getElem?_eq_none (by omega)]
  split <;> rfl

theorem not_outOfTurn_of_unmarked (h : r.markerAt lines n = none) : ¬ r.OutOfTurn lines n := by
  rintro (⟨hmark, -⟩ | ⟨_, ⟨_, hmark⟩, -⟩) <;> rw [h] at hmark <;> cases hmark

/-- What is open after a line was opened there, or was open before it and the line has no marker. -/
theorem openFrom_succ_iff : r.OpenFrom lines k (n + 1) ↔
    (k = n ∧ ∃ reason, r.markerAt lines n = some (.freeze reason)) ∨
      (r.OpenFrom lines k n ∧ r.markerAt lines n = none) := by
  constructor
  · rintro ⟨hbefore, hopens, hstill⟩
    rcases Nat.lt_succ_iff_lt_or_eq.1 hbefore with hlt | rfl
    · exact .inr ⟨⟨hlt, hopens, fun j hj hjn => hstill j hj (Nat.lt_succ_of_lt hjn)⟩,
        hstill n hlt (Nat.lt_succ_self n)⟩
    · exact .inl ⟨rfl, hopens⟩
  · rintro (⟨rfl, hopens⟩ | ⟨⟨hbefore, hopens, hstill⟩, hnone⟩)
    · exact ⟨Nat.lt_succ_self k, hopens, fun j hj hjn => by omega⟩
    · refine ⟨Nat.lt_succ_of_lt hbefore, hopens, fun j hj hjn => ?_⟩
      rcases Nat.lt_succ_iff_lt_or_eq.1 hjn with hlt | rfl
      · exact hstill j hj hlt
      · exact hnone

namespace ReadUpTo

theorem start (r : MarkerRegistry) (lines : List Text) : r.ReadUpTo lines none 1 := by
  have hnone : ∀ n < 1, r.markerAt lines n = none := by
    intro n hn
    rw [Nat.lt_one_iff.1 hn]
    rfl
  refine ⟨fun m hm => not_outOfTurn_of_unmarked (hnone m hm), fun k => ⟨fun h => ?_, nofun⟩⟩
  obtain ⟨_, hmark⟩ := h.opens
  rw [hnone k h.before] at hmark
  cases hmark

/-- A line that is in turn is read, and what is open after it is known. -/
theorem step (h : r.ReadUpTo lines o n) (hturn : ¬ r.OutOfTurn lines n) {o' : Option OpenRegion}
    (hopened : ∀ k, r.OpenFrom lines k (n + 1) ↔ o'.map (·.line) = some k) :
    r.ReadUpTo lines o' (n + 1) := by
  refine ⟨fun m hm => ?_, hopened⟩
  rcases Nat.lt_succ_iff_lt_or_eq.1 hm with hlt | rfl
  · exact h.inTurn m hlt
  · exact hturn

theorem unmarked (h : r.ReadUpTo lines o n) (hmark : r.markerAt lines n = none) :
    r.ReadUpTo lines o (n + 1) := by
  refine h.step (not_outOfTurn_of_unmarked hmark) fun k => ?_
  rw [openFrom_succ_iff, hmark, ← h.opened_iff k]
  simp

theorem opening (h : r.ReadUpTo lines none n) {reason : Option Text}
    (hmark : r.markerAt lines n = some (.freeze reason)) (marker : Text) :
    r.ReadUpTo lines (some ⟨n, marker, reason⟩) (n + 1) := by
  refine h.step ?_ fun k => ?_
  · rintro (⟨hown, -⟩ | ⟨k, -, hopen⟩)
    · rw [hmark] at hown
      cases hown
    · cases (h.opened_iff k).1 hopen
  · rw [openFrom_succ_iff, hmark]
    simp [eq_comm]

theorem closing {opened : OpenRegion} (h : r.ReadUpTo lines (some opened) n)
    (hmark : r.markerAt lines n = some .unfreeze) : r.ReadUpTo lines none (n + 1) := by
  refine h.step ?_ fun k => ?_
  · rintro (⟨-, hnone⟩ | ⟨_, ⟨_, hown⟩, -⟩)
    · exact hnone opened.line ((h.opened_iff _).2 rfl)
    · rw [hmark] at hown
      cases hown
  · rw [openFrom_succ_iff, hmark]
    simp

end ReadUpTo

/-- The error of a scan is the first fault of the whole document, whatever has been read of it. -/
theorem firstFault_of_scanFrom {ls : List Text} {e : StructureError} : ∀ (done : List Text)
    {o : Option OpenRegion}, r.ReadUpTo (done ++ ls) o (done.length + 1) →
      r.scanFrom o (done.length + 1) ls = .error e → r.FirstFault (done ++ ls) e := by
  induction ls with
  | nil =>
    intro done o h he
    rw [List.append_nil] at h ⊢
    cases o with
    | none => cases he
    | some opened =>
      cases he
      refine .unclosed ((h.opened_iff _).2 rfl) fun m => ?_
      rcases Nat.lt_or_ge m (done.length + 1) with hlt | hge
      · exact h.inTurn m hlt
      · exact not_outOfTurn_of_unmarked (markerAt_of_length_lt hge)
  | cons l ls ih =>
    intro done o h he
    have hmark := markerAt_append (r := r) done l ls
    have hrest : ∀ {o' : Option OpenRegion}, r.ReadUpTo (done ++ l :: ls) o' (done.length + 1 + 1) →
        r.scanFrom o' (done.length + 1 + 1) ls = .error e →
        r.FirstFault (done ++ l :: ls) e := by
      intro o' h' he'
      have hown := ih (done ++ [l]) (o := o')
      rw [List.length_append, List.append_assoc] at hown
      exact hown h' he'
    rw [scanFrom_cons] at he
    cases hm : r.classify l with
    | none =>
      rw [hm] at he hmark
      exact hrest (h.unmarked hmark) he
    | some marker =>
      rw [hm] at he hmark
      cases marker with
      | freeze reason =>
        cases o with
        | none => exact hrest (h.opening hmark (Text.trim l)) he
        | some opened =>
          cases he
          exact .nested ⟨⟨reason, hmark⟩, (h.opened_iff _).2 rfl⟩ h.inTurn
      | unfreeze =>
        cases o with
        | none =>
          cases he
          refine .unopened ⟨hmark, fun k hopen => ?_⟩ h.inTurn
          cases (h.opened_iff k).1 hopen
        | some opened =>
          cases hscan : r.scanFrom none (done.length + 1 + 1) ls with
          | ok later => simp only [hscan] at he; cases he
          | error e' =>
            simp only [hscan] at he
            cases he
            exact hrest (h.closing hmark) hscan

/-! ### Scans as a whole -/

/-- No line strictly inside a region has a marker. -/
theorem markerAt_inside {spans : List FreezeSpan} (h : r.scan lines = .ok spans) {s : FreezeSpan}
    (hs : s ∈ spans) (hfirst : s.startLine < n) (hlast : n < s.endLine) :
    r.markerAt lines n = none := by
  obtain ⟨f, inside, rfl, hinside, rfl⟩ := exists_frame h hs
  have hfirst : f.before.length + 1 < n := hfirst
  have hlast : n < f.before.length + inside.length + 2 := hlast
  have hget : (f.lines inside)[n - 1]? = inside[n - 1 - (f.before ++ [f.opening]).length]? := by
    rw [f.lines_eq, List.append_assoc, List.getElem?_append_right, List.getElem?_append_left] <;>
      (rw [List.length_append, List.length_singleton]; omega)
  rw [markerAt, if_neg (by omega), hget]
  cases hl : inside[n - 1 - (f.before ++ [f.opening]).length]? with
  | none => rfl
  | some l => exact hinside l (List.mem_of_getElem? hl)

/-- What the scan makes of the markers of a document. -/
structure ReadsMarkers (r : MarkerRegistry) (lines : List Text) : Prop where
  /-- Regions are found just when openings and closings take turns, an opening first. -/
  accepts_iff : (∃ spans, r.scan lines = .ok spans) ↔
    ∃ k, (r.markerLines lines).map (·.marker.opens) = (List.replicate k [true, false]).flatten
  /-- They are the pairs of markers, in order. -/
  regions : ∀ spans, r.scan lines = .ok spans ↔
    ∃ pairs, Pairs (r.markerLines lines) pairs ∧ spans = pairs.map fun p => p.1.regionTo p.2
  /-- So they come one after the other, each has two lines at least, and no line inside of one has a
      marker. -/
  apart : ∀ spans, r.scan lines = .ok spans →
    spans.Pairwise (fun s t => s.endLine < t.startLine) ∧
      ∀ s ∈ spans, 1 ≤ s.startLine ∧ s.startLine < s.endLine ∧ s.endLine ≤ lines.length ∧
        ∀ n, s.startLine < n → n < s.endLine → r.markerAt lines n = none
  /-- When they do not take turns, the error is the first fault. -/
  refuses : (¬ ∃ k, (r.markerLines lines).map (·.marker.opens) =
      (List.replicate k [true, false]).flatten) →
    ∃ e, r.scan lines = .error e ∧ r.FirstFault lines e

theorem scan_eq_ok_iff {spans : List FreezeSpan} : r.scan lines = .ok spans ↔
    ∃ pairs, Pairs (r.markerLines lines) pairs ∧ spans = pairs.map fun p => p.1.regionTo p.2 :=
  scanFrom_eq_ok_iff (o := none) nofun

theorem exists_scan_eq_ok_iff : (∃ spans, r.scan lines = .ok spans) ↔
    ∃ k, (r.markerLines lines).map (·.marker.opens) =
      (List.replicate k [true, false]).flatten := by
  rw [← exists_pairs_iff]
  constructor
  · rintro ⟨spans, hspans⟩
    obtain ⟨pairs, hpairs, -⟩ := scan_eq_ok_iff.1 hspans
    exact ⟨pairs, hpairs⟩
  · rintro ⟨pairs, hpairs⟩
    exact ⟨_, scan_eq_ok_iff.2 ⟨pairs, hpairs, rfl⟩⟩

/-- The scan accepts the documents whose markers take turns, and says of any other what is wrong
    with it first. -/
theorem scan_reads_markers (r : MarkerRegistry) (lines : List Text) : r.ReadsMarkers lines where
  accepts_iff := exists_scan_eq_ok_iff
  regions _ := scan_eq_ok_iff
  apart spans h := by
    obtain ⟨horder, hwithin⟩ := spansWithin_scan h
    refine ⟨horder, fun s hs => ?_⟩
    obtain ⟨hfirst, hlt, hstop⟩ := hwithin s hs
    exact ⟨hfirst, hlt, by omega, fun n => markerAt_inside h hs⟩
  refuses hturns := by
    cases h : r.scan lines with
    | ok spans => exact absurd (exists_scan_eq_ok_iff.1 ⟨spans, h⟩) hturns
    | error e => exact ⟨e, rfl, firstFault_of_scanFrom [] (.start r lines) h⟩

end MarkerRegistry

end TemplateMerge
