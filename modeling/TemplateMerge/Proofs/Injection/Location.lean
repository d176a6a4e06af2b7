import TemplateMerge.Proofs.Merge.Failures

/-! Where a request is located.

    The anchor is the first statement that is asked for.  With a boundary, the range goes on from
    there up to the first statement after it that may end it, or to the last of all.

        statements    0   1   2   3   4   5          0   1   2   3   4   5
                          ▲           ▲                  ▲
                        anchor      first end          anchor, no end
        range             └───────┘                      └───────────────┘
        boundary                  3                                      5

    What is kept of the range is its last statement, and only if that is not the anchor.  The
    number of the last statement is the same whichever way it is found (`lastNumber`), so a range of
    one statement, one that ends right after the anchor and one up to the end are no cases of their
    own. -/

namespace TemplateMerge

variable {N : Type}

namespace Injection

variable [NodeView N] {nodes : List N} {request : Request N} {point : Point N} {b : Boundary N}
  {anchor : Statement N}

/-- A statement may end a range from the anchor on: it comes after the anchor, the boundary asks for
    it, and it is not passed over for its depth. -/
structure Boundary.Ends (b : Boundary N) (anchor s : Statement N) : Prop where
  after : anchor.index < s.index
  asked : b.matcher.matches? s = true
  shallow : b.sameOrShallower = true → anchor.navigable = true → s.depth ≤ anchor.depth

theorem find_eq_some_iff {m : Matcher N} : find (statements nodes) m = some anchor ↔
    IsFirst (statements nodes) (m.matches? · = true) anchor := by
  have h : ((statements nodes).drop 0).find? m.matches? = some anchor ↔ _ :=
    find?_drop_statements_iff
  simp only [List.drop_zero, Nat.zero_le, true_and] at h
  exact h

theorem findBoundary_eq_some_iff {s : Statement N} :
    findBoundary (statements nodes) anchor b = some s ↔
      IsFirst (statements nodes) (b.Ends anchor) s := by
  have hends : (fun x : Statement N => anchor.index + 1 ≤ x.index ∧
      ((!(b.sameOrShallower && anchor.navigable) || x.noDeeperThan
        (if (b.sameOrShallower && anchor.navigable) = true then anchor.depth else 0)) &&
        b.matcher.matches? x) = true) = b.Ends anchor := by
    funext x
    refine propext ⟨?_, ?_⟩
    · rintro ⟨hafter, h⟩
      obtain ⟨hdepth, hasked⟩ := Bool.and_eq_true_iff.1 h
      refine ⟨hafter, hasked, fun hshallow hnavigable => ?_⟩
      rw [hshallow, hnavigable] at hdepth
      simpa [Statement.noDeeperThan] using hdepth
    · rintro ⟨hafter, hasked, hshallow⟩
      refine ⟨hafter, Bool.and_eq_true_iff.2 ⟨?_, hasked⟩⟩
      cases hs : b.sameOrShallower with
      | false => rfl
      | true =>
        cases hn : anchor.navigable with
        | false => rfl
        | true => simpa [Statement.noDeeperThan] using hshallow hs hn
  rw [← hends]
  exact find?_drop_statements_iff

/-! ### The last statement of a range -/

/-- The number of the last statement of a range, given the statement that was found to end it. -/
def lastNumber (count : Nat) : Option (Statement N) → Nat
  | some stop => stop.index - 1
  | none => count - 1

omit [NodeView N] in
theorem lastNumber_bounds (hanchor : anchor ∈ statements nodes) {found : Option (Statement N)}
    (hfound : ∀ stop ∈ found, stop ∈ statements nodes ∧ anchor.index < stop.index) :
    anchor.index ≤ lastNumber nodes.length found ∧
      lastNumber nodes.length found < nodes.length := by
  have hlt : ∀ x ∈ statements nodes, x.index < nodes.length := fun x hx =>
    (List.getElem?_eq_some_iff.1 (getElem?_nodes hx)).1
  cases found with
  | none =>
    have := hlt anchor hanchor
    dsimp only [lastNumber]
    omega
  | some stop =>
    obtain ⟨hmem, hafter⟩ := hfound stop rfl
    have := hlt stop hmem
    dsimp only [lastNumber]
    omega

omit [NodeView N] in
/-- The last statement of a range is kept when it comes after the anchor. -/
theorem lastBefore_eq_some_iff {found : Option (Statement N)}
    (hfound : ∀ stop ∈ found, stop ∈ statements nodes ∧ anchor.index < stop.index)
    {last : Statement N} : lastBefore (statements nodes) anchor found = some last ↔
      (statements nodes)[lastNumber nodes.length found]? = some last ∧
        anchor.index < lastNumber nodes.length found := by
  have hnumber : lastBefore (statements nodes) anchor found =
      (statements nodes)[lastNumber nodes.length found]?.filter (anchor.index < ·.index) := by
    cases found with
    | none => rw [lastBefore, List.getLast?_eq_getElem?, length_statements, lastNumber]
    | some stop =>
      obtain ⟨-, hafter⟩ := hfound stop rfl
      rw [lastBefore, lastNumber, Statement.prev?, Statement.prevIndex, if_neg (by omega)]
      rfl
  rw [hnumber, Option.filter_eq_some_iff, decide_eq_true_iff]
  refine and_congr_right fun hget => ?_
  rw [numberedFrom_statements nodes _ last hget, Nat.zero_add]

/-- What a place is that was located for a request. -/
structure LocatedAt (nodes : List N) (request : Request N) (point : Point N) : Prop where
  /-- The anchor is the first statement that is asked for. -/
  anchor : IsFirst (statements nodes) (request.anchor.matches? · = true) point.anchor
  /-- It is the place that was asked for, relative to the anchor. -/
  placement : point.placement = request.placement
  /-- The range begins with the anchor, so it is not empty, and it ends within the document. -/
  bounds : point.anchor.index ≤ point.lastReplaced ∧ point.lastReplaced < nodes.length
  /-- It has the statements from the anchor to the last, and no other. -/
  replaced_iff : ∀ s, s ∈ point.replaced (statements nodes) ↔
    s ∈ statements nodes ∧ point.anchor.index ≤ s.index ∧ s.index ≤ point.lastReplaced
  /-- Its last statement is kept just when the range has more than one. -/
  boundary_iff : ∀ last, point.boundary = some last ↔
    1 < (point.replaced (statements nodes)).length ∧
      (point.replaced (statements nodes)).getLast? = some last
  /-- A boundary ends the range before the first statement that may end it, which is noted and is
      not part of the range; when there is none, the range goes on to the end. -/
  bounded : ∀ b, request.boundary = some b →
    (∀ stop, point.boundaryMatch = some stop ↔
      IsFirst (statements nodes) (b.Ends point.anchor) stop) ∧
    (∀ stop, point.boundaryMatch = some stop →
      point.lastReplaced = stop.index - 1 ∧ stop ∉ point.replaced (statements nodes)) ∧
    (point.boundaryMatch = none → point.lastReplaced = nodes.length - 1 ∧
      ∀ s ∈ statements nodes, ¬ b.Ends point.anchor s)
  /-- Without a boundary the anchor is all there is. -/
  unbounded : request.boundary = none → point.boundaryMatch = none ∧
    point.lastReplaced = point.anchor.index ∧
      point.replaced (statements nodes) = [point.anchor]

omit [NodeView N] in
theorem lastReplaced_of_lastBefore (hanchor : point.anchor ∈ statements nodes)
    {found : Option (Statement N)}
    (hfound : ∀ stop ∈ found, stop ∈ statements nodes ∧ point.anchor.index < stop.index)
    (hboundary : point.boundary = lastBefore (statements nodes) point.anchor found) :
    point.lastReplaced = lastNumber nodes.length found := by
  obtain ⟨hle, hlt⟩ := lastNumber_bounds hanchor hfound
  obtain ⟨last, hlast, hindex⟩ := exists_statement hlt
  have hget := getElem?_of_mem_statements hlast
  rw [hindex] at hget
  unfold Point.lastReplaced
  split
  · next hnone =>
    refine Nat.le_antisymm hle (Nat.le_of_not_lt fun hafter => ?_)
    rw [hboundary, (lastBefore_eq_some_iff hfound).2 ⟨hget, hafter⟩] at hnone
    cases hnone
  · next s hs =>
    rw [hboundary, lastBefore_eq_some_iff hfound] at hs
    have hown : s = last := Option.some.inj (hs.1.symm.trans hget)
    rw [hown, hindex, Nat.max_eq_left hle]

theorem parts_of_locate (h : locate (statements nodes) request = some point)
    (hb : request.boundary = some b) :
    point.boundaryMatch = findBoundary (statements nodes) point.anchor b ∧
      point.boundary = lastBefore (statements nodes) point.anchor point.boundaryMatch := by
  obtain ⟨anchor, -, rfl⟩ := Option.map_eq_some_iff.1 h
  rw [hb]
  exact ⟨rfl, rfl⟩

/-- A place without a boundary is its anchor. -/
theorem unbounded_of_locate (h : locate (statements nodes) request = some point)
    (hb : request.boundary = none) : point.boundary = none ∧ point.boundaryMatch = none ∧
      point.lastReplaced = point.anchor.index := by
  obtain ⟨anchor, -, rfl⟩ := Option.map_eq_some_iff.1 h
  rw [hb]
  exact ⟨rfl, rfl, rfl⟩

/-- A place with a boundary: where its range ends, and what is kept of that. -/
theorem bounded_of_locate (h : locate (statements nodes) request = some point)
    (hb : request.boundary = some b) :
    (∀ stop, point.boundaryMatch = some stop ↔
      IsFirst (statements nodes) (b.Ends point.anchor) stop) ∧
    point.lastReplaced = lastNumber nodes.length point.boundaryMatch ∧
    ∀ last, point.boundary = some last ↔ (statements nodes)[point.lastReplaced]? = some last ∧
      point.anchor.index < point.lastReplaced := by
  obtain ⟨hmatch, hboundary⟩ := parts_of_locate h hb
  have hfirst : ∀ stop, point.boundaryMatch = some stop ↔
      IsFirst (statements nodes) (b.Ends point.anchor) stop := by
    intro stop
    rw [hmatch, findBoundary_eq_some_iff]
  have hfound : ∀ stop ∈ point.boundaryMatch,
      stop ∈ statements nodes ∧ point.anchor.index < stop.index := fun stop hstop =>
    ⟨((hfirst stop).1 hstop).mem, ((hfirst stop).1 hstop).holds.after⟩
  have hlast := lastReplaced_of_lastBefore (Merger.anchor_of_locate h) hfound hboundary
  refine ⟨hfirst, hlast, fun last => ?_⟩
  rw [hboundary, hlast]
  exact lastBefore_eq_some_iff hfound

/-- A place that was located is where the request says. -/
theorem locatedAt_of_locate (h : locate (statements nodes) request = some point) :
    LocatedAt nodes request point := by
  have hanchor := find_eq_some_iff.1 (Merger.find_of_locate h)
  have hbounds : point.anchor.index ≤ point.lastReplaced ∧
      point.lastReplaced < nodes.length := by
    cases hb : request.boundary with
    | none =>
      rw [(unbounded_of_locate h hb).2.2]
      exact ⟨Nat.le_refl _, (List.getElem?_eq_some_iff.1 (getElem?_nodes hanchor.mem)).1⟩
    | some b =>
      obtain ⟨hfirst, hlast, -⟩ := bounded_of_locate h hb
      rw [hlast]
      exact lastNumber_bounds hanchor.mem fun stop hstop =>
        ⟨((hfirst stop).1 hstop).mem, ((hfirst stop).1 hstop).holds.after⟩
  obtain ⟨hle, hlt⟩ := hbounds
  have hlength : (point.replaced (statements nodes)).length =
      point.lastReplaced + 1 - point.anchor.index := Statement.length_range (by rwa [length_statements])
  have hend : (point.replaced (statements nodes)).getLast? =
      (statements nodes)[point.lastReplaced]? :=
    Statement.getLast?_range hle (by rwa [length_statements])
  refine
    { anchor := hanchor
      placement := placement_of_locate h
      bounds := ⟨hle, hlt⟩
      replaced_iff := fun s => Statement.mem_range_iff
      boundary_iff := fun last => ?_
      bounded := fun b hb => ?_
      unbounded := fun hb => ?_ }
  · rw [hlength, hend]
    cases hb : request.boundary with
    | none =>
      obtain ⟨hnone, -, hlast⟩ := unbounded_of_locate h hb
      rw [hnone, hlast]
      refine ⟨nofun, fun ⟨hmany, _⟩ => ?_⟩
      omega
    | some b =>
      rw [(bounded_of_locate h hb).2.2 last, and_comm]
      refine and_congr_left fun _ => ?_
      omega
  · obtain ⟨hfirst, hlast, -⟩ := bounded_of_locate h hb
    refine ⟨hfirst, fun stop hstop => ?_, fun hnone => ?_⟩
    · have hown : point.lastReplaced = stop.index - 1 := by rw [hlast, hstop]; rfl
      refine ⟨hown, fun hmem => ?_⟩
      have hafter := ((hfirst stop).1 hstop).holds.after
      have hbefore := (Statement.mem_range_iff.1 hmem).2.2
      omega
    · refine ⟨by rw [hlast, hnone]; rfl, fun s hs hends => ?_⟩
      obtain ⟨stop, hstop⟩ := exists_isFirst hs hends
      rw [(hfirst stop).2 hstop] at hnone
      cases hnone
  · obtain ⟨-, hnone, hlast⟩ := unbounded_of_locate h hb
    refine ⟨hnone, hlast, ?_⟩
    obtain ⟨s, hs⟩ := List.length_eq_one_iff.1 (hlength.trans (by omega))
    rw [hs, List.getLast?_singleton, hlast, getElem?_of_mem_statements hanchor.mem] at hend
    rw [hs, Option.some.inj hend]

end Injection

variable [NodeView N]

/-- A request is located just when some statement is what its anchor asks for, and then exactly
    where it says; looking for it never fails. -/
theorem requests_located_exactly (nodes : List N) (request : Injection.Request N) :
    (Injection.locate (statements nodes) request = none ↔
      ∀ s ∈ statements nodes, request.anchor.matches? s = false) ∧
    (∀ point, Injection.locate (statements nodes) request = some point →
      Injection.LocatedAt nodes request point) ∧
    Injection.locateChecked (statements nodes) request.anchor request.placement request.boundary =
      .ok (Injection.locate (statements nodes) request) :=
  ⟨Injection.locate_eq_none_iff, fun _ => Injection.locatedAt_of_locate,
    Injection.locateChecked_request _ request⟩

/-- A range from a heading on that any statement may end, if it is no deeper. -/
theorem requests_located_exactly_section :
    let source := "a\n# A\n### B\nb\n# C\nc".toList
    let request : Injection.Request Outline.Node :=
      ⟨.ofType "heading", .replace, some ⟨.any, true⟩, fun _ => rfl⟩
    ∃ d point, Outline.parse .builtin source = .ok d ∧
      Injection.locate (statements d.nodes) request = some point ∧
      Injection.LocatedAt d.nodes request point ∧
      point.anchor.index = 1 ∧ point.lastReplaced = 3 ∧
      point.boundary.map (·.index) = some 3 ∧ point.boundaryMatch.map (·.index) = some 4 := by
  intro source request
  have hfacts : ((Outline.parse .builtin source).toOption.bind fun d =>
      (Injection.locate (statements d.nodes) request).map fun point =>
        (point.anchor.index, point.lastReplaced, point.boundary.map (·.index),
          point.boundaryMatch.map (·.index))) = some (1, 3, some 3, some 4) := by
    decide +kernel
  obtain ⟨d, hd⟩ : ∃ d, Outline.parse .builtin source = .ok d := ⟨_, rfl⟩
  rw [hd] at hfacts
  obtain ⟨point, hpoint, hfound⟩ := Option.map_eq_some_iff.1 hfacts
  simp only [Prod.mk.injEq] at hfound
  obtain ⟨hanchor, hlast, hboundary, hmatch⟩ := hfound
  exact ⟨d, point, hd, hpoint, (requests_located_exactly d.nodes request).2.1 point hpoint, hanchor,
    hlast, hboundary, hmatch⟩

end TemplateMerge
