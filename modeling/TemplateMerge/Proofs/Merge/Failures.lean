import TemplateMerge.Format.Outline
import TemplateMerge.Proofs.Merge.Replacement
import TemplateMerge.Proofs.Stages

/-! Which merges fail, and how they say so.

    A merge goes through stages, and the first one that fails says what the failure is.  The
    template is read before the destination, and both are read before the place is looked for; the
    hooks come last, and only those that the strategy asks for.

        template  ──▶  destination  ──▶  anchor  ──▶  boundary hook  ──▶  batch hook
           │               │               │                │                 │
        what is wrong with its text     not found      what it says      what it says

    Nothing else fails.  A place must not have a boundary unless it replaces something, and looking
    for a place checks that; but a request that has a boundary replaces, so the check never fails,
    and errors of the configuration come from hooks alone. -/

namespace TemplateMerge

variable {N : Type}

/-! ### Reading -/

/-- How two documents fail to be read. -/
inductive ReadFails (template destination : Except ParseError (Document N)) : MergeError → Prop
  /-- The template cannot be read, whatever the destination is. -/
  | template {p : ParseError} (h : template = .error p) :
    ReadFails template destination (.ofParse .template p)
  /-- The template can be read and the destination cannot. -/
  | destination {td : Document N} {p : ParseError} (ht : template = .ok td)
    (h : destination = .error p) : ReadFails template destination (.ofParse .destination p)

/-- Reading never puts the configuration at fault. -/
theorem not_readFails_config {template destination : Except ParseError (Document N)}
    {c : ConfigError} : ¬ ReadFails template destination (.config c) := by
  generalize he : MergeError.config c = e
  rintro (@⟨p, -⟩ | @⟨-, p, -, -⟩) <;> cases p <;> cases he

/-! ### Requests -/

namespace Injection

/-- What goes together is a request. -/
theorem Request.make_or_withBoundary (r : Request N) :
    r = .make r.anchor r.placement ∨
      ∃ b, (Request.make r.anchor r.placement).withBoundary b = .ok r := by
  obtain ⟨anchor, placement, boundary, hreplaces⟩ := r
  cases boundary with
  | none => exact .inl rfl
  | some b => exact .inr ⟨b, dif_pos (hreplaces rfl)⟩

variable [NodeView N]

/-- The place that an anchor, a placement and a boundary ask for, when it is not known whether they
    go together. -/
def locateChecked (list : List (Statement N)) (anchor : Matcher N) (placement : Placement)
    (boundary : Option (Boundary N)) : Except ConfigError (Option (Point N)) :=
  match find list anchor with
  | none => .ok none
  | some first =>
    let last := boundary.bind fun b => lastBefore list first (findBoundary list first b)
    (Point.make first placement last).map fun point =>
      let notes := point.metadata.insert "anchor" anchor.describe
      some <| match boundary.bind (findBoundary list first) with
        | none => { point with metadata := notes }
        | some stop =>
          { point with
            boundaryMatch := some stop
            metadata := notes.insert "stopped_at" (toString stop.index) }

/-- Parts that do not go together are those of a range that nothing replaces. -/
theorem locateChecked_eq_error_iff {list : List (Statement N)} {anchor : Matcher N}
    {placement : Placement} {boundary : Option (Boundary N)} {e : ConfigError} :
    locateChecked list anchor placement boundary = .error e ↔
      e = .boundaryWithoutReplace placement ∧ placement ≠ .replace ∧
        ∃ first b, find list anchor = some first ∧ boundary = some b ∧
          (lastBefore list first (findBoundary list first b)).isSome = true := by
  unfold locateChecked
  cases find list anchor with
  | none => simp
  | some first =>
    dsimp only
    rw [Except.map_eq_error_iff, Point.make]
    cases boundary with
    | none => simp
    | some b =>
      dsimp only [Option.bind_some]
      split
      next hboth =>
        refine ⟨fun h => ⟨(Except.error.inj h).symm, hboth.2, first, b, rfl, rfl, hboth.1⟩, ?_⟩
        rintro ⟨rfl, -⟩
        rfl
      next hnot =>
        refine ⟨nofun, ?_⟩
        rintro ⟨-, hplacement, _, _, ⟨⟩, ⟨⟩, hlast⟩
        exact absurd ⟨hlast, hplacement⟩ hnot

theorem locateChecked_request (list : List (Statement N)) (r : Request N) :
    locateChecked list r.anchor r.placement r.boundary = .ok (locate list r) := by
  obtain ⟨anchor, placement, boundary, hreplaces⟩ := r
  unfold locateChecked locate
  cases find list anchor with
  | none => rfl
  | some first =>
    cases boundary with
    | none =>
      dsimp only [Option.bind_none]
      rw [Point.make, if_neg (by simp)]
      rfl
    | some b =>
      have hreplace : placement = .replace := hreplaces rfl
      dsimp only [Option.bind_some, Option.map_some]
      rw [Point.make, if_neg (by simp [hreplace])]
      cases findBoundary list first b <;> rfl

theorem locate_eq_none_iff {list : List (Statement N)} {r : Request N} :
    locate list r = none ↔ ∀ s ∈ list, r.anchor.matches? s = false := by
  rw [locate, Option.map_eq_none_iff, find, List.find?_eq_none]
  exact forall₂_congr fun _ _ => Bool.not_eq_true _ |>.to_iff

end Injection

variable [NodeView N]

/-! ### Failures -/

namespace Merger

/-- How a whole merge fails. -/
inductive WholeFails (m : Merger N) (template destination : Except ParseError (Document N)) :
    MergeError → Prop
  /-- The documents cannot be read. -/
  | read {e : MergeError} (h : ReadFails template destination e) :
    WholeFails m template destination e
  /-- The batch hook refuses what was merged. -/
  | batch {td dd : Document N} {e : MergeError} (ht : template = .ok td)
    (hd : destination = .ok dd) (hs : m.options.strategy = .batch)
    (h : m.format.batchHook (.ofPieces (m.wholePieces td dd)) = .error e) :
    WholeFails m template destination e

/-- The template merged into the range that a point replaces, before any hook. -/
def rangeOutcome (m : Merger N) (td dd : Document N) (point : Injection.Point N) : Outcome :=
  .ofPieces (m.regionPieces (.make m.format td) (.make m.format dd)
    (replacedRegion (.make m.format dd) point) true)

/-- How a partial merge fails. -/
inductive PartialFails (m : Merger N) (template destination : Except ParseError (Document N))
    (request : Injection.Request N) : MergeError → Prop
  /-- The documents cannot be read. -/
  | read {e : MergeError} (h : ReadFails template destination e) :
    PartialFails m template destination request e
  /-- No statement of the destination is the anchor. -/
  | anchor {td dd : Document N} (ht : template = .ok td) (hd : destination = .ok dd)
    (h : ∀ s ∈ statements dd.nodes, request.anchor.matches? s = false) :
    PartialFails m template destination request (.anchorNotFound request.anchor.describe)
  /-- The boundary hook refuses what was merged into the range. -/
  | boundary {td dd : Document N} {point : Injection.Point N} {e : MergeError}
    (ht : template = .ok td) (hd : destination = .ok dd)
    (hpoint : Injection.locate (statements dd.nodes) request = some point)
    (hplacement : request.placement = .replace) (hs : m.options.strategy = .boundary)
    (h : m.format.boundaryHook (point.boundary.getD point.anchor) (m.rangeOutcome td dd point) =
      .error e) : PartialFails m template destination request e
  /-- The batch hook refuses what was merged. -/
  | batch {td dd : Document N} {point : Injection.Point N} {o : Outcome} {e : MergeError}
    (ht : template = .ok td) (hd : destination = .ok dd)
    (hpoint : Injection.locate (statements dd.nodes) request = some point)
    (happlied : m.applyAt (.make m.format td) (.make m.format dd) point = .ok o)
    (hs : m.options.strategy = .batch) (h : m.format.batchHook o = .error e) :
    PartialFails m template destination request e

variable {m : Merger N} {e : MergeError}

/-! ### Stages -/

theorem finish_eq_error_iff {source : Text} {o : Outcome} :
    m.finish source o = .error e ↔
      m.options.strategy = .batch ∧ m.format.batchHook o = .error e := by
  unfold finish
  rw [Except.map_eq_error_iff]
  split
  next hs => simp [hs]
  next hs => simp [hs]

theorem applyAt_eq_error_iff {td dd : Document N} {point : Injection.Point N} :
    m.applyAt (.make m.format td) (.make m.format dd) point = .error e ↔
      point.placement = .replace ∧ m.options.strategy = .boundary ∧
        m.format.boundaryHook (point.boundary.getD point.anchor) (m.rangeOutcome td dd point) =
          .error e := by
  unfold applyAt
  split
  next hreplace =>
    rw [replaceRange, Except.map_eq_error_iff]
    split
    next hs => simp [hs, hreplace, rangeOutcome]
    next hs => simp [hs]
  next hinsert => simp [show point.placement ≠ .replace from hinsert]

theorem prepare_bind_eq_error_iff {template destination : Except ParseError (Document N)}
    {f : Prepared N → Prepared N → Except MergeError Outcome} :
    ((m.prepare .template template).bind fun t =>
        (m.prepare .destination destination).bind fun d => f t d) = .error e ↔
      ReadFails template destination e ∨ ∃ td dd, template = .ok td ∧ destination = .ok dd ∧
        f (.make m.format td) (.make m.format dd) = .error e := by
  have hprepare : ∀ side (parsed : Except ParseError (Document N)),
      m.prepare side parsed = .error e ↔ ∃ p, parsed = .error p ∧ .ofParse side p = e := by
    intro side parsed
    cases parsed <;> simp [prepare]
  have hok : ∀ side (parsed : Except ParseError (Document N)) p,
      m.prepare side parsed = .ok p ↔ ∃ d, parsed = .ok d ∧ .make m.format d = p := by
    intro side parsed p
    cases parsed <;> simp [prepare]
  rw [Except.bind_eq_error_iff, hprepare]
  simp only [Except.bind_eq_error_iff, hprepare, hok]
  constructor
  · rintro (⟨p, ht, rfl⟩ | ⟨_, ⟨td, ht, rfl⟩, ⟨p, hd, rfl⟩ | ⟨_, ⟨dd, hd, rfl⟩, hf⟩⟩)
    · exact .inl (.template ht)
    · exact .inl (.destination ht hd)
    · exact .inr ⟨td, dd, ht, hd, hf⟩
  · rintro ((ht | ⟨ht, hd⟩) | ⟨td, dd, ht, hd, hf⟩)
    · exact .inl ⟨_, ht, rfl⟩
    · exact .inr ⟨_, ⟨_, ht, rfl⟩, .inl ⟨_, hd, rfl⟩⟩
    · exact .inr ⟨_, ⟨td, ht, rfl⟩, .inr ⟨_, ⟨dd, hd, rfl⟩, hf⟩⟩

/-! ### Merges -/

theorem merge_eq_error_iff {t d : Text} :
    m.merge t d = .error e ↔ m.WholeFails (m.format.parse t) (m.format.parse d) e := by
  refine prepare_bind_eq_error_iff.trans ⟨?_, ?_⟩
  · rintro (h | ⟨td, dd, ht, hd, h⟩)
    · exact .read h
    · obtain ⟨hs, hhook⟩ := finish_eq_error_iff.1 h
      exact .batch ht hd hs hhook
  · rintro (h | ⟨ht, hd, hs, hhook⟩)
    · exact .inl h
    · exact .inr ⟨_, _, ht, hd, finish_eq_error_iff.2 ⟨hs, hhook⟩⟩

theorem mergePartial_eq_error_iff {t d : Text} {request : Injection.Request N} :
    m.mergePartial t d request = .error e ↔
      m.PartialFails (m.format.parse t) (m.format.parse d) request e := by
  refine prepare_bind_eq_error_iff.trans ⟨?_, ?_⟩
  · rintro (h | ⟨td, dd, ht, hd, h⟩)
    · exact .read h
    · rw [mergePartialPrepared] at h
      split at h
      next hnone =>
        obtain rfl := Except.error.inj h
        exact .anchor ht hd (Injection.locate_eq_none_iff.1 hnone)
      next point hpoint =>
        rcases Except.bind_eq_error_iff.1 h with h | ⟨o, ho, h⟩
        · obtain ⟨hplacement, hs, hhook⟩ := applyAt_eq_error_iff.1 h
          rw [Injection.placement_of_locate hpoint] at hplacement
          exact .boundary ht hd hpoint hplacement hs hhook
        · obtain ⟨hs, hhook⟩ := finish_eq_error_iff.1 h
          exact .batch ht hd hpoint ho hs hhook
  · rintro (h | ⟨ht, hd, hnone⟩ | ⟨ht, hd, hpoint, hplacement, hs, hhook⟩ |
      ⟨ht, hd, hpoint, ho, hs, hhook⟩)
    · exact .inl h
    · refine .inr ⟨_, _, ht, hd, ?_⟩
      rw [mergePartialPrepared_of_none (Injection.locate_eq_none_iff.2 hnone)]
    · refine .inr ⟨_, _, ht, hd, ?_⟩
      rw [← Injection.placement_of_locate hpoint] at hplacement
      rw [mergePartialPrepared_of_some hpoint, applyAt_eq_error_iff.2 ⟨hplacement, hs, hhook⟩]
      rfl
    · refine .inr ⟨_, _, ht, hd, ?_⟩
      rw [mergePartialPrepared_of_some hpoint, ho]
      exact finish_eq_error_iff.2 ⟨hs, hhook⟩

/-! ### What is to be said of failures -/

/-- Failures of the merges of two texts, wholly or at the place that a request asks for. -/
structure FailsExactly (m : Merger N) (t d : Text) (request : Injection.Request N) : Prop where
  /-- A whole merge fails in these ways and in no other. -/
  whole : ∀ e, m.merge t d = .error e ↔ m.WholeFails (m.format.parse t) (m.format.parse d) e
  /-- A partial merge fails in these ways and in no other. -/
  part : ∀ e, m.mergePartial t d request = .error e ↔
    m.PartialFails (m.format.parse t) (m.format.parse d) request e
  /-- Markers that do not pair up in the template are said to be unbalanced there, whatever the
      destination is. -/
  unbalancedTemplate : ∀ s, m.format.parse t = .error (.unbalanced s) →
    m.merge t d = .error (.unbalanced .template s) ∧
      m.mergePartial t d request = .error (.unbalanced .template s)
  /-- Those of the destination are said to be unbalanced there. -/
  unbalancedDestination : ∀ td s, m.format.parse t = .ok td →
    m.format.parse d = .error (.unbalanced s) →
      m.merge t d = .error (.unbalanced .destination s) ∧
        m.mergePartial t d request = .error (.unbalanced .destination s)
  /-- The configuration is at fault in a whole merge only when the batch hook says so. -/
  wholeConfig : ∀ c, m.merge t d = .error (.config c) →
    m.options.strategy = .batch ∧ ∃ o, m.format.batchHook o = .error (.config c)
  /-- The configuration is at fault in a partial merge only when a hook says so. -/
  partConfig : ∀ c, m.mergePartial t d request = .error (.config c) →
    (m.options.strategy = .batch ∧ ∃ o, m.format.batchHook o = .error (.config c)) ∨
      (m.options.strategy = .boundary ∧
        ∃ s o, m.format.boundaryHook s o = .error (.config c))
  /-- The check of a place never fails. -/
  located : ∀ list, Injection.locateChecked list request.anchor request.placement
    request.boundary = .ok (Injection.locate list request)

theorem failsExactly (m : Merger N) (t d : Text) (request : Injection.Request N) :
    m.FailsExactly t d request where
  whole _ := merge_eq_error_iff
  part _ := mergePartial_eq_error_iff
  unbalancedTemplate _ h :=
    ⟨merge_eq_error_iff.2 (.read (.template h)), mergePartial_eq_error_iff.2 (.read (.template h))⟩
  unbalancedDestination _ _ ht h :=
    ⟨merge_eq_error_iff.2 (.read (.destination ht h)),
      mergePartial_eq_error_iff.2 (.read (.destination ht h))⟩
  wholeConfig c h := by
    rcases merge_eq_error_iff.1 h with h | ⟨-, -, hs, hhook⟩
    · exact absurd h not_readFails_config
    · exact ⟨hs, _, hhook⟩
  partConfig c h := by
    generalize he : MergeError.config c = e at h
    rcases mergePartial_eq_error_iff.1 h with
      h | - | ⟨-, -, -, -, hs, hhook⟩ | ⟨-, -, -, -, hs, hhook⟩
    · exact absurd (he ▸ h) not_readFails_config
    · cases he
    · subst he
      exact .inr ⟨hs, _, _, hhook⟩
    · subst he
      exact .inl ⟨hs, _, hhook⟩
  located list := Injection.locateChecked_request list request

end Merger

/-! ### Outlines -/

/-- Outlines are read unless their markers do not pair up. -/
theorem Outline.parse_eq_error_iff {markers : MarkerRegistry} {s : Text} {p : ParseError} :
    (Outline.format markers).parse s = .error p ↔
      ∃ e, markers.scan (Outline.linesOf s) = .error e ∧ p = .unbalanced e := by
  show Outline.parse markers s = .error p ↔ _
  unfold Outline.parse
  cases markers.scan (Outline.linesOf s) <;> simp [eq_comm]

/-- Whatever is merged by whatever means, a merge fails just as said; and outlines are read unless
    their markers do not pair up. -/
theorem merge_fails_exactly :
    (∀ (N : Type) [NodeView N] (m : Merger N) (t d : Text) (request : Injection.Request N),
        m.FailsExactly t d request) ∧
      ∀ (markers : MarkerRegistry) (s : Text) (p : ParseError),
        (Outline.format markers).parse s = .error p ↔
          ∃ e, markers.scan (Outline.linesOf s) = .error e ∧ p = .unbalanced e :=
  ⟨fun _ _ => Merger.failsExactly, fun _ _ _ => Outline.parse_eq_error_iff⟩

/-- Of two documents that cannot be read the template is named; the anchor is missed before a hook
    is; and each hook is asked for by its own strategy. -/
theorem merge_fails_exactly_in_order :
    let told (strategy : Strategy) : Merger Outline.Node :=
      ⟨Outline.format .builtin, { MergeOptions.standard with strategy }⟩
    let stray := "text\n# structmerge:unfreeze\n".toList
    let heading : Matcher Outline.Node := .ofType "heading"
    (told .nodePair).merge stray stray = .error (.unbalanced .template (.unexpectedUnfreeze 2)) ∧
      (told .batch).mergePartial "# A".toList "text".toList (.make heading .after) =
        .error (.anchorNotFound "type=heading") ∧
      (told .batch).merge "# A".toList "text".toList = .error (.hookMissing .batch) ∧
      (told .boundary).mergePartial "text".toList "# A".toList (.make heading .replace) =
        .error (.hookMissing .boundary) := by
  intro told stray heading
  have hwhole (strategy : Strategy) (t d : Text) (e : MergeError) :=
    ((merge_fails_exactly.1 _ (told strategy) t d (.make heading .after)).whole e).2
  have hpart (strategy : Strategy) (t d : Text) (placement : Placement) (e : MergeError) :=
    ((merge_fails_exactly.1 _ (told strategy) t d (.make heading placement)).part e).2
  refine ⟨hwhole .nodePair _ _ _ (.read ?_), hpart .batch _ _ _ _ ?_,
    hwhole .batch _ _ _ (.batch rfl rfl rfl rfl), hpart .boundary _ _ _ _ ?_⟩
  · exact .template (p := .unbalanced (.unexpectedUnfreeze 2)) rfl
  · exact .anchor rfl rfl (by decide +kernel)
  · obtain ⟨dd, hd⟩ : ∃ dd, (told .boundary).format.parse "# A".toList = .ok dd := ⟨_, rfl⟩
    have hfind : (((told .boundary).format.parse "# A".toList).toOption.bind fun dd =>
        Injection.find (statements dd.nodes) heading).isSome = true := by decide +kernel
    rw [hd] at hfind
    obtain ⟨point, hpoint⟩ : ∃ point, Injection.locate (statements dd.nodes)
        (.make heading .replace) = some point := Merger.locate_of_find hfind
    exact .boundary rfl hd hpoint rfl rfl rfl

end TemplateMerge
