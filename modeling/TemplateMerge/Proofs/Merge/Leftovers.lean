import TemplateMerge.Format.KeyValue
import TemplateMerge.Proofs.Merge.Replacement
import TemplateMerge.Proofs.Merge.UsedUp

/-! A refiner pairs what was left over.

    Compare a merge without a refiner and the same merge with one.  The walk is the same, and a
    refiner fills only slots that the walk left unmatched, with statements that the walk left free.
    So the two logs have the same entries, but that some statements of the destination no longer
    stand alone, and that their new partners are no longer added.

        template        a   b   x   y           y is like z
        destination     a   z   c
        without         paired 0   appended            appended      added 1 2 3
        with            paired 0   paired 3 (scored)   appended      added 1 2

    A pair that a refiner makes never has equal signatures: the walk would have made it. -/

namespace TemplateMerge

variable {N : Type} [NodeView N]

/-- An entry that a refiner has made of that of the node `x`, which stands alone in the log
    `plain`. -/
structure RefinedPair (format : Format N) (threshold : Float) (template : Document N) (x : N)
    (plain : List Decision) (e : Decision) : Prop where
  /-- It is the entry of a pair, with a score that is high enough. -/
  kind : e.kind = .identical ∨ e.kind = .keptTemplate ∨ e.kind = .keptDestination
  scored : ∃ score, e.score = some score ∧ threshold ≤ score
  /-- The partner is of the same type, not carried through, and not frozen. -/
  partner : ∃ j n, e.templateIndex = some j ∧ template.nodes[j]? = some n ∧
    NodeView.nodeType n = NodeView.nodeType x ∧ format.carriesThrough n = false ∧
    ¬ template.Frozen n ∧
    -- it was paired with nothing, and is no exact match
    (∀ p ∈ plain, p.templateIndex = some j → p.kind = .added) ∧
    ∀ s, format.signature n = some s → format.signature x ≠ some s

/-- Two logs of the same statements, of which the second is that of a refiner. -/
structure RefinesLog (format : Format N) (threshold : Float) (template : Document N)
    (region : List (Statement N)) (plain fuzzy : List Decision) : Prop where
  /-- Every statement has an entry in both.  The entries are the same, or the statement stood alone
      and the refiner has paired it. -/
  entry : ∀ (i : Nat) (x : Statement N), region[i]? = some x → ∃ e e', plain[i]? = some e ∧
    fuzzy[i]? = some e' ∧ e.destinationIndex = some x.index ∧ e'.destinationIndex = some x.index ∧
    (e.kind ≠ .appended → e' = e ∧ e.score = none) ∧
    (e.kind = .appended → e' = e ∨ RefinedPair format threshold template x.node plain e')
  /-- What the refiner has paired is no longer added. -/
  added : fuzzy.filter (·.kind = .added) = (plain.filter (·.kind = .added)).filter fun a =>
    a.templateIndex ∉ (fuzzy.filter (·.score.isSome)).map (·.templateIndex)

namespace Pairing

variable {format : Format N} {refiner : Refiner} {td : Document N} {destination : Prepared N}
  {region : List (Statement N)} {first : Nat}

/-- What the slots of the walk and those of the refiner have to do with each other. -/
theorem slot_of_refined (hregion : NumberedFrom first region)
    {state : List (Slot N) × List Bool} {i : Nat} {slot slot' : Slot N}
    (hslot : state.1[i]? = some slot)
    (hslot' : (refined format refiner (.make format td) destination region state).1[i]? =
      some slot') :
    slot' = slot ∨ slot = .unmatched ∧ ∃ t x score, slot' = .paired t (some score) ∧
      region[i]? = some x ∧ t ∈ templateCandidates format (.make format td) state.2 ∧
        t.nodeType = x.nodeType ∧ refiner.threshold ≤ score := by
  have hstart := numberedFrom_start hregion
  rcases slot_of_foldl_enter hslot' with hsame | ⟨m, hm, hi, t, ht, rfl⟩
  · rw [hslot] at hsame
    exact .inl (Option.some.inj hsame).symm
  · obtain ⟨y, x, ⟨hy, hx, htype, -, hle⟩, rfl⟩ := Refiner.mem_refine hm
    obtain ⟨-, hunmatched⟩ := unmatched_of_destinationCandidate hstart hx
    have hxregion : x ∈ region := by
      obtain ⟨z, hz, rfl⟩ := List.mem_map.1 hx
      exact (List.of_mem_zip (List.mem_filter.1 hz).1).1
    have hyt : y = t := by
      have hget := getElem?_of_mem_statements (List.mem_filter.1 hy).1
      exact Option.some.inj (hget.symm.trans ht)
    have hxi := (hstart.getElem?_of_mem hxregion).2
    rw [show x.index - _ = i from hi] at hxi hunmatched
    rw [hslot] at hunmatched
    exact .inr ⟨Option.some.inj hunmatched, t, x, _, rfl, hxi, hyt ▸ hy, hyt ▸ htype, hle⟩

/-- A statement that the walk left alone has no signature of a statement that it left free. -/
theorem signature_ne_of_left (dd : Document N) {i : Nat} {x t : Statement N} {s : Signature}
    (hx : x ∈ statements dd.nodes) (hregion : region[i]? = some x)
    (hslot : (exact format (.make format td) (.make format dd) (usedAtFirst (.make format td))
      region).1[i]? = some .unmatched)
    (ht : t ∈ statements td.nodes)
    (hfree : (exact format (.make format td) (.make format dd) (usedAtFirst (.make format td))
      region).2[t.index]? = some false)
    (hs : format.signature t.node = some s) : format.signature x.node ≠ some s := by
  intro hsame
  have hown : (Prepared.make format td).signatures.bySlot[t.index]? = some (some s) :=
    (signature_of_getElem? (getElem?_of_mem_statements ht)).2 hs
  obtain ⟨slot, hslot', hfits⟩ := exists_getElem?_of_forall₂ (fits_exact region _) hregion
  obtain ⟨slot'', hslot'', hholds⟩ := exists_getElem?_of_forall₂ (holds_exact hown hfree) hregion
  rw [hslot] at hslot' hslot''
  obtain rfl := Option.some.inj hslot'
  obtain rfl := Option.some.inj hslot''
  have := hholds hfits.1 hfits.2 ((signatureOf_make dd hx).trans hsame)
  cases this

/-- What is held with a refiner: what the walk holds, and what is held with a score. -/
theorem mem_partners_refined {dd : Document N} (hregion : NumberedFrom first region) {j : Nat} :
    let walk := exact format (.make format td) (.make format dd) (usedAtFirst (.make format td))
      region
    let slots := (refined format refiner (.make format td) (.make format dd) region walk).1
    j ∈ partners slots ↔
      j ∈ partners walk.1 ∨ ∃ t score, .paired t (some score) ∈ slots ∧ t.index = j := by
  intro walk slots
  have hwalk : Kept format (.make format td) (.make format dd) region walk.1 walk.2 :=
    kept_exact (numberedFrom_statements td.nodes) region
  have hkept : Kept format (.make format td) (.make format dd) region slots _ :=
    hwalk.refined (numberedFrom_statements td.nodes) hregion
  have hlength : walk.1.length = slots.length :=
    hwalk.fits.length_eq.symm.trans hkept.fits.length_eq
  rw [mem_partners]
  constructor
  · rintro ⟨t, score, hmem, rfl⟩
    cases score with
    | some score => exact .inr ⟨t, score, hmem, rfl⟩
    | none =>
      obtain ⟨i, hi⟩ := List.mem_iff_getElem?.1 hmem
      have hlt : i < walk.1.length := by
        rw [hlength]
        exact (List.getElem?_eq_some_iff.1 hi).1
      rcases slot_of_refined hregion (List.getElem?_eq_getElem hlt) hi with hsame | ⟨-, hpaired⟩
      · exact .inl (mem_partners.2 ⟨t, none, hsame ▸ List.getElem_mem hlt, rfl⟩)
      · obtain ⟨_, _, _, heq, -⟩ := hpaired
        cases heq
  · rintro (hj | ⟨t, score, hmem, rfl⟩)
    · obtain ⟨t, score, hmem, rfl⟩ := mem_partners.1 hj
      obtain ⟨i, hi⟩ := List.mem_iff_getElem?.1 hmem
      have hlt : i < slots.length := by
        rw [← hlength]
        exact (List.getElem?_eq_some_iff.1 hi).1
      rcases slot_of_refined hregion hi (List.getElem?_eq_getElem hlt) with hsame | ⟨heq, -⟩
      · exact ⟨t, score, hsame ▸ List.getElem_mem hlt, rfl⟩
      · cases heq
    · exact ⟨t, some score, hmem, rfl⟩

end Pairing

namespace Merger

variable {m : Merger N} {refiner : Refiner} {td dd : Document N} {region : List (Statement N)}
  {first : Nat}

/-! ### Entries -/

theorem score_entryOf_of_unscored {x : Statement N} {slot : Slot N}
    (h : ∀ t score, slot ≠ .paired t (some score)) : (m.entryOf x slot).score = none := by
  cases slot with
  | paired t score =>
    cases score with
    | none => rfl
    | some score => exact absurd rfl (h t score)
  | _ => rfl

theorem kind_entryOf_eq_appended {x : Statement N} {slot : Slot N} :
    (m.entryOf x slot).kind = .appended ↔ slot = .unmatched := by
  cases slot with
  | paired t score =>
    rcases kind_resolvePair (m := m) t x with hkind | hkind | hkind <;> simp [entryOf, hkind]
  | _ => simp [entryOf]

theorem filter_added (slots : List (Slot N)) (template : Prepared N) (used : List Bool)
    (addTemplateOnly : Bool) :
    (m.statementLog region slots ++ addedLog template used addTemplateOnly).filter
      (·.kind = .added) = addedLog template used addTemplateOnly := by
  rw [List.filter_append, List.filter_eq_nil_iff.2, List.nil_append, List.filter_eq_self]
  · intro e he
    simpa using (mem_addedLog he).2.1
  · intro e he
    obtain ⟨z, -, rfl⟩ := List.mem_map.1 he
    simpa using kind_entryOf_ne_added z.1 z.2

theorem mem_scored_iff {slots : List (Slot N)} (hlength : region.length = slots.length)
    (template : Prepared N) (used : List Bool) (addTemplateOnly : Bool) (j : Nat) :
    some j ∈ ((m.statementLog region slots ++ addedLog template used addTemplateOnly).filter
      (·.score.isSome)).map (·.templateIndex) ↔
        ∃ t score, .paired t (some score) ∈ slots ∧ t.index = j := by
  constructor
  · intro h
    obtain ⟨e, he, hj⟩ := List.mem_map.1 h
    obtain ⟨he, hscore⟩ := List.mem_filter.1 he
    rcases List.mem_append.1 he with he | he
    · obtain ⟨⟨x, slot⟩, hz, rfl⟩ := List.mem_map.1 he
      cases slot with
      | paired t score =>
        obtain ⟨score, rfl⟩ := Option.isSome_iff_exists.1 hscore
        exact ⟨t, score, (List.of_mem_zip hz).2, Option.some.inj hj⟩
      | _ => cases hscore
    · cases addTemplateOnly with
      | false => cases he
      | true =>
        obtain ⟨t, -, rfl⟩ := List.mem_map.1 he
        cases hscore
  · rintro ⟨t, score, hmem, rfl⟩
    obtain ⟨i, hi⟩ := List.mem_iff_getElem?.1 hmem
    have hlt : i < region.length := by
      rw [hlength]
      exact (List.getElem?_eq_some_iff.1 hi).1
    have hentry := getElem?_statementLog (m := m) (List.getElem?_eq_getElem hlt) hi
    exact List.mem_map.2 ⟨_, List.mem_filter.2
      ⟨List.mem_append_left _ (List.mem_of_getElem? hentry), rfl⟩, rfl⟩

/-- The pair that a refiner makes, as its entry says. -/
theorem refinedPair_of_slot (hsub : ∀ x ∈ region, x ∈ statements dd.nodes)
    {addTemplateOnly : Bool} {i : Nat} {x t : Statement N} {score : Float}
    (hx : region[i]? = some x) :
    let walk := Pairing.exact m.format (.make m.format td) (.make m.format dd)
      (Pairing.usedAtFirst (.make m.format td)) region
    walk.1[i]? = some .unmatched →
    t ∈ Pairing.templateCandidates m.format (.make m.format td) walk.2 →
    t.nodeType = x.nodeType → refiner.threshold ≤ score →
      RefinedPair m.format refiner.threshold td x.node (m.statementLog region walk.1 ++
        addedLog (.make m.format td) walk.2 addTemplateOnly)
        (m.entryOf x (.paired t (some score))) := by
  intro walk hslot ht htype hle
  have hwalk : Pairing.Kept m.format (.make m.format td) (.make m.format dd) region walk.1 walk.2 :=
    Pairing.kept_exact (numberedFrom_statements td.nodes) region
  have hfree : walk.2[t.index]? = some false := Pairing.free_of_templateCandidate ht
  obtain ⟨hmem, hcandidate⟩ := List.mem_filter.1 ht
  rw [Bool.and_eq_true, Bool.not_eq_true'] at hcandidate
  have hmem : t ∈ statements td.nodes := hmem
  obtain ⟨hpairable, hnot⟩ := (hwalk.free t.index).1 hfree
  obtain ⟨n, hn, hfrozen⟩ := pairable_make.1 hpairable
  rw [getElem?_nodes hmem] at hn
  obtain rfl := Option.some.inj hn
  refine ⟨kind_resolvePair t x, ⟨score, rfl, hle⟩, t.index, t.node, rfl, getElem?_nodes hmem,
    htype, hcandidate.2, hfrozen, fun p hp hj => ?_,
    fun s hs => Pairing.signature_ne_of_left dd (hsub x (List.mem_of_getElem? hx)) hx hslot hmem
      hfree hs⟩
  rcases List.mem_append.1 hp with hp | hp
  · -- an entry that names it would be that of a slot that holds it
    refine absurd ?_ hnot
    rw [← templateIndex_statementLog (m := m) hwalk.fits.length_eq]
    exact List.mem_filterMap.2 ⟨p, hp, hj⟩
  · exact (mem_addedLog hp).2.1

/-- What is added with a refiner: what is added without, but for what is named with a score. -/
theorem addedLog_refined (m : Merger N) (refiner : Refiner) (td : Document N)
    (hregion : NumberedFrom first region) (addTemplateOnly : Bool) :
    let plain := Pairing.pair m.format none (.make m.format td) (.make m.format dd) region
    let fuzzy := Pairing.pair m.format (some refiner) (.make m.format td) (.make m.format dd) region
    addedLog (.make m.format td) fuzzy.2 addTemplateOnly =
      (addedLog (.make m.format td) plain.2 addTemplateOnly).filter fun a => a.templateIndex ∉
        ((m.statementLog region fuzzy.1 ++
          addedLog (.make m.format td) fuzzy.2 addTemplateOnly).filter (·.score.isSome)).map
            (·.templateIndex) := by
  intro plain fuzzy
  have hn : NumberedFrom 0 (Prepared.make m.format td).list := numberedFrom_statements td.nodes
  have hplain : Pairing.Kept m.format (.make m.format td) (.make m.format dd) region plain.1
    plain.2 := Pairing.kept_pair hn hregion
  have hfuzzy : Pairing.Kept m.format (.make m.format td) (.make m.format dd) region fuzzy.1
    fuzzy.2 := Pairing.kept_pair hn hregion
  cases addTemplateOnly with
  | false => rfl
  | true =>
    rw [addedLog_true, addedLog_true, List.filter_map]
    refine congrArg (List.map addedEntry) ?_
    unfold freeStatements
    rw [List.filter_filter]
    refine List.filter_congr fun t ht => ?_
    have hheld : t.index ∈ Pairing.partners fuzzy.1 ↔ t.index ∈ Pairing.partners plain.1 ∨
        ∃ y score, .paired y (some score) ∈ fuzzy.1 ∧ y.index = t.index :=
      Pairing.mem_partners_refined hregion
    have hscored := mem_scored_iff (m := m) hfuzzy.fits.length_eq (.make m.format td) fuzzy.2 true
      t.index
    rw [Bool.eq_iff_iff, Bool.and_eq_true, beq_iff_eq, beq_iff_eq, hplain.free, hfuzzy.free, hheld,
      not_or, ← hscored]
    constructor
    · rintro ⟨hpairable, hnot, hunscored⟩
      exact ⟨decide_eq_true hunscored, hpairable, hnot⟩
    · rintro ⟨hunscored, hpairable, hnot⟩
      exact ⟨hpairable, hnot, of_decide_eq_true hunscored⟩

/-! ### Logs -/

theorem refinesLog_region (m : Merger N) (refiner : Refiner) (td : Document N)
    (hregion : NumberedFrom first region) (hsub : ∀ x ∈ region, x ∈ statements dd.nodes)
    (addTemplateOnly : Bool) :
    let plain := Pairing.pair m.format none (.make m.format td) (.make m.format dd) region
    let fuzzy := Pairing.pair m.format (some refiner) (.make m.format td) (.make m.format dd) region
    RefinesLog m.format refiner.threshold td region
      (m.statementLog region plain.1 ++ addedLog (.make m.format td) plain.2 addTemplateOnly)
      (m.statementLog region fuzzy.1 ++ addedLog (.make m.format td) fuzzy.2 addTemplateOnly) := by
  intro plain fuzzy
  have hn : NumberedFrom 0 (Prepared.make m.format td).list := numberedFrom_statements td.nodes
  have hplain : Pairing.Kept m.format (.make m.format td) (.make m.format dd) region plain.1
    plain.2 := Pairing.kept_pair hn hregion
  have hfuzzy : Pairing.Kept m.format (.make m.format td) (.make m.format dd) region fuzzy.1
    fuzzy.2 := Pairing.kept_pair hn hregion
  refine ⟨fun i x hx => ?_, ?_⟩
  · obtain ⟨slot, hslot, -⟩ := Pairing.exists_getElem?_of_forall₂ hplain.fits hx
    obtain ⟨slot', hslot', -⟩ := Pairing.exists_getElem?_of_forall₂ hfuzzy.fits hx
    have hentry := getElem?_statementLog (m := m) hx hslot
    have hentry' := getElem?_statementLog (m := m) hx hslot'
    have hunscored : ∀ t score, slot ≠ .paired t (some score) := by
      rintro t score rfl
      obtain ⟨used', hused'⟩ :=
        Pairing.slot_of_mem_exact (Pairing.mem_zip_of_getElem? hx hslot)
      cases (Pairing.slotOf_eq_paired hused'.symm).1
    refine ⟨m.entryOf x slot, m.entryOf x slot', ?_, ?_, destinationIndex_entryOf x slot,
      destinationIndex_entryOf x slot', fun hkind => ?_, fun hkind => ?_⟩
    · rw [List.getElem?_append_left (List.getElem?_eq_some_iff.1 hentry).1, hentry]
    · rw [List.getElem?_append_left (List.getElem?_eq_some_iff.1 hentry').1, hentry']
    · rcases Pairing.slot_of_refined hregion hslot hslot' with hsame | ⟨hunmatched, -⟩
      · exact ⟨by rw [hsame], score_entryOf_of_unscored hunscored⟩
      · exact absurd (kind_entryOf_eq_appended.2 hunmatched) hkind
    · rcases Pairing.slot_of_refined hregion hslot hslot' with hsame | ⟨hunmatched, hpaired⟩
      · exact .inl (by rw [hsame])
      · obtain ⟨t, x', score, rfl, hx', ht, htype, hle⟩ := hpaired
        obtain rfl : x' = x := Option.some.inj (hx'.symm.trans hx)
        subst hunmatched
        exact .inr (refinedPair_of_slot hsub hx hslot ht htype hle)
  · rw [filter_added, filter_added]
    exact addedLog_refined m refiner td hregion addTemplateOnly

/-- The statements that a place replaces are of the document, numbered from the anchor on. -/
theorem numberedFrom_replacedRegion (format : Format N) (dd : Document N)
    (point : Injection.Point N) :
    NumberedFrom point.anchor.index (replacedRegion (.make format dd) point).list ∧
      ∀ x ∈ (replacedRegion (.make format dd) point).list, x ∈ statements dd.nodes := by
  rw [replacedRegion_eq]
  refine ⟨Statement.numberedFrom_range (numberedFrom_statements dd.nodes) _ _, fun x hx => ?_⟩
  obtain ⟨i, -, -, hi⟩ := Statement.mem_range hx
  exact List.mem_of_getElem? hi

end Merger

/-! ### Merges -/

/-- A refiner changes what the walk has left over, and nothing else: in whole merges, and in the
    merge of a range that is replaced. -/
theorem refiner_pairs_leftovers (format : Format N) (options : MergeOptions) (refiner : Refiner)
    {t d : Text} {td dd : Document N} (hs : options.strategy = .nodePair)
    (ht : format.parse t = .ok td) (hd : format.parse d = .ok dd) :
    let plain : Merger N := ⟨format, { options with refiner := none }⟩
    let fuzzy : Merger N := ⟨format, { options with refiner := some refiner }⟩
    (∃ o o', plain.merge t d = .ok o ∧ fuzzy.merge t d = .ok o' ∧
      RefinesLog format refiner.threshold td (statements dd.nodes) o.decisions o'.decisions) ∧
    ∀ (request : Injection.Request N) (point : Injection.Point N), request.placement = .replace →
      Injection.locate (statements dd.nodes) request = some point →
        ∃ o o' log log', plain.mergePartial t d request = .ok o ∧
          fuzzy.mergePartial t d request = .ok o' ∧
          o.decisions = Merger.replacedDecision point.anchor :: log ∧
          o'.decisions = Merger.replacedDecision point.anchor :: log' ∧
          RefinesLog format refiner.threshold td
            (Merger.replacedRegion (.make format dd) point).list log log' := by
  intro plain fuzzy
  have hbatch : options.strategy ≠ .batch := by rw [hs]; decide
  have hboundary : options.strategy ≠ .boundary := by rw [hs]; decide
  refine ⟨⟨_, _, Merger.merge_eq (m := plain) ht hd hbatch,
    Merger.merge_eq (m := fuzzy) ht hd hbatch, ?_⟩, fun request point hrequest hpoint => ?_⟩
  · show RefinesLog format refiner.threshold td (statements dd.nodes)
      ((plain.wholePieces td dd).filterMap (·.decision))
      ((fuzzy.wholePieces td dd).filterMap (·.decision))
    rw [Merger.wholePieces, Merger.wholePieces, Merger.decisions_regionPieces,
      Merger.decisions_regionPieces]
    exact Merger.refinesLog_region plain refiner td (numberedFrom_statements dd.nodes)
      (fun _ hx => hx) options.addTemplateOnly
  · obtain ⟨hregion, hsub⟩ := Merger.numberedFrom_replacedRegion format dd point
    have hplacement : point.placement = .replace :=
      (Injection.placement_of_locate hpoint).trans hrequest
    -- both logs begin with the replacement, which is followed by that of the region
    have hpartial : ∀ m : Merger N, m.format = format → m.options.strategy = options.strategy →
        ∃ o, m.mergePartial t d request = .ok o ∧
          o.decisions = Merger.replacedDecision point.anchor ::
            (m.regionPieces (.make format td) (.make format dd)
              (Merger.replacedRegion (.make format dd) point) true).filterMap (·.decision) := by
      rintro m rfl hstrategy
      let inner := m.replacement (.make m.format td) (.make m.format dd) point
      refine ⟨{ inner with changed := decide (inner.content ≠ d) }, ?_, rfl⟩
      rw [Merger.mergePartial_eq ht hd hpoint, Merger.applyAt, hplacement]
      dsimp only
      rw [Merger.replaceRange_eq (hstrategy ▸ hboundary)]
      exact Merger.finish_eq (hstrategy ▸ hbatch) d _
    obtain ⟨o, ho, hlog⟩ := hpartial plain rfl rfl
    obtain ⟨o', ho', hlog'⟩ := hpartial fuzzy rfl rfl
    refine ⟨o, o', _, _, ho, ho', hlog, hlog', ?_⟩
    rw [Merger.decisions_regionPieces, Merger.decisions_regionPieces]
    exact Merger.refinesLog_region plain refiner td hregion hsub true

/-- A key that is written in two ways, which a refiner may pair. -/
theorem refiner_pairs_leftovers_alike :
    let format := KeyValue.format ⟨none, none⟩ .builtin
    let options : MergeOptions := { MergeOptions.standard with addTemplateOnly := true }
    let refiner : Refiner := ⟨Refiner.standardThreshold, .standard, []⟩
    let t := "a=1\nbeta=2".toList
    let d := "betta=2\na=3".toList
    ∃ td dd o o', options.strategy = .nodePair ∧
      format.parse t = .ok td ∧ format.parse d = .ok dd ∧
      Merger.merge ⟨format, { options with refiner := none }⟩ t d = .ok o ∧
      Merger.merge ⟨format, { options with refiner := some refiner }⟩ t d = .ok o' ∧
      RefinesLog format refiner.threshold td (statements dd.nodes) o.decisions o'.decisions ∧
      o.decisions.map (fun e => (e.kind, e.templateIndex, e.destinationIndex)) =
        [(.appended, none, some 0), (.keptDestination, some 0, some 1),
          (.added, some 1, none)] := by
  intro format options refiner t d
  have hlog : (Merger.merge ⟨format, { options with refiner := none }⟩ t d).toOption.map
      (fun o => o.decisions.map fun e => (e.kind, e.templateIndex, e.destinationIndex)) =
        some [(.appended, none, some 0), (.keptDestination, some 0, some 1),
          (.added, some 1, none)] := by decide +kernel
  obtain ⟨td, ht⟩ : ∃ td, format.parse t = .ok td := ⟨_, rfl⟩
  obtain ⟨dd, hd⟩ : ∃ dd, format.parse d = .ok dd := ⟨_, rfl⟩
  obtain ⟨⟨o, o', ho, ho', hrefines⟩, -⟩ := refiner_pairs_leftovers format options refiner rfl ht hd
  rw [ho] at hlog
  exact ⟨td, dd, o, o', rfl, ht, hd, ho, ho', hrefines, Option.some.inj hlog⟩

end TemplateMerge
