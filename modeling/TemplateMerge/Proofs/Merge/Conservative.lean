import TemplateMerge.Proofs.Merge.Refined
import TemplateMerge.Proofs.Merge.Replacement

/-! Merges that no policy can change.

    A policy says which side wins a conflict, and which types count as others then.  The walk pairs
    statements that have the same signature, and where lines with the same signature read the same,
    as those of outlines do, such a pair is no conflict.  So without a refiner there is nothing for
    a policy to decide: every pair is found identical, the destination stays as it is, and only what
    is added comes after it.

        template        a   b   c
        destination     b   x
        written         b   x   ··a   c··        the additions, if they are asked for

    The same goes for the range that a partial merge replaces, since it is written in the same
    way. -/

namespace TemplateMerge

variable {N : Type} [NodeView N]

/-- The options with another policy. -/
def MergeOptions.withPolicy (o : MergeOptions) (preference : Preference) (typing : NodeTyping) :
    MergeOptions :=
  { o with preference, typing }

/-- An outcome in which a destination, given by its text, is as it was, but for what was added at
    its end. -/
structure Conserves (source : Text) (o : Outcome) : Prop where
  /-- The statements of a pair agree, and that of the destination is kept. -/
  agreed : ∀ e ∈ o.decisions, e.templateIndex.isSome = true → e.destinationIndex.isSome = true →
    e.kind = .identical ∧ e.source = .destination
  /-- The text begins with the destination. -/
  begins : source <+: o.content
  /-- Without additions there is nothing else. -/
  kept : (∀ e ∈ o.decisions, e.kind ≠ .added) → o.content = source

namespace Merger

/-- The merger with another policy. -/
def withPolicy (m : Merger N) (preference : Preference) (typing : NodeTyping) : Merger N :=
  ⟨m.format, m.options.withPolicy preference typing⟩

variable {m : Merger N} {r : MarkerRegistry} {t d : Text} {td dd : Document N}
  {preference : Preference} {typing : NodeTyping}

/-! ### Pieces -/

/-- The policy counts only for pairs whose statements differ. -/
theorem pieceOf_withPolicy {template destination : Prepared N} {s : Statement N} {slot : Slot N}
    (h : ∀ x score, slot = .paired x score → m.format.faceOf s.node = m.format.faceOf x.node) :
    (m.withPolicy preference typing).pieceOf template destination s slot =
      m.pieceOf template destination s slot := by
  cases slot with
  | paired x score =>
    have hsame := h x score rfl
    have hpolicy : (m.withPolicy preference typing).resolvePair x s = m.resolvePair x s :=
      (resolvePair_of_same (m := m.withPolicy preference typing) hsame).trans
        (resolvePair_of_same hsame).symm
    simp only [pieceOf, hpolicy]
  | _ => rfl

theorem bodyPieces_congr {m' : Merger N} {template destination : Prepared N} {last : Nat}
    {zs : List (Statement N × Slot N)} (h : ∀ z ∈ zs,
      m'.pieceOf template destination z.1 z.2 = m.pieceOf template destination z.1 z.2) :
    ∀ next, m'.bodyPieces template destination last next zs =
      m.bodyPieces template destination last next zs := by
  induction zs with
  | nil => intro next; rfl
  | cons z zs ih =>
    intro next
    rw [bodyPieces, bodyPieces, h z List.mem_cons_self,
      ih fun z' hz' => h z' (List.mem_cons_of_mem z hz')]

theorem face_of_unrefined {L : Linewise m.format r} (htell : L.Telling)
    (ht : m.format.parse t = .ok td) (hd : m.format.parse d = .ok dd)
    (hrefiner : m.options.refiner = none) {region : List (Statement N)}
    (hregion : ∀ x ∈ region, x ∈ statements dd.nodes) {s x : Statement N} {score : Option Float}
    (hz : (s, .paired x score) ∈ region.zip (Pairing.pair m.format m.options.refiner
      (.make m.format td) (.make m.format dd) region).1) :
    m.format.faceOf s.node = m.format.faceOf x.node := by
  rw [hrefiner] at hz
  exact face_of_exact htell ht hd hregion hz

theorem regionPieces_withPolicy {L : Linewise m.format r} (htell : L.Telling)
    (ht : m.format.parse t = .ok td) (hd : m.format.parse d = .ok dd)
    (hrefiner : m.options.refiner = none) {region : Region N}
    (hregion : ∀ x ∈ region.list, x ∈ statements dd.nodes) (addTemplateOnly : Bool) :
    (m.withPolicy preference typing).regionPieces (.make m.format td) (.make m.format dd) region
        addTemplateOnly =
      m.regionPieces (.make m.format td) (.make m.format dd) region addTemplateOnly := by
  refine congrArg (· ++ _) (bodyPieces_congr (fun z hz => pieceOf_withPolicy ?_) _)
  rintro x score hslot
  obtain ⟨s, slot⟩ := z
  obtain rfl : slot = .paired x score := hslot
  exact face_of_unrefined htell ht hd hrefiner hregion hz

/-! ### Whole merges -/

/-- Without a refiner a merge keeps the destination. -/
theorem conserves_of_unrefined {L : Linewise m.format r} (htell : L.Telling)
    (ht : m.format.parse t = .ok td) (hd : m.format.parse d = .ok dd)
    (hrefiner : m.options.refiner = none) :
    Conserves d (.ofPieces (m.wholePieces td dd)) := by
  have hface : ∀ s x score, (s, Slot.paired x score) ∈
      (statements dd.nodes).zip (m.paired td dd).1 →
        m.format.faceOf s.node = m.format.faceOf x.node :=
    fun _ _ _ hz => face_of_unrefined htell ht hd hrefiner (fun _ h => h) hz
  have hheld : ∀ x score, .paired x score ∈ (m.paired td dd).1 → x ∈ statements td.nodes :=
    fun x score hx => (held_of_kept (m.kept_paired td dd) hx).1
  -- nothing is taken from the template, so nothing is exchanged
  have hexchange : (Outcome.ofPieces (m.wholePieces td dd)).decisions.filterMap
      (·.exchange? td dd) = [] := by
    rw [decisions_whole, List.filterMap_append, exchange?_statementLog (fun _ h => h) hheld,
      exchange?_addedLog, List.append_nil]
    refine List.filterMap_eq_nil_iff.2 fun z hz => ?_
    obtain ⟨s, slot⟩ := z
    cases slot with
    | paired x score => rw [taken?_of_same (hface s x score hz) score]; rfl
    | _ => rfl
  have hcontent := (audited_whole m td (L.inOrder hd)).content
  have hsource : dd.sourceRange 1 dd.lineCount = d :=
    dd.sourceRange_all.trans (L.orderly d dd hd).1
  rw [hexchange, Document.exchanged_nil, hsource, List.singleton_append] at hcontent
  refine ⟨fun e he htemplate hdestination => ?_, ?_, fun hnone => ?_⟩
  · rw [decisions_whole, List.mem_append] at he
    rcases he with he | he
    · obtain ⟨⟨s, slot⟩, hz, rfl⟩ := List.mem_map.1 he
      cases slot with
      | paired x score =>
        show (m.resolvePair x s).kind = _ ∧ (m.resolvePair x s).source = _
        rw [resolvePair_of_same (hface s x score hz)]
        exact ⟨rfl, rfl⟩
      | _ => cases htemplate
    · rw [(mem_addedLog he).2.2] at hdestination
      cases hdestination
  · rw [hcontent]
    exact Text.prefix_joinBlocks d _
  · have haddition : (Outcome.ofPieces (m.wholePieces td dd)).decisions.filterMap
        (·.addition? td) = [] :=
      List.filterMap_eq_nil_iff.2 fun e he => if_neg (hnone e he)
    rw [hcontent, haddition, Text.joinBlocks_single]

/-- Without a refiner a whole merge does not depend on the policy. -/
theorem merge_withPolicy {L : Linewise m.format r} (htell : L.Telling)
    (ht : m.format.parse t = .ok td) (hd : m.format.parse d = .ok dd)
    (hrefiner : m.options.refiner = none) :
    (m.withPolicy preference typing).merge t d = m.merge t d := by
  have hpieces : (m.withPolicy preference typing).wholePieces td dd = m.wholePieces td dd :=
    regionPieces_withPolicy htell ht hd hrefiner (fun _ h => h) m.options.addTemplateOnly
  have ht' : (m.withPolicy preference typing).format.parse t = .ok td := ht
  have hd' : (m.withPolicy preference typing).format.parse d = .ok dd := hd
  rw [merge, merge, ht, hd, ht', hd']
  exact congrArg (fun pieces => m.finish d (.ofPieces pieces)) hpieces

/-! ### Partial merges -/

/-- Nor does what is done at a place. -/
theorem applyAt_withPolicy {L : Linewise m.format r} (htell : L.Telling)
    (ht : m.format.parse t = .ok td) (hd : m.format.parse d = .ok dd)
    (hrefiner : m.options.refiner = none) {point : Injection.Point N}
    (hanchor : point.anchor ∈ statements dd.nodes) :
    (m.withPolicy preference typing).applyAt (.make m.format td) (.make m.format dd) point =
      m.applyAt (.make m.format td) (.make m.format dd) point := by
  have hregion := replacedRegion_sound (L.sound hd) (getElem?_of_mem_statements hanchor)
  have hpieces : (m.withPolicy preference typing).regionPieces (.make m.format td)
      (.make m.format dd) (replacedRegion (.make m.format dd) point) true =
        m.regionPieces (.make m.format td) (.make m.format dd)
          (replacedRegion (.make m.format dd) point) true :=
    regionPieces_withPolicy htell ht hd hrefiner hregion.subset true
  unfold applyAt
  split
  · unfold replaceRange
    dsimp only
    rw [hpieces]
    rfl
  · rfl

/-- Without a refiner a partial merge does not depend on the policy, wherever it is. -/
theorem mergePartial_withPolicy {L : Linewise m.format r} (htell : L.Telling)
    (ht : m.format.parse t = .ok td) (hd : m.format.parse d = .ok dd)
    (hrefiner : m.options.refiner = none) (request : Injection.Request N) :
    (m.withPolicy preference typing).mergePartial t d request = m.mergePartial t d request := by
  have ht' : (m.withPolicy preference typing).format.parse t = .ok td := ht
  have hd' : (m.withPolicy preference typing).format.parse d = .ok dd := hd
  cases hpoint : Injection.locate (statements dd.nodes) request with
  | some point =>
    rw [mergePartial_eq ht hd hpoint, mergePartial_eq ht' hd' hpoint]
    exact congrArg (fun o => Except.bind o (m.finish d))
      (applyAt_withPolicy htell ht hd hrefiner (anchor_of_locate hpoint))
  | none =>
    rw [mergePartial_of_locate_none ht hd hpoint, mergePartial_of_locate_none ht' hd' hpoint]

end Merger

/-! ### Outlines -/

/-- Without a refiner, whatever is merged into whatever, the destination is kept but for additions
    at its end, and another policy makes no difference, be it to a whole merge or to the replacement
    of a range. -/
def Format.MergesConservatively (format : Format N) : Prop :=
  ∀ (options : MergeOptions) (t d : Text) (td dd : Document N),
    options.refiner = none → options.strategy = .nodePair →
    format.parse t = .ok td → format.parse d = .ok dd →
      (∃ o, Merger.merge ⟨format, options⟩ t d = .ok o ∧ Conserves d o) ∧
      ∀ (preference : Preference) (typing : NodeTyping),
        Merger.merge ⟨format, options.withPolicy preference typing⟩ t d =
          Merger.merge ⟨format, options⟩ t d ∧
        ∀ request : Injection.Request N, request.placement = .replace →
          Merger.mergePartial ⟨format, options.withPolicy preference typing⟩ t d request =
            Merger.mergePartial ⟨format, options⟩ t d request

/-- Formats that read line by line, and whose signatures tell, merge conservatively. -/
theorem Linewise.mergesConservatively {format : Format N} {r : MarkerRegistry}
    {L : Linewise format r} (htell : L.Telling) : format.MergesConservatively := by
  intro options t d td dd hrefiner hs ht hd
  let m : Merger N := ⟨format, options⟩
  have hL : Linewise m.format r := L
  have hbatch : m.options.strategy ≠ .batch := by rw [show m.options.strategy = _ from hs]; decide
  have hconserves := Merger.conserves_of_unrefined (m := m) htell ht hd hrefiner
  refine ⟨⟨_, Merger.merge_eq (m := m) ht hd hbatch, ?_⟩, fun preference typing =>
    ⟨?_, fun request _ => ?_⟩⟩
  · exact ⟨hconserves.agreed, hconserves.begins, hconserves.kept⟩
  · exact Merger.merge_withPolicy (m := m) htell ht hd hrefiner
  · exact Merger.mergePartial_withPolicy (m := m) htell ht hd hrefiner request

/-- Without a refiner outlines are merged conservatively, and no policy can change that. -/
theorem outline_merge_conservative (markers : MarkerRegistry) :
    (Outline.format markers).MergesConservatively :=
  Linewise.mergesConservatively (Outline.telling markers)

/-- Lines that differ in white space at their end are pairs that agree, so the destination keeps its
    own even where the template is preferred. -/
theorem outline_merge_conservative_added :
    let format := Outline.format .builtin
    let options : MergeOptions := ⟨.everywhere .destination, true, .none, none, .nodePair⟩
    let t := "# A\n \nb \nnew".toList
    let d := "# A  \n\nb\nb\r\nown".toList
    let policy := options.withPolicy (.everywhere .template) .none
    (∃ o, Merger.merge ⟨format, options⟩ t d = .ok o ∧ Conserves d o ∧
      Merger.merge ⟨format, policy⟩ t d = .ok o) ∧
      (Merger.merge ⟨format, policy⟩ t d).toOption.map (·.content) =
        some "# A  \n\nb\nb\r\nown\nnew".toList := by
  refine ⟨?_, by decide +kernel⟩
  obtain ⟨td, ht⟩ : ∃ td, (Outline.format .builtin).parse "# A\n \nb \nnew".toList = .ok td :=
    ⟨_, rfl⟩
  obtain ⟨dd, hd⟩ : ∃ dd, (Outline.format .builtin).parse "# A  \n\nb\nb\r\nown".toList = .ok dd :=
    ⟨_, rfl⟩
  obtain ⟨⟨o, ho, hconserves⟩, hpolicy⟩ := outline_merge_conservative .builtin
    ⟨.everywhere .destination, true, .none, none, .nodePair⟩ _ _ td dd rfl rfl ht hd
  exact ⟨o, ho, hconserves, (hpolicy (.everywhere .template) .none).1.trans ho⟩

end TemplateMerge
