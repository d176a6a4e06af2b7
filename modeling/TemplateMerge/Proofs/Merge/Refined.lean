import TemplateMerge.Proofs.Merge.Idempotence
import TemplateMerge.Proofs.Merge.UsedUp

/-! Merging a second time with a refiner.

    Two lines of an outline with the same signature read the same, so only a pair that a refiner
    made can be a conflict.  Scores depend on where statements stand and on how many there are, and
    after a merge neither is what it was; so a second merge may pair otherwise than the first.  It
    changes nothing exactly when the template wins none of the pairs that are made then, and nothing
    is added.

    This is so whenever all of the template has gone into the text: when the template won every
    pair that the refiner made, and what was left was added.  For then there are as many statements
    of every signature in the text as in the template, and nothing is left for a refiner.

        template        a   b   c        a and x alike
        destination     x   b            ──▶   a   b   c            ──▶   the same
        scores          0.8  ·                 ·   ·   ·                  nothing to refine -/

namespace TemplateMerge

variable {N : Type} [NodeView N]

namespace Pairing

variable {format : Format N} {template destination : Prepared N}

/-! ### Pairs without a score -/

/-- What is paired without a score was paired by the walk. -/
theorem exact_of_unscored {refiner : Option Refiner} {region : List (Statement N)} {i : Nat}
    {t : Statement N}
    (h : (pair format refiner template destination region).1[i]? = some (.paired t none)) :
    (exact format template destination (usedAtFirst template) region).1[i]? =
      some (.paired t none) := by
  cases refiner with
  | none => exact h
  | some refiner =>
    -- a refiner gives every pair that it makes a score
    refine (slot_of_foldl_enter h).resolve_right ?_
    rintro ⟨_, -, -, _, -, heq⟩
    cases heq

end Pairing

/-! ### Signatures that tell -/

/-- Lines with the same signature read the same. -/
def Linewise.Telling {format : Format N} {r : MarkerRegistry} (L : Linewise format r) : Prop :=
  ∀ a b, (L.face a).signature = (L.face b).signature → L.face a = L.face b

theorem Outline.telling (markers : MarkerRegistry) : (linewise markers).Telling := by
  intro a b h
  have hsignature := Option.some.inj h
  show Face.mk _ _ _ = Face.mk _ _ _
  rw [hsignature, trimEnd_of_signatureOfLine hsignature]

namespace Merger

variable {m : Merger N} {r : MarkerRegistry} {t d content : Text} {td dd d' : Document N}
  {slots : List (Slot N)} {used : List Bool}

/-! ### Only a refiner makes conflicts -/

theorem face_of_exact {L : Linewise m.format r} (htell : L.Telling)
    (ht : m.format.parse t = .ok td) (hd : m.format.parse d = .ok dd) {region : List (Statement N)}
    (hregion : ∀ x ∈ region, x ∈ statements dd.nodes) {x y : Statement N} {score : Option Float}
    (hz : (x, .paired y score) ∈ region.zip (Pairing.exact m.format (.make m.format td)
      (.make m.format dd) (Pairing.usedAtFirst (.make m.format td)) region).1) :
    m.format.faceOf x.node = m.format.faceOf y.node := by
  obtain ⟨i, hi⟩ := List.mem_iff_getElem?.1 hz
  obtain ⟨hx, hslot⟩ := List.getElem?_zip_eq_some.1 hi
  have hkept : Pairing.Kept m.format (.make m.format td) (.make m.format dd) region
      (Pairing.exact m.format (.make m.format td) (.make m.format dd)
        (Pairing.usedAtFirst (.make m.format td)) region).1
      (Pairing.exact m.format (.make m.format td) (.make m.format dd)
        (Pairing.usedAtFirst (.make m.format td)) region).2 :=
    Pairing.kept_exact (numberedFrom_statements td.nodes) region
  obtain ⟨hfrozen, -, hymem, hyfrozen⟩ := paired_of_kept hkept hx hslot
  have hxmem := hregion x (List.mem_of_getElem? hx)
  have hsignature := Pairing.signature_of_mem_exact hxmem hz
  obtain ⟨line, hline⟩ := L.lineStatement hd hxmem hfrozen
  obtain ⟨line', hline'⟩ := L.lineStatement ht hymem hyfrozen
  rw [hline.face, hline'.face]
  refine htell _ _ ?_
  rw [← hline.face, ← hline'.face]
  exact hsignature.symm

theorem face_of_unscored {L : Linewise m.format r} (htell : L.Telling)
    (ht : m.format.parse t = .ok td) (hd : m.format.parse d = .ok dd) {i : Nat}
    {x y : Statement N} (hx : (statements dd.nodes)[i]? = some x)
    (hslot : (m.paired td dd).1[i]? = some (.paired y none)) :
    m.format.faceOf x.node = m.format.faceOf y.node :=
  face_of_exact htell ht hd (fun _ h => h)
    (Pairing.mem_zip_of_getElem? hx (Pairing.exact_of_unscored hslot))

/-- The template wins only where there is a score. -/
theorem scored_of_keptTemplate {L : Linewise m.format r} (htell : L.Telling)
    (ht : m.format.parse t = .ok td) (hd : m.format.parse d = .ok dd) {e : Decision}
    (he : e ∈ (Outcome.ofPieces (m.wholePieces td dd)).decisions) (hkind : e.kind = .keptTemplate) :
    e.score.isSome = true := by
  rw [decisions_whole, List.mem_append] at he
  rcases he with he | he
  · obtain ⟨⟨x, slot⟩, hz, rfl⟩ := List.mem_map.1 he
    obtain ⟨y, htaken⟩ := kind_eq_keptTemplate.1 hkind
    obtain ⟨score, rfl, -⟩ := taken?_eq_some htaken
    cases score with
    | some score => rfl
    | none =>
      obtain ⟨i, hi⟩ := List.mem_iff_getElem?.1 hz
      obtain ⟨hx, hslot⟩ := List.getElem?_zip_eq_some.1 hi
      rw [taken?_of_same (face_of_unscored htell ht hd hx hslot) none] at htaken
      cases htaken
  · rw [(mem_addedLog he).2.1] at hkind
    cases hkind

/-- A merge changes nothing exactly when the template wins no pair that a refiner made, and nothing
    is added. -/
theorem content_eq_iff_scored {L : Linewise m.format r} (htell : L.Telling)
    (ht : m.format.parse t = .ok td) (hd : m.format.parse d = .ok dd) :
    (Outcome.ofPieces (m.wholePieces td dd)).content = d ↔
      ∀ e ∈ (Outcome.ofPieces (m.wholePieces td dd)).decisions,
        e.kind ≠ .added ∧ (e.score.isSome = true → e.kind ≠ .keptTemplate) := by
  refine (content_eq_iff_log L ht hd).trans (forall₂_congr fun e he => ?_)
  constructor
  · rintro ⟨htemplate, hadded⟩
    exact ⟨hadded, fun _ => htemplate⟩
  · rintro ⟨hadded, hscored⟩
    exact ⟨fun hkind => hscored (scored_of_keptTemplate htell ht hd he hkind) hkind, hadded⟩

/-! ### All of the template in the text -/

namespace Written

variable {L : Linewise m.format r}

/-- A statement that is held, or was added, has the signature of what holds or added it. -/
theorem signature_again (h : Written L td dd slots used content) (ht : m.format.parse t = .ok td)
    (hd : m.format.parse d = .ok dd) (hd' : m.format.parse content = .ok d')
    (hadd : m.options.addTemplateOnly = true)
    (hwon : ∀ z ∈ (statements dd.nodes).zip slots, ∀ y score, z.2 = .paired y score →
      (m.writtenFace z.1 z.2).signature = m.format.signature y.node) {i : Nat}
    {x' y : Statement N} {score : Option Float} (hx' : (statements d'.nodes)[i]? = some x')
    (hslot : (slots ++ (freeStatements (.make m.format td) used).map (Slot.paired · none))[i]? =
      some (.paired y score)) :
    (Prepared.make m.format d').isFrozen x' = false ∧ m.format.carriesThrough x'.node = false ∧
      m.format.signature x'.node = m.format.signature y.node := by
  have hlength := h.kept.fits.length_eq
  rw [length_statements] at hlength
  rcases Nat.lt_or_ge i slots.length with hlt | hge
  · rw [List.getElem?_append_left hlt] at hslot
    have hlt' : i < (statements dd.nodes).length := by
      rw [length_statements]
      omega
    have hx := List.getElem?_eq_getElem hlt'
    obtain ⟨hfrozen, hcarried, -⟩ := paired_of_kept h.kept hx hslot
    obtain ⟨hfrozen', hlook⟩ := h.echo ht hd hd' hx hslot hx'
    obtain ⟨hcarried', hface⟩ := hlook hfrozen
    refine ⟨Pairing.isFrozen_eq_false.2 (mt hfrozen'.1 hfrozen), hcarried'.trans hcarried, ?_⟩
    have hsignature : m.format.signature x'.node = _ := congrArg Face.signature hface
    exact hsignature.trans (hwon _ (Pairing.mem_zip_of_getElem? hx hslot) y score rfl)
  · rw [List.getElem?_append_right hge, List.getElem?_map] at hslot
    obtain ⟨f, hf, hpaired⟩ := Option.map_eq_some_iff.1 hslot
    obtain ⟨rfl, -⟩ := Slot.paired.inj hpaired
    have hy : (statements d'.nodes)[dd.nodes.length + (i - slots.length)]? = some x' := by
      rw [hlength, Nat.add_sub_of_le hge]
      exact hx'
    obtain ⟨hfrozen, hcarried, hface, -⟩ := h.echo_added ht hd hd' hadd hf hy
    exact ⟨Pairing.isFrozen_eq_false.2 hfrozen, hcarried, congrArg Face.signature hface⟩

/-- When what is written for a statement has the signature of its partner, and the rest is added,
    the slots of before and those of what was added hold all of the template. -/
theorem covers (h : Written L td dd slots used content) (ht : m.format.parse t = .ok td)
    (hd : m.format.parse d = .ok dd) (hd' : m.format.parse content = .ok d')
    (hadd : m.options.addTemplateOnly = true)
    (hwon : ∀ z ∈ (statements dd.nodes).zip slots, ∀ y score, z.2 = .paired y score →
      (m.writtenFace z.1 z.2).signature = m.format.signature y.node) :
    Pairing.Covers m.format td (.make m.format d') (statements d'.nodes)
      (slots ++ (freeStatements (.make m.format td) used).map (Slot.paired · none)) := by
  refine ⟨fun y score hy => ?_, fun j hj => ?_,
    Pairing.forall₂_of_getElem? ?_ fun i x' slot hx' hslot y score heq => ?_⟩
  · rcases List.mem_append.1 hy with hy | hy
    · exact h.kept.held y score hy
    · obtain ⟨f, hf, heq⟩ := List.mem_map.1 hy
      obtain ⟨rfl, -⟩ := Slot.paired.inj heq
      exact getElem?_of_mem_statements (List.mem_filter.1 hf).1
  · by_cases hheld : j ∈ Pairing.partners slots
    · obtain ⟨y, score, hy, rfl⟩ := Pairing.mem_partners.1 hheld
      exact Pairing.mem_partners.2 ⟨y, score, List.mem_append_left _ hy, rfl⟩
    · have hfree := (h.kept.free j).2 ⟨hj, hheld⟩
      obtain ⟨y, hy, -⟩ := hj
      obtain ⟨f, hf, rfl⟩ := List.mem_map.1
        ((mem_freeStatements (numberedFrom_statements td.nodes) ⟨y, hy⟩).2 hfree)
      exact Pairing.mem_partners.2
        ⟨f, none, List.mem_append_right _ (List.mem_map_of_mem hf), rfl⟩
  · simp [h.length_nodes ht hd hd', hadd, ← h.kept.fits.length_eq]
  · subst heq
    rw [signatureOf_make d' (List.mem_of_getElem? hx')]
    exact h.signature_again ht hd hd' hadd hwon hx' hslot

end Written

/-- When the template won every pair that a refiner made, what is written for a statement has the
    signature of its partner. -/
theorem signature_written {L : Linewise m.format r} (htell : L.Telling)
    (ht : m.format.parse t = .ok td) (hd : m.format.parse d = .ok dd)
    (hwon : ∀ e ∈ (Outcome.ofPieces (m.wholePieces td dd)).decisions,
      e.score.isSome = true → e.kind = .keptTemplate) :
    ∀ z ∈ (statements dd.nodes).zip (m.paired td dd).1, ∀ y score, z.2 = .paired y score →
      (m.writtenFace z.1 z.2).signature = m.format.signature y.node := by
  rintro ⟨x, slot⟩ hz y score rfl
  rw [writtenFace]
  cases htaken : m.taken? x (.paired y score) with
  | some y' =>
    obtain ⟨score', hpaired, -⟩ := taken?_eq_some htaken
    obtain ⟨rfl, -⟩ := Slot.paired.inj hpaired
    rfl
  | none =>
    cases score with
    | none =>
      obtain ⟨i, hi⟩ := List.mem_iff_getElem?.1 hz
      obtain ⟨hx, hslot⟩ := List.getElem?_zip_eq_some.1 hi
      exact congrArg Face.signature (face_of_unscored htell ht hd hx hslot)
    | some score =>
      -- the entry of the pair says that the template won
      have hentry := hwon (m.entryOf x (.paired y (some score))) (by
        rw [decisions_whole]
        exact List.mem_append_left _ (List.mem_map_of_mem hz)) rfl
      obtain ⟨y', hy'⟩ := kind_eq_keptTemplate.1 hentry
      rw [htaken] at hy'
      cases hy'

/-- When the template won every pair that a refiner made, and the rest of it was added, a second
    merge changes nothing. -/
theorem content_again_of_won {L : Linewise m.format r} (htell : L.Telling)
    (ht : m.format.parse t = .ok td) (hd : m.format.parse d = .ok dd)
    (hd' : m.format.parse (Outcome.ofPieces (m.wholePieces td dd)).content = .ok d')
    (hadd : m.options.addTemplateOnly = true)
    (hwon : ∀ e ∈ (Outcome.ofPieces (m.wholePieces td dd)).decisions,
      e.score.isSome = true → e.kind = .keptTemplate) :
    (Outcome.ofPieces (m.wholePieces td d')).content =
      (Outcome.ofPieces (m.wholePieces td dd)).content := by
  have hcovers := (written_merge L ht hd).covers ht hd hd' hadd (signature_written htell ht hd hwon)
  have hfree := hcovers.not_free fun j hj => by
    obtain ⟨n, hn, hfrozen⟩ := pairable_make.1 hj
    obtain ⟨line, -, -, -, hsigned, -⟩ := L.of_unfrozen ht (List.mem_of_getElem? hn) hfrozen
    obtain ⟨s, hs⟩ := Option.isSome_iff_exists.1 hsigned
    exact ⟨s, by rw [bySlot_make, hn, Option.map_some, hs]⟩
  have hpair : m.paired td d' = Pairing.exact m.format (.make m.format td) (.make m.format d')
      (Pairing.usedAtFirst (.make m.format td)) (statements d'.nodes) :=
    Pairing.pair_of_not_free hfree
  refine (content_eq_iff L ht hd').2 ⟨fun z hz => ?_, ?_⟩
  · obtain ⟨i, hi⟩ := List.mem_iff_getElem?.1 hz
    obtain ⟨hx, hslot⟩ := List.getElem?_zip_eq_some.1 hi
    cases hown : z.2 with
    | paired y score =>
      rw [hown] at hslot
      have hexact := hslot
      rw [hpair] at hexact
      obtain ⟨used', hused'⟩ := Pairing.slot_of_mem_exact (Pairing.mem_zip_of_getElem? hx hexact)
      obtain ⟨rfl, -⟩ := Pairing.slotOf_eq_paired hused'.symm
      exact taken?_of_same (face_of_unscored htell ht hd' hx hslot) none
    | _ => rfl
  · rw [hadd, addedLines_true, List.map_eq_nil_iff]
    refine List.filter_eq_nil_iff.2 fun x _ => ?_
    rw [hpair, beq_iff_eq]
    exact hfree x.index

end Merger

/-- Merging an outline a second time, whatever the refiner: nothing changes exactly when the
    template wins no pair that the refiner makes then, and nothing is added.  It is so whenever the
    template won every pair that the refiner made the first time, and what was left was added. -/
theorem outline_merge_settles_iff (markers : MarkerRegistry) (options : MergeOptions) {t d : Text}
    {td dd : Document Outline.Node} (hs : options.strategy = .nodePair)
    (ht : (Outline.format markers).parse t = .ok td)
    (hd : (Outline.format markers).parse d = .ok dd) :
    ∃ first second, Merger.merge ⟨Outline.format markers, options⟩ t d = .ok first ∧
      Merger.merge ⟨Outline.format markers, options⟩ t first.content = .ok second ∧
      (second.content = first.content ↔ ∀ e ∈ second.decisions,
        e.kind ≠ .added ∧ (e.score.isSome = true → e.kind ≠ .keptTemplate)) ∧
      (options.addTemplateOnly = true →
        (∀ e ∈ first.decisions, e.score.isSome = true → e.kind = .keptTemplate) →
          second.content = first.content) := by
  let m : Merger Outline.Node := ⟨Outline.format markers, options⟩
  have hbatch : m.options.strategy ≠ .batch := by rw [hs]; decide
  have ht : m.format.parse t = .ok td := ht
  have hd : m.format.parse d = .ok dd := hd
  have htell : (Outline.linewise markers).Telling := Outline.telling markers
  obtain ⟨d', hd', -⟩ := (Merger.spliced_merge (Outline.linewise markers) ht hd).regions_survive hd
  refine ⟨_, _, Merger.merge_eq ht hd hbatch, Merger.merge_eq ht hd' hbatch, ?_, ?_⟩
  · exact Merger.content_eq_iff_scored htell ht hd'
  · exact Merger.content_again_of_won htell ht hd hd'

/-- The template wins the pair that the refiner makes, and its other line is added. -/
theorem outline_merge_settles_iff_template :
    let t := "# A\n## New\nabcdefghij\n".toList
    let d := "# A\nabcklmnopq\n".toList
    let refiner : Refiner := ⟨Refiner.standardThreshold, .standard, []⟩
    let options : MergeOptions := ⟨.everywhere .template, true, .none, some refiner, .nodePair⟩
    let m : Merger Outline.Node := ⟨Outline.format .builtin, options⟩
    (∃ td, m.format.parse t = .ok td) ∧ (∃ dd, m.format.parse d = .ok dd) ∧
      ∃ first second, m.merge t d = .ok first ∧ m.merge t first.content = .ok second ∧
        (∀ e ∈ first.decisions, e.score.isSome = true → e.kind = .keptTemplate) ∧
        (∀ e ∈ second.decisions,
          e.kind ≠ .added ∧ (e.score.isSome = true → e.kind ≠ .keptTemplate)) ∧
        second.content = first.content := by
  intro t d refiner options m
  have hscan : MarkerRegistry.builtin.scan (Text.splitLines t) = .ok [] := rfl
  have hscan' : MarkerRegistry.builtin.scan (Text.splitLines d) = .ok [] := rfl
  obtain ⟨td, ht⟩ : ∃ td, m.format.parse t = .ok td := Outline.parse_of_scan hscan
  obtain ⟨dd, hd⟩ : ∃ dd, m.format.parse d = .ok dd := Outline.parse_of_scan hscan'
  obtain ⟨first, second, hfirst, hsecond, hiff, hsettles⟩ :=
    outline_merge_settles_iff .builtin options rfl ht hd
  have hall : ((m.merge t d).toOption.map fun o =>
      o.decisions.all fun e => !e.score.isSome || e.kind = .keptTemplate) = some true := by
    decide +kernel
  have hmerge : m.merge t d = .ok first := hfirst
  rw [hmerge] at hall
  have hwon : ∀ e ∈ first.decisions, e.score.isSome = true → e.kind = .keptTemplate := by
    intro e he hscore
    have hentry := List.all_eq_true.1 (Option.some.inj hall) e he
    simpa [hscore] using hentry
  have hsame := hsettles rfl hwon
  exact ⟨⟨td, ht⟩, ⟨dd, hd⟩, first, second, hfirst, hsecond, hwon, hiff.1 hsame, hsame⟩

theorem exists_of_content {e : Except MergeError Outcome} {content : Text}
    (h : e.toOption.map (·.content) = some content) : ∃ o, e = .ok o ∧ o.content = content := by
  cases e with
  | error error => cases h
  | ok o => exact ⟨o, rfl, Option.some.inj h⟩

/-- A pair that the destination won is lost when the text gets longer: the score falls below the
    threshold, and the template's line is added after all. -/
theorem outline_merge_unsettled :
    let t := "# A\n## New\nabcdefghij\n".toList
    let d := "# A\nabcklmnopq\n".toList
    ∃ refiner, Refiner.make Refiner.standardThreshold .standard [] = .ok refiner ∧
      let m : Merger Outline.Node := ⟨Outline.format .builtin,
        { MergeOptions.standard with addTemplateOnly := true, refiner := some refiner }⟩
      ∃ first second, m.merge t d = .ok first ∧ m.merge t first.content = .ok second ∧
        first.content = "# A\nabcklmnopq\n## New\n".toList ∧
        second.content = "# A\nabcklmnopq\n## New\nabcdefghij\n".toList ∧
        second.content ≠ first.content := by
  intro t d
  refine ⟨_, rfl, ?_⟩
  intro m
  obtain ⟨first, hfirst, hcontent⟩ :
      ∃ o, m.merge t d = .ok o ∧ o.content = "# A\nabcklmnopq\n## New\n".toList :=
    exists_of_content (by decide +kernel)
  obtain ⟨second, hsecond, hagain⟩ :
      ∃ o, m.merge t first.content = .ok o ∧
        o.content = "# A\nabcklmnopq\n## New\nabcdefghij\n".toList := by
    rw [hcontent]
    exact exists_of_content (by decide +kernel)
  refine ⟨first, second, hfirst, hsecond, hcontent, hagain, ?_⟩
  rw [hcontent, hagain]
  decide

end TemplateMerge
