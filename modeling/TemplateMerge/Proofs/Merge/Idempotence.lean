import TemplateMerge.Proofs.Merge.Fixed
import TemplateMerge.Proofs.Merge.Rematch

/-! Merging a second time.

    Without a refiner the second walk pairs the statements of before as the first walk did, since
    partners have the same signature and it does not matter which of them was written; and it pairs
    every statement that was added with itself.  So no side differs where the template could win,
    and nothing is left to be added.

        template        a   b   c                     a wins
        destination     a'  d            ──▶   a   d   b   c            ──▶   the same
        pairs           0   ·                  0   ·   1   2 -/

namespace TemplateMerge

variable {N : Type} [NodeView N]

namespace Merger

variable {m : Merger N} {r : MarkerRegistry} {t d content : Text} {td dd d' : Document N}
  {slots : List (Slot N)} {used : List Bool}

namespace Written

variable {L : Linewise m.format r}

/-! ### The second walk -/

/-- What was written has the signature of the statement, also when the template won. -/
theorem signature_echo (h : Written L td dd slots used content) (ht : m.format.parse t = .ok td)
    (hd : m.format.parse d = .ok dd) (hd' : m.format.parse content = .ok d')
    (hexact : slots = (Pairing.exact m.format (.make m.format td) (.make m.format dd)
      (Pairing.usedAtFirst (.make m.format td)) (statements dd.nodes)).1) {i : Nat}
    {x x' : Statement N} (hx : (statements dd.nodes)[i]? = some x)
    (hx' : (statements d'.nodes)[i]? = some x') (hfrozen : ¬ dd.Frozen x.node) :
    m.format.signature x'.node = m.format.signature x.node := by
  obtain ⟨slot, hslot, -⟩ := Pairing.exists_getElem?_of_forall₂ h.kept.fits hx
  obtain ⟨-, hface⟩ := (h.echo ht hd hd' hx hslot hx').2 hfrozen
  have hsig : m.format.signature x'.node = (m.writtenFace x slot).signature :=
    congrArg Face.signature hface
  rw [hsig, writtenFace]
  cases htaken : m.taken? x slot with
  | none => rfl
  | some y =>
    obtain ⟨score, rfl, -⟩ := taken?_eq_some htaken
    have hmem : (x, Slot.paired y score) ∈ (statements dd.nodes).zip slots :=
      Pairing.mem_zip_of_getElem? hx hslot
    rw [hexact] at hmem
    exact Pairing.signature_of_mem_exact (List.mem_of_getElem? hx) hmem

/-- The walk looks at a statement of the merged text as it looked at that of the destination. -/
theorem slotOf_echo (h : Written L td dd slots used content) (ht : m.format.parse t = .ok td)
    (hd : m.format.parse d = .ok dd) (hd' : m.format.parse content = .ok d')
    (hexact : slots = (Pairing.exact m.format (.make m.format td) (.make m.format dd)
      (Pairing.usedAtFirst (.make m.format td)) (statements dd.nodes)).1) {i : Nat}
    {x x' : Statement N} (hx : (statements dd.nodes)[i]? = some x)
    (hx' : (statements d'.nodes)[i]? = some x') (used : List Bool) :
    Pairing.slotOf m.format (.make m.format td) (.make m.format d') used x' =
      Pairing.slotOf m.format (.make m.format td) (.make m.format dd) used x := by
  obtain ⟨slot, hslot, -⟩ := Pairing.exists_getElem?_of_forall₂ h.kept.fits hx
  obtain ⟨hfrozen, hlook⟩ := h.echo ht hd hd' hx hslot hx'
  refine Pairing.slotOf_congr ?_ (fun hnot => ?_) used
  · rw [Bool.eq_iff_iff, Pairing.isFrozen_iff, Pairing.isFrozen_iff]
    exact hfrozen
  · have hunfrozen : ¬ dd.Frozen x.node := Pairing.isFrozen_eq_false.1 hnot
    refine ⟨(hlook hunfrozen).1, ?_⟩
    rw [signatureOf_make d' (List.mem_of_getElem? hx'),
      signatureOf_make dd (List.mem_of_getElem? hx)]
    exact h.signature_echo ht hd hd' hexact hx hx' hunfrozen

/-- The second walk pairs the statements of before as the first walk did. -/
theorem exact_take (h : Written L td dd slots used content) (ht : m.format.parse t = .ok td)
    (hd : m.format.parse d = .ok dd) (hd' : m.format.parse content = .ok d')
    (hexact : Pairing.exact m.format (.make m.format td) (.make m.format dd)
      (Pairing.usedAtFirst (.make m.format td)) (statements dd.nodes) = (slots, used)) :
    Pairing.exact m.format (.make m.format td) (.make m.format d')
      (Pairing.usedAtFirst (.make m.format td)) ((statements d'.nodes).take dd.nodes.length) =
        (slots, used) := by
  rw [← hexact]
  refine Pairing.exact_congr (Pairing.forall₂_of_getElem? ?_ fun i x x' hx hx' => ?_) _
  · have hlen := h.length_nodes ht hd hd'
    rw [List.length_take, length_statements, length_statements]
    omega
  · rw [List.getElem?_take] at hx'
    split at hx'
    · exact h.slotOf_echo ht hd hd' (congrArg Prod.fst hexact).symm hx hx'
    · cases hx'

/-- What was added has the signatures of what was free, one by one. -/
theorem signatures_added (h : Written L td dd slots used content) (ht : m.format.parse t = .ok td)
    (hd : m.format.parse d = .ok dd) (hd' : m.format.parse content = .ok d')
    (hadd : m.options.addTemplateOnly = true) :
    List.Forall₂ (fun f y => (Prepared.make m.format d').isFrozen y = false ∧
      m.format.carriesThrough y.node = false ∧ (m.format.signature f.node).isSome = true ∧
      (Prepared.make m.format d').signatures.signatureOf y.index = m.format.signature f.node)
      (freeStatements (.make m.format td) used) ((statements d'.nodes).drop dd.nodes.length) := by
  refine Pairing.forall₂_of_getElem? ?_ fun j f y hf hy => ?_
  · have hlen := h.length_nodes ht hd hd'
    simp [hlen, hadd]
  · rw [List.getElem?_drop] at hy
    obtain ⟨hfrozen, hcarried, hface, hsome⟩ := h.echo_added ht hd hd' hadd hf hy
    refine ⟨Pairing.isFrozen_eq_false.2 hfrozen, hcarried, hsome, ?_⟩
    rw [signatureOf_make d' (List.mem_of_getElem? hy)]
    exact congrArg Face.signature hface

/-- The second walk pairs as the first did, and pairs what was added with itself. -/
theorem rematch (h : Written L td dd slots used content) (ht : m.format.parse t = .ok td)
    (hd : m.format.parse d = .ok dd) (hd' : m.format.parse content = .ok d')
    (hexact : Pairing.exact m.format (.make m.format td) (.make m.format dd)
      (Pairing.usedAtFirst (.make m.format td)) (statements dd.nodes) = (slots, used)) :
    ∃ used', Pairing.exact m.format (.make m.format td) (.make m.format d')
        (Pairing.usedAtFirst (.make m.format td)) (statements d'.nodes) =
          (slots ++ if m.options.addTemplateOnly then
            (freeStatements (.make m.format td) used).map (Slot.paired · none) else [], used') ∧
      (m.options.addTemplateOnly = true → freeStatements (.make m.format td) used' = []) := by
  have hwalk := h.exact_take ht hd hd' hexact
  cases hadd : m.options.addTemplateOnly with
  | false =>
    have hlen := h.length_nodes ht hd hd'
    rw [hadd] at hlen
    have hall : (statements d'.nodes).take dd.nodes.length = statements d'.nodes :=
      List.take_of_length_le (by rw [length_statements, hlen]; exact Nat.le_refl _)
    rw [hall] at hwalk
    rw [hwalk, if_neg (by decide), List.append_nil]
    exact ⟨used, rfl, fun h => absurd h (by decide)⟩
  | true =>
    obtain ⟨hslots, hnone⟩ := Pairing.exact_free rfl (h.signatures_added ht hd hd' hadd)
    rw [← List.take_append_drop dd.nodes.length (statements d'.nodes), Pairing.exact_append, hwalk,
      hslots, if_pos rfl]
    exact ⟨_, rfl, fun _ => hnone⟩

theorem taken?_echo (h : Written L td dd slots used content) (ht : m.format.parse t = .ok td)
    (hd : m.format.parse d = .ok dd) (hd' : m.format.parse content = .ok d') {i : Nat}
    {x x' : Statement N} {slot : Slot N} (hx : (statements dd.nodes)[i]? = some x)
    (hslot : slots[i]? = some slot) (hx' : (statements d'.nodes)[i]? = some x') :
    m.taken? x' slot = none := by
  cases slot with
  | paired y score =>
    obtain ⟨hnot, -⟩ := paired_of_kept h.kept hx hslot
    have hface := ((h.echo ht hd hd' hx hslot hx').2 hnot).2
    rw [writtenFace] at hface
    cases htaken : m.taken? x (.paired y score) with
    | none =>
      -- the destination won, and wins again
      rw [htaken] at hface
      rw [taken?_congr hface, htaken]
    | some y' =>
      -- the template won, and both sides are the same now
      rw [htaken] at hface
      obtain ⟨score', hpaired, -⟩ := taken?_eq_some htaken
      obtain ⟨rfl, -⟩ := Slot.paired.inj hpaired
      exact taken?_of_same hface score
  | _ => rfl

/-- Nothing is taken from the template a second time. -/
theorem nothing_taken (h : Written L td dd slots used content) (ht : m.format.parse t = .ok td)
    (hd : m.format.parse d = .ok dd) (hd' : m.format.parse content = .ok d') :
    ∀ z ∈ (statements d'.nodes).zip (slots ++ if m.options.addTemplateOnly then
      (freeStatements (.make m.format td) used).map (Slot.paired · none) else []),
        m.taken? z.1 z.2 = none := by
  intro z hz
  obtain ⟨i, hi⟩ := List.mem_iff_getElem?.1 hz
  obtain ⟨hx', hslot⟩ := List.getElem?_zip_eq_some.1 hi
  have hlen : slots.length = dd.nodes.length := by
    rw [← h.kept.fits.length_eq, length_statements]
  rcases Nat.lt_or_ge i slots.length with hlt | hge
  · rw [List.getElem?_append_left hlt] at hslot
    have hlt' : i < (statements dd.nodes).length := by
      rw [length_statements]
      omega
    exact h.taken?_echo ht hd hd' (List.getElem?_eq_getElem hlt') hslot hx'
  · rw [List.getElem?_append_right hge] at hslot
    split at hslot
    · next hadd =>
      rw [List.getElem?_map] at hslot
      obtain ⟨f, hf, hpaired⟩ := Option.map_eq_some_iff.1 hslot
      have hy : (statements d'.nodes)[dd.nodes.length + (i - slots.length)]? = some z.1 := by
        rw [← hlen, Nat.add_sub_of_le hge]
        exact hx'
      obtain ⟨-, -, hface, -⟩ := h.echo_added ht hd hd' hadd hf hy
      rw [← hpaired]
      exact taken?_of_same hface none
    · cases hslot

end Written

/-! ### Fixed at once -/

/-- Without a refiner, a second merge of what was merged changes nothing. -/
theorem merge_again (L : Linewise m.format r) (ht : m.format.parse t = .ok td)
    (hd : m.format.parse d = .ok dd) (hrefiner : m.options.refiner = none)
    (hs : m.options.strategy ≠ .batch) {first : Outcome} (hfirst : m.merge t d = .ok first) :
    ∃ second, m.merge t first.content = .ok second ∧ second.content = first.content ∧
      second.changed = false := by
  rw [merge_eq ht hd hs] at hfirst
  obtain rfl := Except.ok.inj hfirst
  dsimp only
  obtain ⟨d', hd', -⟩ := (spliced_merge L ht hd).regions_survive hd
  have hwritten := written_merge L ht hd
  have hpair : ∀ doc : Document N, m.paired td doc = Pairing.exact m.format (.make m.format td)
      (.make m.format doc) (Pairing.usedAtFirst (.make m.format td)) (statements doc.nodes) := by
    intro doc
    rw [paired, hrefiner]
    rfl
  rw [hpair dd] at hwritten
  obtain ⟨used', hexact, hfree⟩ := hwritten.rematch ht hd hd' rfl
  have hsame : (Outcome.ofPieces (m.wholePieces td d')).content =
      (Outcome.ofPieces (m.wholePieces td dd)).content := by
    refine (content_eq_iff L ht hd').2 ?_
    rw [hpair d', hexact]
    refine ⟨hwritten.nothing_taken ht hd hd', ?_⟩
    cases hadd : m.options.addTemplateOnly with
    | false => rw [addedLines_false]
    | true => simp [hfree hadd]
  refine ⟨_, merge_eq ht hd' hs, hsame, ?_⟩
  simp [hsame]

end Merger

/-- Whatever is merged into whatever without a refiner, a second merge changes nothing. -/
def Format.SettlesAtOnce (format : Format N) : Prop :=
  ∀ (options : MergeOptions) (t d : Text) (td dd : Document N), options.refiner = none →
    options.strategy ≠ .batch → format.parse t = .ok td → format.parse d = .ok dd →
      ∃ first second, Merger.merge ⟨format, options⟩ t d = .ok first ∧
        Merger.merge ⟨format, options⟩ t first.content = .ok second ∧
          second.content = first.content ∧ second.changed = false

/-- Formats that read line by line settle at once. -/
theorem Linewise.settlesAtOnce {format : Format N} {r : MarkerRegistry}
    (L : Linewise format r) : format.SettlesAtOnce := by
  intro options t d td dd hrefiner hs ht hd
  have hfirst := Merger.merge_eq (m := ⟨format, options⟩) ht hd hs
  obtain ⟨second, hsecond, hsame, hchanged⟩ :=
    Merger.merge_again (m := ⟨format, options⟩) L ht hd hrefiner hs hfirst
  exact ⟨_, second, hfirst, hsecond, hsame, hchanged⟩

/-- Merging outlines or key/value files a second time changes nothing, unless a refiner pairs. -/
theorem merge_settles (markers : MarkerRegistry) (options : KeyValue.Options) :
    (Outline.format markers).SettlesAtOnce ∧ (KeyValue.format options markers).SettlesAtOnce :=
  ⟨(Outline.linewise markers).settlesAtOnce, (KeyValue.linewise options markers).settlesAtOnce⟩

/-- Statements that stand twice, on both sides, and one that is added. -/
theorem merge_settles_twice :
    let format := KeyValue.format ⟨none, none⟩ .builtin
    let options := { MergeOptions.standard with addTemplateOnly := true }
    let t := "a=1\na=2\na=3\nb=4".toList
    let d := "a=5\nc=6\na=7".toList
    ∃ td dd, format.parse t = .ok td ∧ format.parse d = .ok dd ∧
      ∃ first second, Merger.merge ⟨format, options⟩ t d = .ok first ∧
        Merger.merge ⟨format, options⟩ t first.content = .ok second ∧
          second.content = first.content ∧ second.changed = false := by
  refine ⟨_, _, rfl, rfl, ?_⟩
  exact (merge_settles .builtin ⟨none, none⟩).2 _ _ _ _ _ rfl (by decide) rfl rfl

end TemplateMerge
