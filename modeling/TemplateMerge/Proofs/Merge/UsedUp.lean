import Mathlib.Data.List.Perm.Subperm
import TemplateMerge.Proofs.Merge.Rematch

/-! When the walk uses a template up.

    A statement of the template that is free in the end was free all along, so every statement of
    the destination with its signature has found a partner.  Hence, if there is one way to fill the
    slots by signatures so that every statement of the template is held, there are as many
    statements of a signature in the destination as in the template, and the walk holds them all.

        template          a   b   a            one way          0   1   2
        destination       a   b   a            the walk         0   1   2

        template          a   a   b            one way          1   0   2
        destination       a   a   b            the walk         0   1   2 -/

namespace TemplateMerge

variable {N : Type}

/-- Whether a slot holds a statement of the template that has a signature. -/
def Slot.holds [NodeView N] (format : Format N) (s : Signature) : Slot N → Bool
  | .paired t _ => format.signature t.node == some s
  | _ => false

namespace Pairing

variable [NodeView N] {format : Format N} {template destination : Prepared N}

/-! ### Slots that hold a signature -/

theorem holds_eq_true {s : Signature} {slot : Slot N} :
    slot.holds format s = true ↔
      ∃ t score, slot = .paired t score ∧ format.signature t.node = some s := by
  cases slot with
  | paired t score =>
    rw [Slot.holds, beq_iff_eq]
    constructor
    · intro h
      exact ⟨t, score, rfl, h⟩
    · rintro ⟨t', score', heq, h⟩
      cases heq
      exact h
  | _ =>
    refine iff_of_false (by simp [Slot.holds]) ?_
    rintro ⟨t, score, heq, -⟩
    cases heq

theorem mem_partners_holds {s : Signature} {slots : List (Slot N)} {j : Nat} :
    j ∈ partners (slots.filter (·.holds format s)) ↔
      ∃ t score, .paired t score ∈ slots ∧ t.index = j ∧ format.signature t.node = some s := by
  rw [mem_partners]
  constructor
  · rintro ⟨t, score, hmem, hj⟩
    obtain ⟨hslot, hholds⟩ := List.mem_filter.1 hmem
    obtain ⟨t', score', heq, hs⟩ := holds_eq_true.1 hholds
    cases heq
    exact ⟨t, score, hslot, hj, hs⟩
  · rintro ⟨t, score, hslot, hj, hs⟩
    exact ⟨t, score, List.mem_filter.2 ⟨hslot, holds_eq_true.2 ⟨t, score, rfl, hs⟩⟩, hj⟩

theorem length_partners_holds (s : Signature) (slots : List (Slot N)) :
    (partners (slots.filter (·.holds format s))).length = slots.countP (·.holds format s) := by
  induction slots with
  | nil => rfl
  | cons slot slots ih =>
    rw [List.filter_cons, List.countP_cons, ← ih]
    cases hholds : slot.holds format s with
    | false => rfl
    | true =>
      obtain ⟨t, score, rfl, -⟩ := holds_eq_true.1 hholds
      rfl

theorem nodup_partners_holds {s : Signature} {slots : List (Slot N)} (h : (partners slots).Nodup) :
    (partners (slots.filter (·.holds format s))).Nodup :=
  h.sublist (List.filter_sublist.filterMap _)

theorem countP_le_of_forall₂ {α β : Type} {p : α → Bool} {q : β → Bool} {as : List α}
    {bs : List β} (h : List.Forall₂ (fun a b => p a = true → q b = true) as bs) :
    as.countP p ≤ bs.countP q := by
  induction h with
  | nil => exact Nat.le_refl 0
  | @cons a b as bs hab _ ih =>
    rw [List.countP_cons, List.countP_cons]
    cases hp : p a with
    | false => exact Nat.le_trans ih (Nat.le_add_right _ _)
    | true => rw [hab hp]; exact Nat.add_le_add_right ih 1

theorem countP_eq_of_forall₂ {α β : Type} {p : α → Bool} {q : β → Bool} {as : List α}
    {bs : List β} (h : List.Forall₂ (fun a b => p a = q b) as bs) :
    as.countP p = bs.countP q := by
  refine Nat.le_antisymm (countP_le_of_forall₂ (h.imp fun a b hab ha => hab ▸ ha))
    (countP_le_of_forall₂ (h.flip.imp fun b a hab hb => ?_))
  exact hab.trans hb

/-! ### What is free in the end -/

theorem holds_slotOf {td : Document N} {used : List Bool} {x : Statement N} {s : Signature}
    {j : Nat} (hfits : destination.isFrozen x = false ∧ format.carriesThrough x.node = false)
    (hs : destination.signatures.signatureOf x.index = some s)
    (hj : (Prepared.make format td).signatures.bySlot[j]? = some (some s))
    (hfree : used[j]? = some false) :
    (slotOf format (.make format td) destination used x).holds format s = true := by
  obtain ⟨index, hindex⟩ :
      ∃ index, (Prepared.make format td).signatures.firstUnused s used = some index := by
    refine Option.isSome_iff_exists.1 (List.find?_isSome.2 ⟨j, ?_, ?_⟩)
    · exact Signature.Index.mem_indices.2 hj
    · rw [hfree]
      rfl
  have hown := Signature.Index.mem_indices.1 (List.mem_of_find?_eq_some hindex)
  rw [bySlot_make] at hown
  obtain ⟨n, hn, hsignature⟩ := Option.map_eq_some_iff.1 hown
  have hlist : (Prepared.make format td).list[index]? = some ⟨index, n⟩ := by
    rw [Merger.getElem?_list_make, hn]
    rfl
  unfold slotOf
  rw [hfits.1, hfits.2, hs]
  dsimp only [Option.bind_some]
  rw [hindex, Option.bind_some, hlist]
  exact holds_eq_true.2 ⟨_, _, rfl, hsignature⟩

/-- What is free in the end was free in between. -/
theorem free_of_exact (hn : NumberedFrom 0 template.list) {used : List Bool}
    {region : List (Statement N)} {j : Nat}
    (h : (exact format template destination used region).2[j]? = some false) :
    used[j]? = some false :=
  (((claims_exact hn region used).staysFree j).1 h).1

/-- When a statement of the template is free in the end, all that have its signature are paired. -/
theorem holds_exact {td : Document N} {s : Signature} {j : Nat}
    (hj : (Prepared.make format td).signatures.bySlot[j]? = some (some s))
    {region : List (Statement N)} :
    ∀ {used : List Bool},
      (exact format (.make format td) destination used region).2[j]? = some false →
      List.Forall₂ (fun x slot => destination.isFrozen x = false →
        format.carriesThrough x.node = false →
        destination.signatures.signatureOf x.index = some s → slot.holds format s = true) region
        (exact format (.make format td) destination used region).1 := by
  induction region with
  | nil => intro used _; exact .nil
  | cons x region ih =>
    intro used hfree
    rw [exact_cons] at hfree ⊢
    refine .cons (fun hfrozen hcarried hs => ?_) (ih hfree)
    have hused := free_of_exact (numberedFrom_statements td.nodes) hfree
    exact holds_slotOf ⟨hfrozen, hcarried⟩ hs hj (getElem?_markUsed.1 hused).1

/-! ### Nothing is free in the end -/

/-- A way to fill the slots of a region by signatures so that all of the template is held. -/
structure Covers (format : Format N) (td : Document N) (destination : Prepared N)
    (region : List (Statement N)) (slots : List (Slot N)) : Prop where
  /-- What is held is of the template. -/
  held : ∀ t score, .paired t score ∈ slots → (Prepared.make format td).list[t.index]? = some t
  /-- All that may be paired is held. -/
  all : ∀ j, Pairable (.make format td) j → j ∈ partners slots
  /-- A slot that holds a statement belongs to one with the same signature. -/
  same : List.Forall₂ (fun x slot => ∀ t score, slot = .paired t score →
    destination.isFrozen x = false ∧ format.carriesThrough x.node = false ∧
      destination.signatures.signatureOf x.index = format.signature t.node) region slots

theorem signature_of_getElem? {td : Document N} {t : Statement N} {j : Nat} {s : Signature}
    (ht : (Prepared.make format td).list[j]? = some t) :
    (Prepared.make format td).signatures.bySlot[j]? = some (some s) ↔
      format.signature t.node = some s := by
  rw [Merger.getElem?_list_make] at ht
  obtain ⟨n, hn, rfl⟩ := Option.map_eq_some_iff.1 ht
  rw [bySlot_make, hn]
  simp

/-- Slots that hold a signature hold it in the walk as well, while one with it is free. -/
theorem countP_exact {td : Document N} {s : Signature} {j : Nat} {region : List (Statement N)}
    {slots : List (Slot N)} {used : List Bool}
    (hj : (Prepared.make format td).signatures.bySlot[j]? = some (some s))
    (hfree : (exact format (.make format td) destination used region).2[j]? = some false)
    (h : Covers format td destination region slots) :
    slots.countP (·.holds format s) ≤
      (exact format (.make format td) destination used region).1.countP (·.holds format s) := by
  have hwalk := holds_exact hj hfree
  refine countP_le_of_forall₂ (forall₂_of_getElem? ?_ fun i slot slot' hslot hslot' hholds => ?_)
  · rw [← h.same.length_eq, hwalk.length_eq]
  · obtain ⟨t, score, rfl, hs⟩ := holds_eq_true.1 hholds
    obtain ⟨hlt, -⟩ := List.getElem?_eq_some_iff.1 hslot
    rw [← h.same.length_eq] at hlt
    have hx := List.getElem?_eq_getElem hlt
    obtain ⟨own, hown, hsame⟩ := exists_getElem?_of_forall₂ h.same hx
    rw [hslot] at hown
    obtain ⟨hfrozen, hcarried, hsignature⟩ := hsame t score (Option.some.inj hown).symm
    obtain ⟨own', hown', hpaired⟩ := exists_getElem?_of_forall₂ hwalk hx
    rw [hslot'] at hown'
    rw [Option.some.inj hown']
    exact hpaired hfrozen hcarried (hsignature.trans hs)

/-- The walk uses a template up that can be held whole. -/
theorem Covers.not_free {td : Document N} {region : List (Statement N)} {slots : List (Slot N)}
    (h : Covers format td destination region slots)
    (hsigned : ∀ j, Pairable (.make format td) j →
      ∃ s, (Prepared.make format td).signatures.bySlot[j]? = some (some s)) (j : Nat) :
    (exact format (.make format td) destination (usedAtFirst (.make format td)) region).2[j]? ≠
      some false := by
  intro hfree
  let walk := exact format (.make format td) destination (usedAtFirst (.make format td)) region
  have hkept : Kept format (.make format td) destination region walk.1 walk.2 :=
    kept_exact (numberedFrom_statements td.nodes) region
  obtain ⟨hpairable, hnot⟩ := (hkept.free j).1 hfree
  obtain ⟨s, hs⟩ := hsigned j hpairable
  let held := partners (walk.1.filter (·.holds format s))
  let all := partners (slots.filter (·.holds format s))
  have hle : all.length ≤ held.length := by
    rw [length_partners_holds, length_partners_holds]
    exact countP_exact hs hfree h
  -- what the walk holds of the signature is held in the other way too, and so is what is free
  have hnodup : (j :: held).Nodup := by
    refine List.nodup_cons.2 ⟨fun hmem => ?_, nodup_partners_holds hkept.distinct⟩
    obtain ⟨t, score, hslot, hindex, -⟩ := mem_partners_holds.1 hmem
    exact hnot (mem_partners.2 ⟨t, score, hslot, hindex⟩)
  have hsub : j :: held ⊆ all := by
    have hin : ∀ k, Pairable (.make format td) k →
        (Prepared.make format td).signatures.bySlot[k]? = some (some s) → k ∈ all := by
      intro k hk hown
      obtain ⟨t, score, hslot, rfl⟩ := mem_partners.1 (h.all k hk)
      exact mem_partners_holds.2
        ⟨t, score, hslot, rfl, (signature_of_getElem? (h.held t score hslot)).1 hown⟩
    intro k hk
    rcases List.mem_cons.1 hk with rfl | hk
    · exact hin k hpairable hs
    · obtain ⟨t, score, hslot, rfl, hown⟩ := mem_partners_holds.1 hk
      exact hin t.index (hkept.pairable _ (mem_partners.2 ⟨t, score, hslot, rfl⟩))
        ((signature_of_getElem? (hkept.held t score hslot)).2 hown)
  have hlt := (List.subperm_of_subset hnodup hsub).length_le
  rw [List.length_cons] at hlt
  omega

end Pairing

end TemplateMerge
