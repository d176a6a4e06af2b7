import Mathlib.Data.List.Forall2
import Mathlib.Data.List.Nodup
import TemplateMerge.Merge.Pairing
import TemplateMerge.Proofs.Merge.Greedy

/-! The books of a pairing.

    A statement of the template is free until a slot holds it, and frozen ones never are.  So the
    flags always say what the slots say (`Kept`): the walk over the region keeps the books with
    every statement it pairs, and so does the refiner with every pair that is entered.

        template       0   1   2   3   4          3 is frozen
        slots          ·  paired 0  ·  paired 2
        free               1           4 -/

namespace TemplateMerge

variable {N : Type}

/-- The statements are numbered one after the other, beginning with the given number. -/
def NumberedFrom (start : Nat) (list : List (Statement N)) : Prop :=
  ∀ i s, list[i]? = some s → s.index = start + i

theorem NumberedFrom.cons {start : Nat} {s : Statement N} {list : List (Statement N)}
    (h : NumberedFrom start (s :: list)) : s.index = start ∧ NumberedFrom (start + 1) list := by
  refine ⟨h 0 s rfl, fun i t hi => ?_⟩
  have := h (i + 1) t hi
  omega

theorem numberedFrom_statements (nodes : List N) : NumberedFrom 0 (statements nodes) := by
  intro i s h
  rw [statements, List.getElem?_map, List.getElem?_zipIdx] at h
  obtain ⟨⟨node, index⟩, hnode, rfl⟩ := Option.map_eq_some_iff.1 h
  obtain ⟨_, -, hpair⟩ := Option.map_eq_some_iff.1 hnode
  exact (congrArg Prod.snd hpair).symm

@[simp] theorem length_statements (nodes : List N) : (statements nodes).length = nodes.length := by
  rw [statements, List.length_map, List.length_zipIdx]

@[simp] theorem map_node_statements (nodes : List N) : (statements nodes).map (·.node) = nodes := by
  rw [statements, List.map_map]
  exact List.zipIdx_map_fst 0 nodes

theorem getElem?_statements (nodes : List N) (i : Nat) :
    (statements nodes)[i]? = nodes[i]?.map (⟨i, ·⟩) := by
  rw [statements, List.getElem?_map, List.getElem?_zipIdx, Option.map_map, Nat.zero_add]
  rfl

theorem getElem?_of_mem_statements {nodes : List N} {x : Statement N}
    (h : x ∈ statements nodes) : (statements nodes)[x.index]? = some x := by
  obtain ⟨i, hi⟩ := List.mem_iff_getElem?.1 h
  rwa [numberedFrom_statements nodes i x hi, Nat.zero_add]

theorem exists_statement {nodes : List N} {i : Nat} (h : i < nodes.length) :
    ∃ s ∈ statements nodes, s.index = i := by
  have hs := List.getElem?_eq_getElem (l := statements nodes) (i := i) (by simpa using h)
  exact ⟨_, List.mem_of_getElem? hs, by rw [numberedFrom_statements nodes i _ hs, Nat.zero_add]⟩

theorem eq_of_index_eq {nodes : List N} {x y : Statement N} (hx : x ∈ statements nodes)
    (hy : y ∈ statements nodes) (h : x.index = y.index) : x = y := by
  have hget := getElem?_of_mem_statements hx
  rw [h, getElem?_of_mem_statements hy] at hget
  exact (Option.some.inj hget).symm

theorem getElem?_nodes {nodes : List N} {x : Statement N} (h : x ∈ statements nodes) :
    nodes[x.index]? = some x.node := by
  have hget := getElem?_of_mem_statements h
  rw [getElem?_statements] at hget
  obtain ⟨n, hn, hown⟩ := Option.map_eq_some_iff.1 hget
  rw [hn, ← congrArg Statement.node hown]

theorem NumberedFrom.getElem?_of_mem {start : Nat} {list : List (Statement N)}
    (h : NumberedFrom start list) {s : Statement N} (hs : s ∈ list) :
    start ≤ s.index ∧ list[s.index - start]? = some s := by
  obtain ⟨i, hi⟩ := List.mem_iff_getElem?.1 hs
  rw [h i s hi, Nat.add_sub_cancel_left]
  exact ⟨Nat.le_add_right start i, hi⟩

theorem map_position_statements [NodeView N] (nodes : List N) :
    (statements nodes).map (·.position) = nodes.map NodeView.position := by
  conv_rhs => rw [← map_node_statements nodes, List.map_map]
  rfl

/-- Whether a node has a line in a frozen region of its document. -/
def Document.Frozen [NodeView N] (d : Document N) (n : N) : Prop :=
  ∃ span ∈ d.spans, span.intersects (NodeView.position n) = true

instance [NodeView N] (d : Document N) (n : N) : Decidable (d.Frozen n) :=
  inferInstanceAs (Decidable (∃ span ∈ d.spans, span.intersects (NodeView.position n) = true))

/-- The statement of the template that a slot holds, by its number. -/
def Slot.partner? : Slot N → Option Nat
  | .paired t _ => some t.index
  | _ => none

namespace Pairing

/-- The statements of the template that slots hold, by their numbers. -/
def partners (slots : List (Slot N)) : List Nat := slots.filterMap Slot.partner?

/-! ### What slots hold -/

theorem mem_partners {slots : List (Slot N)} {j : Nat} :
    j ∈ partners slots ↔ ∃ t score, .paired t score ∈ slots ∧ t.index = j := by
  rw [partners, List.mem_filterMap]
  constructor
  · rintro ⟨slot, hslot, hj⟩
    cases slot with
    | paired t score => exact ⟨t, score, hslot, Option.some.inj hj⟩
    | _ => cases hj
  · rintro ⟨t, score, hslot, rfl⟩
    exact ⟨_, hslot, rfl⟩

theorem getElem?_set_true {used : List Bool} {i j : Nat} :
    (used.set i true)[j]? = some false ↔ used[j]? = some false ∧ j ≠ i := by
  rw [List.getElem?_set]
  split
  · next h =>
    subst h
    split <;> simp
  · next h => simp [Ne.symm h]

theorem getElem?_markUsed {used : List Bool} {slot : Slot N} {j : Nat} :
    (markUsed used slot)[j]? = some false ↔ used[j]? = some false ∧ slot.partner? ≠ some j := by
  cases slot with
  | paired t score =>
    rw [markUsed, getElem?_set_true]
    simp [Slot.partner?, eq_comm]
  | _ => simp [markUsed, Slot.partner?]

variable {template : Prepared N}

/-- Slots hold what was free, once each, and leave the rest free. -/
structure Claims (template : Prepared N) (used : List Bool) (slots : List (Slot N))
    (later : List Bool) : Prop where
  /-- What is held is of the template. -/
  held : ∀ t score, .paired t score ∈ slots → template.list[t.index]? = some t
  /-- What is held was free. -/
  wasFree : ∀ j ∈ partners slots, used[j]? = some false
  /-- Nothing is held twice. -/
  distinct : (partners slots).Nodup
  /-- What was free and is not held stays free. -/
  staysFree : ∀ j, later[j]? = some false ↔ used[j]? = some false ∧ j ∉ partners slots

theorem Claims.nil (used : List Bool) : Claims template used [] used :=
  ⟨by simp, by simp [partners], by simp [partners], by simp [partners]⟩

/-- One more slot in front, which holds what was free if it holds anything. -/
theorem Claims.cons {used later : List Bool} {slot : Slot N} {slots : List (Slot N)}
    (h : Claims template (markUsed used slot) slots later)
    (hslot : ∀ t score, slot = .paired t score →
      template.list[t.index]? = some t ∧ used[t.index]? = some false) :
    Claims template used (slot :: slots) later := by
  have hfree : ∀ j ∈ partners slots, used[j]? = some false ∧ slot.partner? ≠ some j :=
    fun j hj => getElem?_markUsed.1 (h.wasFree j hj)
  cases slot with
  | paired t score =>
    have hpart : partners (.paired t score :: slots) = t.index :: partners slots := rfl
    obtain ⟨ht, huse⟩ := hslot t score rfl
    refine ⟨?_, ?_, ?_, ?_⟩
    · intro t' score' hmem
      rcases List.mem_cons.1 hmem with heq | hmem
      · cases heq; exact ht
      · exact h.held t' score' hmem
    · intro j hj
      rw [hpart] at hj
      rcases List.mem_cons.1 hj with rfl | hj
      · exact huse
      · exact (hfree j hj).1
    · rw [hpart, List.nodup_cons]
      exact ⟨fun hmem => (hfree _ hmem).2 rfl, h.distinct⟩
    · intro j
      rw [h.staysFree, getElem?_markUsed, hpart, List.mem_cons, not_or]
      simp only [Slot.partner?, ne_eq, Option.some.injEq]
      constructor
      · rintro ⟨⟨hj, hne⟩, hnot⟩; exact ⟨hj, Ne.symm hne, hnot⟩
      · rintro ⟨hj, hne, hnot⟩; exact ⟨⟨hj, Ne.symm hne⟩, hnot⟩
  | _ =>
    refine ⟨fun t score hmem => h.held t score ?_, fun j hj => (hfree j hj).1, h.distinct,
      fun j => ?_⟩
    · rcases List.mem_cons.1 hmem with heq | hmem
      · cases heq
      · exact hmem
    · rw [h.staysFree, getElem?_markUsed]
      simp [Slot.partner?, partners]

/-! ### Candidates by their numbers -/

theorem numberedFrom_start {region : List (Statement N)} {start : Nat}
    (hn : NumberedFrom start region) :
    NumberedFrom ((region.head?.map (·.index)).getD 0) region := by
  cases region with
  | nil => intro i s h; simp at h
  | cons s rest =>
    have hstart : s.index = start := hn.cons.1
    rwa [List.head?_cons, Option.map_some, Option.getD_some, hstart]

/-- A candidate of the region has not been paired. -/
theorem unmatched_of_destinationCandidate {region : List (Statement N)} {slots : List (Slot N)}
    {start : Nat} {s : Statement N} (hn : NumberedFrom start region)
    (h : s ∈ destinationCandidates region slots) :
    start ≤ s.index ∧ slots[s.index - start]? = some .unmatched := by
  obtain ⟨⟨s', slot⟩, hmem, rfl⟩ := List.mem_map.1 h
  obtain ⟨hzip, hunmatched⟩ := List.mem_filter.1 hmem
  obtain ⟨i, hi, hget⟩ := List.getElem_of_mem hzip
  rw [List.getElem_zip] at hget
  obtain ⟨rfl, rfl⟩ := Prod.mk.inj hget
  rw [List.length_zip] at hi
  have hindex := hn i region[i] (List.getElem?_eq_getElem (by omega))
  refine ⟨by dsimp only; omega, ?_⟩
  dsimp only at hunmatched ⊢
  rw [hindex, Nat.add_sub_cancel_left, List.getElem?_eq_getElem (by omega)]
  cases hslot : slots[i] with
  | unmatched => rfl
  | _ => rw [hslot] at hunmatched; cases hunmatched

variable [NodeView N] {format : Format N} {destination : Prepared N}

/-! ### Frozen statements -/

theorem isFrozen_iff {p : Prepared N} {s : Statement N} :
    p.isFrozen s = true ↔ p.document.Frozen s.node := by
  rw [Prepared.isFrozen, Document.freezeSpanAt, List.find?_isSome]
  rfl

theorem isFrozen_eq_false {p : Prepared N} {s : Statement N} :
    p.isFrozen s = false ↔ ¬ p.document.Frozen s.node := by
  rw [← isFrozen_iff, Bool.not_eq_true]

/-! ### The books -/

/-- The template has a statement of that number, and it is not frozen. -/
def Pairable (template : Prepared N) (j : Nat) : Prop :=
  ∃ t, template.list[j]? = some t ∧ template.isFrozen t = false

/-- What the slot of a statement says about the statement. -/
def Fits (format : Format N) (destination : Prepared N) (s : Statement N) : Slot N → Prop
  | .frozen => destination.isFrozen s = true
  | .carried => destination.isFrozen s = false ∧ format.carriesThrough s.node = true
  | _ => destination.isFrozen s = false ∧ format.carriesThrough s.node = false

theorem Fits.eq_frozen {s : Statement N} {slot : Slot N} (h : Fits format destination s slot)
    (hfrozen : destination.document.Frozen s.node) : slot = .frozen := by
  rw [← isFrozen_iff] at hfrozen
  cases slot with
  | frozen => rfl
  | _ => exact absurd h.1 (by simp [hfrozen])

/-- The books are kept: slots belong to their statements, no statement of the template is held
    twice, and those are free that are neither frozen nor held. -/
structure Kept (format : Format N) (template destination : Prepared N)
    (region : List (Statement N)) (slots : List (Slot N)) (used : List Bool) : Prop where
  /-- Every slot belongs to its statement. -/
  fits : List.Forall₂ (Fits format destination) region slots
  /-- What is held is of the template. -/
  held : ∀ t score, .paired t score ∈ slots → template.list[t.index]? = some t
  /-- Nothing is held twice. -/
  distinct : (partners slots).Nodup
  /-- Nothing frozen is held. -/
  pairable : ∀ j ∈ partners slots, Pairable template j
  /-- The flags say what is free. -/
  free : ∀ j, used[j]? = some false ↔ Pairable template j ∧ j ∉ partners slots

/-! ### The walk -/

theorem getElem?_usedAtFirst (j : Nat) :
    (usedAtFirst template)[j]? = some false ↔ Pairable template j := by
  rw [usedAtFirst, List.getElem?_map, Option.map_eq_some_iff]
  rfl

/-- The slot that the walk fills is that of the statement, and it holds what was free. -/
theorem fits_slotOf (format : Format N) (template destination : Prepared N) (used : List Bool)
    (s : Statement N) : Fits format destination s (slotOf format template destination used s) := by
  unfold slotOf
  split
  · assumption
  · next hfrozen =>
    split
    · exact ⟨by simpa using hfrozen, by assumption⟩
    · next hcarried =>
      dsimp only
      split <;> exact ⟨by simpa using hfrozen, by simpa using hcarried⟩

/-- A statement that is paired has a signature, and is paired with the first free statement of the
    template that has the same. -/
theorem slotOf_eq_paired {used : List Bool} {s t : Statement N} {score : Option Float}
    (h : slotOf format template destination used s = .paired t score) :
    score = none ∧ ∃ signature index, destination.signatures.signatureOf s.index = some signature ∧
      template.signatures.firstUnused signature used = some index ∧
      template.list[index]? = some t := by
  unfold slotOf at h
  split at h
  · cases h
  · split at h
    · cases h
    · dsimp only at h
      split at h
      · next t' ht =>
        cases h
        obtain ⟨signature, hsig, hrest⟩ := Option.bind_eq_some_iff.1 ht
        obtain ⟨index, hindex, hstmt⟩ := Option.bind_eq_some_iff.1 hrest
        exact ⟨rfl, signature, index, hsig, hindex, hstmt⟩
      · cases h

theorem getElem?_of_firstUnused {x : Signature.Index} {signature : Signature} {used : List Bool}
    {index : Nat} (h : x.firstUnused signature used = some index) : used[index]? = some false := by
  have := List.find?_some h
  simpa using this

theorem slotOf_free (hn : NumberedFrom 0 template.list) {used : List Bool} {s t : Statement N}
    {score : Option Float} (h : slotOf format template destination used s = .paired t score) :
    template.list[t.index]? = some t ∧ used[t.index]? = some false := by
  obtain ⟨-, signature, index, -, hindex, hstmt⟩ := slotOf_eq_paired h
  have : t.index = index := by rw [hn index t hstmt, Nat.zero_add]
  rw [this]
  exact ⟨hstmt, getElem?_of_firstUnused hindex⟩

theorem exact_cons (used : List Bool) (s : Statement N) (region : List (Statement N)) :
    exact format template destination used (s :: region) =
      let slot := slotOf format template destination used s
      (slot :: (exact format template destination (markUsed used slot) region).1,
        (exact format template destination (markUsed used slot) region).2) := rfl

theorem exact_append (a b : List (Statement N)) : ∀ used : List Bool,
    exact format template destination used (a ++ b) =
      ((exact format template destination used a).1 ++
        (exact format template destination (exact format template destination used a).2 b).1,
        (exact format template destination (exact format template destination used a).2 b).2) := by
  induction a with
  | nil => intro used; rfl
  | cons s a ih =>
    intro used
    rw [List.cons_append, exact_cons, exact_cons]
    simp only [ih, List.cons_append]

theorem claims_exact (hn : NumberedFrom 0 template.list) (region : List (Statement N)) :
    ∀ used : List Bool, Claims template used
      (exact format template destination used region).1
      (exact format template destination used region).2 := by
  induction region with
  | nil => intro used; exact .nil used
  | cons s region ih =>
    intro used
    rw [exact_cons]
    exact (ih _).cons fun t score h => slotOf_free hn h

theorem fits_exact (region : List (Statement N)) : ∀ used : List Bool,
    List.Forall₂ (Fits format destination) region
      (exact format template destination used region).1 := by
  induction region with
  | nil => intro used; exact .nil
  | cons s region ih =>
    intro used
    rw [exact_cons]
    exact .cons (fits_slotOf format template destination used s) (ih _)

/-- The walk keeps the books. -/
theorem kept_exact (hn : NumberedFrom 0 template.list) (region : List (Statement N)) :
    Kept format template destination region
      (exact format template destination (usedAtFirst template) region).1
      (exact format template destination (usedAtFirst template) region).2 := by
  have h : Claims template (usedAtFirst template)
      (exact format template destination (usedAtFirst template) region).1
      (exact format template destination (usedAtFirst template) region).2 :=
    claims_exact hn region _
  exact
    { fits := fits_exact region _
      held := h.held
      distinct := h.distinct
      pairable := fun j hj => (getElem?_usedAtFirst j).1 (h.wasFree j hj)
      free := fun j => by rw [h.staysFree, getElem?_usedAtFirst] }

/-! ### The refiner -/

theorem forall₂_set {α β : Type} {R : α → β → Prop} {as : List α} {bs : List β}
    (h : List.Forall₂ R as bs) {i : Nat} {y : β}
    (hy : ∀ a b, bs[i]? = some b → R a b → R a y) : List.Forall₂ R as (bs.set i y) := by
  induction h generalizing i with
  | nil => exact .nil
  | @cons a b as bs hab hrest ih =>
    cases i with
    | zero => exact .cons (hy a b rfl hab) hrest
    | succ i => exact .cons hab (ih hy)

theorem forall₂_of_getElem? {α β : Type} {R : α → β → Prop} {as : List α} {bs : List β}
    (hlen : as.length = bs.length)
    (h : ∀ (i : Nat) a b, as[i]? = some a → bs[i]? = some b → R a b) : List.Forall₂ R as bs := by
  refine List.forall₂_iff_get.2 ⟨hlen, fun i ha hb => ?_⟩
  exact h i _ _ (List.getElem?_eq_getElem ha) (List.getElem?_eq_getElem hb)

theorem exists_getElem?_of_forall₂ {α β : Type} {R : α → β → Prop} {as : List α} {bs : List β}
    (h : List.Forall₂ R as bs) {i : Nat} {a : α} (ha : as[i]? = some a) :
    ∃ b, bs[i]? = some b ∧ R a b := by
  induction h generalizing i with
  | nil => simp at ha
  | @cons a' b as bs hab hrest ih =>
    cases i with
    | zero =>
      rw [List.getElem?_cons_zero] at ha
      exact ⟨b, rfl, Option.some.inj ha ▸ hab⟩
    | succ i => exact ih ha

theorem mem_zip_of_getElem? {α β : Type} {as : List α} {bs : List β} {i : Nat} {a : α} {b : β}
    (ha : as[i]? = some a) (hb : bs[i]? = some b) : (a, b) ∈ as.zip bs :=
  List.mem_of_getElem? (List.getElem?_zip_eq_some.2 ⟨ha, hb⟩)

omit [NodeView N] in
/-- A statement is entered in a slot that held nothing. -/
theorem partners_set {slots : List (Slot N)} {i : Nat} (h : slots[i]? = some .unmatched)
    (t : Statement N) (score : Option Float) :
    (partners (slots.set i (.paired t score))).Perm (t.index :: partners slots) := by
  obtain ⟨hi, hunmatched⟩ := List.getElem?_eq_some_iff.1 h
  have hcut : ∃ before after, slots = before ++ slots[i] :: after ∧ before.length = i ∧
      slots.set i (.paired t score) = before ++ .paired t score :: after := List.exists_of_set hi
  obtain ⟨before, after, hsplit, -, hset⟩ := hcut
  rw [hunmatched] at hsplit
  rw [hset, hsplit]
  simp only [partners, List.filterMap_append]
  exact List.perm_middle

/-- The books with one more pair: a slot that was not paired gets a statement that was free. -/
theorem Kept.enter {region : List (Statement N)} {state : List (Slot N) × List Bool}
    (h : Kept format template destination region state.1 state.2) {start : Nat} {m : Match}
    (hfree : state.2[m.templateIndex]? = some false)
    (hslot : state.1[m.destinationIndex - start]? = some .unmatched)
    (hn : NumberedFrom 0 template.list) :
    Kept format template destination region (enter template start state m).1
      (enter template start state m).2 := by
  obtain ⟨hpairable, hnot⟩ := (h.free _).1 hfree
  obtain ⟨t, ht, hfrozen⟩ := hpairable
  have hindex : t.index = m.templateIndex := by rw [hn _ t ht, Nat.zero_add]
  have hperm := partners_set hslot t (some m.score)
  rw [hindex] at hperm
  unfold Pairing.enter
  rw [ht]
  dsimp only
  refine ⟨?_, fun t' score' hmem => ?_, ?_, fun j hj => ?_, fun j => ?_⟩
  · refine forall₂_set h.fits fun s slot hs hfit => ?_
    rw [hslot] at hs
    rwa [← Option.some.inj hs] at hfit
  · rcases List.mem_or_eq_of_mem_set hmem with hmem | heq
    · exact h.held t' score' hmem
    · obtain ⟨rfl, -⟩ := Slot.paired.inj heq
      rwa [hindex]
  · rw [hperm.nodup_iff, List.nodup_cons]
    exact ⟨hnot, h.distinct⟩
  · rcases List.mem_cons.1 (hperm.mem_iff.1 hj) with rfl | hj
    · exact ⟨t, ht, hfrozen⟩
    · exact h.pairable j hj
  · rw [getElem?_set_true, h.free, hperm.mem_iff, List.mem_cons, not_or]
    constructor
    · rintro ⟨⟨hj, hnotj⟩, hne⟩; exact ⟨hj, hne, hnotj⟩
    · rintro ⟨hj, hne, hnotj⟩; exact ⟨⟨hj, hnotj⟩, hne⟩

/-- Pairs that share no statement and name what is unpaired are entered one after the other. -/
theorem Kept.foldl_enter {region : List (Statement N)} {start : Nat}
    (hn : NumberedFrom 0 template.list) : ∀ {ms : List Match} {state : List (Slot N) × List Bool},
    Kept format template destination region state.1 state.2 →
    (∀ m ∈ ms, start ≤ m.destinationIndex ∧ state.2[m.templateIndex]? = some false ∧
      state.1[m.destinationIndex - start]? = some .unmatched) →
    ms.Pairwise Match.Apart →
    Kept format template destination region (ms.foldl (Pairing.enter template start) state).1
      (ms.foldl (Pairing.enter template start) state).2
  | [], _, h, _, _ => h
  | m :: ms, state, h, hms, hapart => by
    obtain ⟨hstart, hfree, hslot⟩ := hms m List.mem_cons_self
    obtain ⟨hfirst, hrest⟩ := List.pairwise_cons.1 hapart
    rw [List.foldl_cons]
    refine Kept.foldl_enter hn (h.enter hfree hslot hn) (fun m' hm' => ?_) hrest
    obtain ⟨hstart', hfree', hslot'⟩ := hms m' (List.mem_cons_of_mem _ hm')
    have hne := hfirst m' hm'
    obtain ⟨t, ht, -⟩ := ((h.free _).1 hfree).1
    unfold Pairing.enter
    rw [ht]
    refine ⟨hstart', getElem?_set_true.2 ⟨hfree', Ne.symm hne.1⟩, ?_⟩
    rw [List.getElem?_set_ne]
    · exact hslot'
    · have := hne.2
      omega

omit [NodeView N] in
/-- Entering pairs leaves a slot as it was, or makes it hold what one of the pairs says. -/
theorem slot_of_foldl_enter {start i : Nat} {slot : Slot N} {ms : List Match} :
    ∀ {state : List (Slot N) × List Bool},
      (ms.foldl (Pairing.enter template start) state).1[i]? = some slot →
        state.1[i]? = some slot ∨ ∃ m ∈ ms, m.destinationIndex - start = i ∧
          ∃ t, template.list[m.templateIndex]? = some t ∧ slot = .paired t (some m.score) := by
  induction ms with
  | nil => intro state h; exact .inl h
  | cons m ms ih =>
    intro state h
    rcases ih h with h | ⟨m', hm', hrest⟩
    · unfold Pairing.enter at h
      split at h
      · exact .inl h
      · next t ht =>
        rw [List.getElem?_set] at h
        split at h
        · next hi =>
          split at h
          · exact .inr ⟨m, List.mem_cons_self, hi, t, ht, (Option.some.inj h).symm⟩
          · cases h
        · exact .inl h
    · exact .inr ⟨m', List.mem_cons_of_mem m hm', hrest⟩

theorem free_of_templateCandidate {used : List Bool} {t : Statement N}
    (h : t ∈ templateCandidates format template used) : used[t.index]? = some false := by
  have := (List.mem_filter.1 h).2
  rw [Bool.and_eq_true] at this
  simpa using this.1

/-- What a refiner is given, as far as it pairs. -/
theorem mem_refine_candidates {refiner : Refiner} {region : List (Statement N)}
    {slots : List (Slot N)} {used : List Bool} {start : Nat} (hn : NumberedFrom start region)
    {m : Match} (h : m ∈ refiner.refine
      ⟨templateCandidates format template used, template.list.length⟩
      ⟨destinationCandidates region slots, destination.list.length⟩) :
    start ≤ m.destinationIndex ∧ used[m.templateIndex]? = some false ∧
      slots[m.destinationIndex - start]? = some .unmatched := by
  obtain ⟨t, s, ⟨ht, hs, -⟩, rfl⟩ := Refiner.mem_refine h
  obtain ⟨hle, hslot⟩ := unmatched_of_destinationCandidate hn hs
  exact ⟨hle, free_of_templateCandidate ht, hslot⟩

/-- The refiner keeps the books. -/
theorem Kept.refined {refiner : Refiner} {region : List (Statement N)} {start : Nat}
    {state : List (Slot N) × List Bool} (hn : NumberedFrom 0 template.list)
    (hregion : NumberedFrom start region)
    (h : Kept format template destination region state.1 state.2) :
    Kept format template destination region
      (Pairing.refined format refiner template destination region state).1
      (Pairing.refined format refiner template destination region state).2 := by
  rw [Pairing.refined]
  exact h.foldl_enter hn (fun m hm => mem_refine_candidates (numberedFrom_start hregion) hm)
    (Refiner.pairwise_refine _ _ _)

/-- Pairing keeps the books, with a refiner and without. -/
theorem kept_pair {refiner : Option Refiner} {region : List (Statement N)} {start : Nat}
    (hn : NumberedFrom 0 template.list) (hregion : NumberedFrom start region) :
    Kept format template destination region
      (pair format refiner template destination region).1
      (pair format refiner template destination region).2 := by
  have h : Kept format template destination region
      (exact format template destination (usedAtFirst template) region).1
      (exact format template destination (usedAtFirst template) region).2 := kept_exact hn region
  cases refiner with
  | none => exact h
  | some refiner => exact h.refined hn hregion

theorem pair_of_not_free {refiner : Option Refiner} {region : List (Statement N)}
    (h : ∀ j : Nat, (exact format template destination (usedAtFirst template) region).2[j]? ≠
      some false) :
    pair format refiner template destination region =
      exact format template destination (usedAtFirst template) region := by
  cases refiner with
  | none => rfl
  | some refiner =>
    let state := exact format template destination (usedAtFirst template) region
    have hnone : refiner.refine
        ⟨templateCandidates format template state.2, template.list.length⟩
        ⟨destinationCandidates region state.1, destination.list.length⟩ = [] := by
      refine List.eq_nil_iff_forall_not_mem.2 fun m hm => ?_
      obtain ⟨t, -, ⟨ht, -⟩, -⟩ := Refiner.mem_refine hm
      have hfree : state.2[t.index]? = some false := free_of_templateCandidate ht
      exact h t.index hfree
    show refined format refiner template destination region state = state
    rw [refined, hnone]
    rfl

end Pairing

end TemplateMerge
