import TemplateMerge.Proofs.Merge.Rematch

/-! Pairing statements that stand opposite one another.

    The walk pairs a statement with the first free one of its signature.  Where a template and a
    region are aligned, frozen statements opposite frozen ones and all others opposite their like,
    that is the statement opposite: what comes before is in use, be it frozen from the beginning or
    paired on the way.  So repeated signatures do no harm, and the walk leaves nothing to a refiner.

        template        a   ▒   a   b   a             ▒ frozen, with the signature of a
        region          a   ▒   a   b   a
        in use before   ·   0   0 1  0 1 2  0 1 2 3
        paired          0   ·   2   3   4 -/

namespace TemplateMerge

variable {N : Type} [NodeView N]

namespace Pairing

variable {format : Format N} {td dd : Document N}

/-- The slot that holds a statement, unless it is frozen. -/
def selfSlot (p : Prepared N) (x : Statement N) : Slot N :=
  if p.isFrozen x then .frozen else .paired x none

/-- A statement of a template and the one opposite: both are frozen, or neither is, and then they
    have the same signature and are not carried through. -/
structure Aligned (format : Format N) (td dd : Document N) (t x : Statement N) : Prop where
  frozen : dd.Frozen x.node ↔ td.Frozen t.node
  loose : ¬ td.Frozen t.node → format.carriesThrough x.node = false
  signed : ¬ td.Frozen t.node → (format.signature t.node).isSome = true
  alike : ¬ td.Frozen t.node → format.signature x.node = format.signature t.node

/-- The statement that is next is paired with the one opposite, if all before are in use. -/
theorem slotOf_aligned {t x : Statement N} (h : Aligned format td dd t x)
    (ht : t ∈ statements td.nodes) (hx : x ∈ statements dd.nodes) {used : List Bool}
    (hused : ∀ j, used[j]? = some false ↔ t.index ≤ j ∧ Pairable (.make format td) j) :
    slotOf format (.make format td) (.make format dd) used x = selfSlot (.make format td) t := by
  have hget : (Prepared.make format td).list[t.index]? = some t := getElem?_of_mem_statements ht
  unfold selfSlot
  cases hfrozen : (Prepared.make format td).isFrozen t with
  | true =>
    have hown : (Prepared.make format dd).isFrozen x = true :=
      isFrozen_iff.2 (h.frozen.2 (isFrozen_iff.1 hfrozen))
    unfold slotOf
    rw [hown]
    rfl
  | false =>
    have hout : ¬ td.Frozen t.node := isFrozen_eq_false.1 hfrozen
    have hown : (Prepared.make format dd).isFrozen x = false :=
      isFrozen_eq_false.2 (mt h.frozen.1 hout)
    obtain ⟨s, hs⟩ := Option.isSome_iff_exists.1 (h.signed hout)
    refine slotOf_first hown (h.loose hout) hget ?_ hs
      ((hused _).2 ⟨Nat.le_refl _, t, hget, hfrozen⟩)
      fun j hlt hj => Nat.not_le_of_lt hlt ((hused j).1 hj).1
    rw [signatureOf_make dd hx, h.alike hout, hs]

/-- When the statement that is next has its slot, those after it are free. -/
theorem free_markUsed_selfSlot {used : List Bool} {t : Statement N} (ht : t ∈ statements td.nodes)
    (hused : ∀ j, used[j]? = some false ↔ t.index ≤ j ∧ Pairable (.make format td) j) (j : Nat) :
    (markUsed used (selfSlot (.make format td) t))[j]? = some false ↔
      t.index + 1 ≤ j ∧ Pairable (.make format td) j := by
  have hget : (Prepared.make format td).list[t.index]? = some t := getElem?_of_mem_statements ht
  rw [getElem?_markUsed, hused]
  unfold selfSlot
  cases hfrozen : (Prepared.make format td).isFrozen t with
  | true =>
    -- a frozen statement was never free
    have hnot : ¬ Pairable (.make format td) t.index := by
      rintro ⟨y, hy, hyfrozen⟩
      rw [hget] at hy
      rw [← Option.some.inj hy, hfrozen] at hyfrozen
      cases hyfrozen
    have hne : Pairable (.make format td) j → j ≠ t.index := fun h heq => hnot (heq ▸ h)
    simp only [if_true, Slot.partner?, ne_eq, reduceCtorEq, not_false_eq_true, and_true]
    constructor
    · rintro ⟨hle, hj⟩
      exact ⟨Nat.lt_of_le_of_ne hle (hne hj).symm, hj⟩
    · rintro ⟨hlt, hj⟩
      exact ⟨Nat.le_of_lt hlt, hj⟩
  | false =>
    simp only [Bool.false_eq_true, if_false, Slot.partner?, ne_eq, Option.some.injEq]
    constructor
    · rintro ⟨⟨hle, hj⟩, hne⟩
      exact ⟨Nat.lt_of_le_of_ne hle hne, hj⟩
    · rintro ⟨hlt, hj⟩
      exact ⟨⟨Nat.le_of_lt hlt, hj⟩, Nat.ne_of_lt hlt⟩

/-- With just the template's statements from `start` on free, and aligned with what the walk goes
    over, they are paired as they stand, and nothing stays free. -/
theorem exact_aligned {later : List (Statement N)} : ∀ {start : Nat} {used : List Bool}
    {region : List (Statement N)}, (statements td.nodes).drop start = later →
      List.Forall₂ (Aligned format td dd) later region →
      (∀ x ∈ region, x ∈ statements dd.nodes) →
      (∀ j, used[j]? = some false ↔ start ≤ j ∧ Pairable (.make format td) j) →
      (exact format (.make format td) (.make format dd) used region).1 =
          later.map (selfSlot (.make format td)) ∧
        ∀ j : Nat, (exact format (.make format td) (.make format dd) used region).2[j]? ≠
          some false := by
  induction later with
  | nil =>
    intro start used region hdrop haligned _ hused
    cases haligned
    refine ⟨rfl, fun j hj => ?_⟩
    obtain ⟨hle, t, ht, -⟩ := (hused j).1 hj
    have hlt : j < (statements td.nodes).length := (List.getElem?_eq_some_iff.1 ht).1
    have := List.drop_eq_nil_iff.1 hdrop
    omega
  | cons t later ih =>
    intro start used region hdrop haligned hregion hused
    cases haligned with
    | @cons _ x _ region hown hlater =>
      have hget : (statements td.nodes)[start]? = some t := by
        rw [← List.head?_drop, hdrop, List.head?_cons]
      have ht : t ∈ statements td.nodes := List.mem_of_getElem? hget
      have hindex : t.index = start := by
        rw [numberedFrom_statements td.nodes start t hget, Nat.zero_add]
      rw [← hindex] at hused
      have hrest : (statements td.nodes).drop (t.index + 1) = later := by
        rw [hindex, ← List.tail_drop, hdrop, List.tail_cons]
      obtain ⟨hslots, hnone⟩ := ih hrest hlater
        (fun y hy => hregion y (List.mem_cons_of_mem x hy)) (free_markUsed_selfSlot ht hused)
      rw [exact_cons, slotOf_aligned hown ht (hregion x List.mem_cons_self) hused]
      exact ⟨congrArg (List.cons _) hslots, hnone⟩

/-- A template is paired with a region that it is aligned with, statement by statement, whatever the
    refiner. -/
theorem pair_aligned {region : List (Statement N)}
    (h : List.Forall₂ (Aligned format td dd) (statements td.nodes) region)
    (hregion : ∀ x ∈ region, x ∈ statements dd.nodes) (refiner : Option Refiner) :
    (pair format refiner (.make format td) (.make format dd) region).1 =
        (statements td.nodes).map (selfSlot (.make format td)) ∧
      ∀ j : Nat, (pair format refiner (.make format td) (.make format dd) region).2[j]? ≠
        some false := by
  have hused : ∀ j, (usedAtFirst (.make format td))[j]? = some false ↔
      0 ≤ j ∧ Pairable (.make format td) j := by simp [getElem?_usedAtFirst]
  obtain ⟨hslots, hnone⟩ := exact_aligned List.drop_zero h hregion hused
  rw [pair_of_not_free hnone]
  exact ⟨hslots, hnone⟩

end Pairing

namespace Merger

variable {m : Merger N}

omit [NodeView N] in
theorem freeStatements_eq_nil {template : Prepared N} {used : List Bool}
    (h : ∀ j : Nat, used[j]? ≠ some false) : freeStatements template used = [] :=
  List.filter_eq_nil_iff.2 fun x _ => by simpa using h x.index

theorem statementLog_of_forall₂ {slot : Statement N → Slot N} {entry : Statement N → Decision}
    {ts region : List (Statement N)}
    (h : List.Forall₂ (fun t x => m.entryOf x (slot t) = entry x) ts region) :
    m.statementLog region (ts.map slot) = region.map entry := by
  induction h with
  | nil => rfl
  | cons hown _ ih => exact congrArg₂ List.cons hown ih

end Merger

end TemplateMerge
