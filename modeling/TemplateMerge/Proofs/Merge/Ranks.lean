import TemplateMerge.Proofs.Merge.Counts
import TemplateMerge.Proofs.Signature.Draining

/-! The walk pairs by rank.

    The walk keeps one flag for every statement of the template.  Seen from one signature, that is a
    queue: the statements of the template that have the signature and are free, in order.  A
    statement of the region that asks for the signature takes the first of them, and nothing else
    ever touches the queue.

        template     0 a   1 b   2 a   3 ▒   4 a        offers of a:  0  2  4    (3 is frozen)
        region         a     c     a     b     a     a
        asked before   0           1           2     3  times for a
        partner        0     ·     2     1     4     ·

    So after a part of the region the queue is what the offers are without their first `k`, where
    `k` is how often the part asks, and the next one to ask gets offer number `k`. -/

namespace TemplateMerge

variable {N : Type} [NodeView N]

/-- Whether a statement asks for a partner with a signature: it has the signature itself, it is not
    frozen, and it is not carried through. -/
def Format.asks (format : Format N) (d : Document N) (s : Signature) (x : Statement N) : Bool :=
  format.countsFor d s x.node && !format.carriesThrough x.node

/-- The statements outside frozen regions that have a signature, by their numbers. -/
def Format.offers (format : Format N) (d : Document N) (s : Signature) : List Nat :=
  ((statements d.nodes).filter fun t => format.countsFor d s t.node).map (·.index)

theorem Format.asks_iff {format : Format N} {d : Document N} {s : Signature} {x : Statement N} :
    format.asks d s x = true ↔
      ¬ d.Frozen x.node ∧ format.carriesThrough x.node = false ∧
        format.signature x.node = some s := by
  rw [Format.asks, Bool.and_eq_true, Format.countsFor_iff, Bool.not_eq_true', and_assoc, and_comm
    (a := format.signature x.node = some s)]

theorem Format.pairwise_offers (format : Format N) (d : Document N) (s : Signature) :
    (format.offers d s).Pairwise (· < ·) :=
  (numberedFrom_statements d.nodes).pairwise_index.sublist (List.filter_sublist.map _)

namespace Pairing

variable {format : Format N} {td dd : Document N}

/-! ### The queue of a signature -/

/-- The free statements of a template that have a signature, by their numbers. -/
def queue (template : Prepared N) (used : List Bool) (s : Signature) : List Nat :=
  template.signatures.free used s

omit [NodeView N] in
theorem firstUnused_eq_head? (template : Prepared N) (used : List Bool) (s : Signature) :
    template.signatures.firstUnused s used = (queue template used s).head? :=
  template.signatures.firstUnused_eq_head? used s

/-- The statements with a signature, as the statements of the document that have it. -/
theorem indices_make (format : Format N) (d : Document N) (s : Signature) :
    (Prepared.make format d).signatures.indices s =
      ((statements d.nodes).filter fun t => format.signature t.node = some s).map (·.index) := by
  have hall : ∀ (nodes : List N) (start : Nat),
      ((nodes.map format.signature).zipIdx start).filterMap
          (fun e => if e.1 = some s then some e.2 else none) =
        (((nodes.zipIdx start).map fun e => (⟨e.2, e.1⟩ : Statement N)).filter
          fun t => format.signature t.node = some s).map (·.index) := by
    intro nodes
    induction nodes with
    | nil => intro start; rfl
    | cons n nodes ih =>
      intro start
      rw [List.map_cons, List.zipIdx_cons, List.zipIdx_cons, List.map_cons, List.filterMap_cons,
        List.filter_cons, ih]
      by_cases h : format.signature n = some s <;> simp [h]
  rw [Signature.Index.indices_eq]
  exact hall d.nodes 0

theorem mem_queue {used : List Bool} {s : Signature} {j : Nat}
    (h : j ∈ queue (.make format td) used s) :
    ∃ n, td.nodes[j]? = some n ∧ format.signature n = some s ∧ used[j]? = some false := by
  obtain ⟨hindex, hfree⟩ := List.mem_filter.1 h
  have hown := Signature.Index.mem_indices.1 hindex
  rw [bySlot_make] at hown
  obtain ⟨n, hn, hs⟩ := Option.map_eq_some_iff.1 hown
  exact ⟨n, hn, hs, by simpa using hfree⟩

/-- In the beginning the queue is what the template offers. -/
theorem queue_usedAtFirst (format : Format N) (td : Document N) (s : Signature) :
    queue (.make format td) (usedAtFirst (.make format td)) s = format.offers td s := by
  rw [queue, Signature.Index.free, indices_make, List.filter_map, List.filter_filter, Format.offers]
  refine congrArg (List.map _) (List.filter_congr fun t ht => ?_)
  have hpairable : Pairable (.make format td) t.index ↔ ¬ td.Frozen t.node := by
    rw [Merger.pairable_make, getElem?_nodes ht]
    simp
  rw [Bool.eq_iff_iff, Bool.and_eq_true, Function.comp_apply, beq_iff_eq, getElem?_usedAtFirst,
    hpairable, decide_eq_true_iff, Format.countsFor_iff]

/-! ### One statement -/

/-- Whoever asks while something is in the queue gets the first of it. -/
theorem slotOf_of_queue {used : List Bool} {x : Statement N} {s : Signature} {j : Nat}
    {rest : List Nat} (hx : x ∈ statements dd.nodes) (hasks : format.asks dd s x = true)
    (hqueue : queue (.make format td) used s = j :: rest) :
    ∃ n, td.nodes[j]? = some n ∧
      slotOf format (.make format td) (.make format dd) used x = .paired ⟨j, n⟩ none := by
  obtain ⟨hfrozen, hcarried, hs⟩ := Format.asks_iff.1 hasks
  obtain ⟨n, hn, -⟩ := mem_queue (hqueue ▸ List.mem_cons_self : j ∈ queue (.make format td) used s)
  refine ⟨n, hn, ?_⟩
  unfold slotOf
  rw [isFrozen_eq_false.2 hfrozen, hcarried, signatureOf_make dd hx, hs]
  dsimp only [Option.bind_some]
  rw [firstUnused_eq_head?, hqueue, List.head?_cons, Option.bind_some, Merger.getElem?_list_make,
    hn]
  rfl

/-- Whoever asks while nothing is in the queue gets nothing. -/
theorem slotOf_of_queue_nil {used : List Bool} {x : Statement N} {s : Signature}
    (hx : x ∈ statements dd.nodes) (hasks : format.asks dd s x = true)
    (hqueue : queue (.make format td) used s = []) :
    slotOf format (.make format td) (.make format dd) used x = .unmatched := by
  obtain ⟨hfrozen, hcarried, hs⟩ := Format.asks_iff.1 hasks
  unfold slotOf
  rw [isFrozen_eq_false.2 hfrozen, hcarried, signatureOf_make dd hx, hs]
  dsimp only [Option.bind_some]
  rw [firstUnused_eq_head?, hqueue]
  rfl

/-- Whoever asks takes the first free statement with the signature. -/
theorem markUsed_slotOf_of_asks {used : List Bool} {x : Statement N} {s : Signature}
    (hx : x ∈ statements dd.nodes) (hasks : format.asks dd s x = true) :
    markUsed used (slotOf format (.make format td) (.make format dd) used x) =
      ((Prepared.make format td).signatures.take used s).2 := by
  rw [Signature.Index.take, firstUnused_eq_head?]
  cases hqueue : queue (.make format td) used s with
  | nil =>
    rw [slotOf_of_queue_nil hx hasks hqueue]
    rfl
  | cons j rest =>
    obtain ⟨n, -, hslot⟩ := slotOf_of_queue hx hasks hqueue
    rw [hslot]
    rfl

theorem asks_of_paired {used : List Bool} {x t : Statement N} {score : Option Float}
    {s : Signature} (hx : x ∈ statements dd.nodes)
    (hslot : slotOf format (.make format td) (.make format dd) used x = .paired t score)
    (hs : format.signature t.node = some s) : format.asks dd s x = true := by
  have hfits := fits_slotOf format (.make format td) (.make format dd) used x
  rw [hslot] at hfits
  exact Format.asks_iff.2 ⟨isFrozen_eq_false.1 hfits.1, hfits.2, signature_of_paired hx hslot ▸ hs⟩

omit [NodeView N] in
theorem queue_markUsed (template : Prepared N) (used : List Bool) (slot : Slot N) (s : Signature) :
    queue template (markUsed used slot) s =
      (queue template used s).filter fun j => slot.partner? ≠ some j := by
  unfold queue Signature.Index.free
  rw [List.filter_filter]
  refine List.filter_congr fun j _ => ?_
  rw [Bool.eq_iff_iff, Bool.and_eq_true, beq_iff_eq, beq_iff_eq, getElem?_markUsed,
    decide_eq_true_iff, and_comm]

/-- A statement takes the first of the queue if it asks, and leaves the queue alone if not. -/
theorem queue_step {x : Statement N} (hx : x ∈ statements dd.nodes) (used : List Bool)
    (s : Signature) :
    queue (.make format td)
        (markUsed used (slotOf format (.make format td) (.make format dd) used x)) s =
      (queue (.make format td) used s).drop (if format.asks dd s x then 1 else 0) := by
  split
  · next hasks =>
    rw [markUsed_slotOf_of_asks hx hasks, List.drop_one]
    exact Signature.Index.free_take_self _ used s
  · next hasks =>
    rw [queue_markUsed, List.drop_zero, List.filter_eq_self]
    intro j hj
    obtain ⟨n, hn, hs, -⟩ := mem_queue hj
    rw [decide_eq_true_iff]
    intro hpartner
    -- it would have been paired with one of the signature, for which it has not asked
    cases hslot : slotOf format (.make format td) (.make format dd) used x with
    | paired t score =>
      rw [hslot] at hpartner
      have hindex : t.index = j := Option.some.inj hpartner
      obtain ⟨ht, -⟩ := slotOf_free (numberedFrom_statements td.nodes) hslot
      rw [Merger.getElem?_list_make, hindex, hn] at ht
      have hnode : n = t.node := congrArg Statement.node (Option.some.inj ht)
      exact hasks (asks_of_paired hx hslot (hnode ▸ hs))
    | _ => rw [hslot] at hpartner; cases hpartner

/-! ### The walk -/

/-- A part of a region takes from the queue as many as it asks for. -/
theorem queue_exact {region : List (Statement N)} (s : Signature) :
    ∀ {used : List Bool}, (∀ x ∈ region, x ∈ statements dd.nodes) →
      queue (.make format td)
          (exact format (.make format td) (.make format dd) used region).2 s =
        (queue (.make format td) used s).drop (region.countP (format.asks dd s)) := by
  induction region with
  | nil => intro used _; rfl
  | cons x region ih =>
    intro used hregion
    rw [exact_cons]
    dsimp only
    rw [ih fun y hy => hregion y (List.mem_cons_of_mem x hy),
      queue_step (hregion x List.mem_cons_self), List.drop_drop, List.countP_cons, Nat.add_comm]

/-- The slot of a statement is filled in the state that the statements before it have left. -/
theorem getElem?_exact {template destination : Prepared N} {region : List (Statement N)} :
    ∀ {used : List Bool} {i : Nat} {x : Statement N}, region[i]? = some x →
      (exact format template destination used region).1[i]? =
        some (slotOf format template destination
          (exact format template destination used (region.take i)).2 x) := by
  induction region with
  | nil => intro used i x hx; simp at hx
  | cons y region ih =>
    intro used i x hx
    cases i with
    | zero => rw [← Option.some.inj hx]; rfl
    | succ i =>
      rw [List.take_succ_cons, exact_cons, exact_cons]
      exact ih hx

variable (format td) in
/-- What is in the queue when the statement with the given place in the region is looked at. -/
theorem queue_before {region : List (Statement N)} (hregion : ∀ x ∈ region, x ∈ statements dd.nodes)
    (s : Signature) (i : Nat) :
    queue (.make format td) (exact format (.make format td) (.make format dd)
        (usedAtFirst (.make format td)) (region.take i)).2 s =
      (format.offers td s).drop ((region.take i).countP (format.asks dd s)) := by
  rw [queue_exact s fun x hx => hregion x (List.mem_of_mem_take hx), queue_usedAtFirst]

/-! ### Ranks -/

/-- Slots and flags of a region that was paired by rank. -/
structure PairsByRank (format : Format N) (td dd : Document N) (region : List (Statement N))
    (slots : List (Slot N)) (used : List Bool) : Prop where
  /-- Every statement has a slot. -/
  length : slots.length = region.length
  /-- A statement that asks, after the signature was asked for `k` times, is paired with offer
      number `k`, -/
  ranked : ∀ (i : Nat) (x : Statement N) (s : Signature) (j : Nat), region[i]? = some x →
    format.asks dd s x = true →
    (format.offers td s)[(region.take i).countP (format.asks dd s)]? = some j →
      ∃ n, td.nodes[j]? = some n ∧ slots[i]? = some (.paired ⟨j, n⟩ none)
  /-- and is unmatched just when there are no more than `k` offers. -/
  unmatched : ∀ (i : Nat) (x : Statement N) (s : Signature), region[i]? = some x →
    format.asks dd s x = true →
      (slots[i]? = some .unmatched ↔
        (format.offers td s).length ≤ (region.take i).countP (format.asks dd s))
  /-- A statement that asks for nothing is not paired. -/
  unasked : ∀ (i : Nat) (x : Statement N), region[i]? = some x →
    (∀ s, format.asks dd s x = false) → slots[i]?.bind Slot.partner? = none
  /-- Pairs of one signature do not cross. -/
  uncrossed : ∀ (i i' : Nat) (t t' : Statement N) (score score' : Option Float), i < i' →
    slots[i]? = some (.paired t score) → slots[i']? = some (.paired t' score') →
    format.signature t.node = format.signature t'.node → t.index < t'.index
  /-- Where a statement that asks is unmatched, everything that has its signature is in use. -/
  exhausted : ∀ (i : Nat) (x : Statement N) (s : Signature), region[i]? = some x →
    format.asks dd s x = true → slots[i]? = some .unmatched →
    ∀ (j : Nat) (n : N), td.nodes[j]? = some n → ¬ td.Frozen n → format.signature n = some s →
      used[j]? ≠ some false

section

variable {region : List (Statement N)} (hregion : ∀ x ∈ region, x ∈ statements dd.nodes)
include hregion

/-- Who asks is paired with the offer of its rank. -/
theorem exact_of_offer {i j : Nat} {x : Statement N} {s : Signature} (hx : region[i]? = some x)
    (hasks : format.asks dd s x = true)
    (hj : (format.offers td s)[(region.take i).countP (format.asks dd s)]? = some j) :
    ∃ n, td.nodes[j]? = some n ∧ (exact format (.make format td) (.make format dd)
      (usedAtFirst (.make format td)) region).1[i]? = some (.paired ⟨j, n⟩ none) := by
  rw [getElem?_exact hx]
  have hhead := queue_before format td hregion s i
  rw [← List.head?_drop, ← hhead] at hj
  obtain ⟨rest, hqueue⟩ := List.head?_eq_some_iff.1 hj
  obtain ⟨n, hn, hslot⟩ := slotOf_of_queue (hregion x (List.mem_of_getElem? hx)) hasks hqueue
  exact ⟨n, hn, by rw [hslot]⟩

/-- Who asks beyond the offers is unmatched. -/
theorem exact_of_no_offer {i : Nat} {x : Statement N} {s : Signature} (hx : region[i]? = some x)
    (hasks : format.asks dd s x = true)
    (hle : (format.offers td s).length ≤ (region.take i).countP (format.asks dd s)) :
    (exact format (.make format td) (.make format dd)
      (usedAtFirst (.make format td)) region).1[i]? = some .unmatched := by
  rw [getElem?_exact hx]
  have hqueue := queue_before format td hregion s i
  rw [List.drop_of_length_le hle] at hqueue
  rw [slotOf_of_queue_nil (hregion x (List.mem_of_getElem? hx)) hasks hqueue]

theorem unmatched_iff {i : Nat} {x : Statement N} {s : Signature} (hx : region[i]? = some x)
    (hasks : format.asks dd s x = true) :
    (exact format (.make format td) (.make format dd)
        (usedAtFirst (.make format td)) region).1[i]? = some .unmatched ↔
      (format.offers td s).length ≤ (region.take i).countP (format.asks dd s) := by
  refine ⟨fun hslot => ?_, exact_of_no_offer hregion hx hasks⟩
  by_contra hlt
  obtain ⟨n, -, hpaired⟩ := exact_of_offer hregion hx hasks
    (List.getElem?_eq_getElem (Nat.lt_of_not_le hlt))
  rw [hslot] at hpaired
  cases hpaired

/-- What a slot of the walk holds is the offer of its statement's rank. -/
theorem offer_of_exact {i : Nat} {t : Statement N} {score : Option Float}
    (hslot : (exact format (.make format td) (.make format dd)
      (usedAtFirst (.make format td)) region).1[i]? = some (.paired t score)) :
    ∃ x s, region[i]? = some x ∧ format.asks dd s x = true ∧ format.signature t.node = some s ∧
      (format.offers td s)[(region.take i).countP (format.asks dd s)]? = some t.index := by
  have hlength : region.length = (exact format (.make format td) (.make format dd)
      (usedAtFirst (.make format td)) region).1.length := (fits_exact _ _).length_eq
  obtain ⟨hlt, -⟩ := List.getElem?_eq_some_iff.1 hslot
  rw [← hlength] at hlt
  obtain ⟨x, hx⟩ : ∃ x, region[i]? = some x := ⟨_, List.getElem?_eq_getElem hlt⟩
  have hmem := hregion x (List.mem_of_getElem? hx)
  have hown := hslot
  rw [getElem?_exact hx] at hown
  have hown := Option.some.inj hown
  obtain ⟨-, s, index, hs, -, -⟩ := slotOf_eq_paired hown
  rw [signatureOf_make dd hmem] at hs
  have hst : format.signature t.node = some s := (signature_of_paired hmem hown).trans hs
  have hasks := asks_of_paired hmem hown hst
  refine ⟨x, s, hx, hasks, hst, ?_⟩
  cases hj : (format.offers td s)[(region.take i).countP (format.asks dd s)]? with
  | none =>
    rw [exact_of_no_offer hregion hx hasks (List.getElem?_eq_none_iff.1 hj)] at hslot
    cases hslot
  | some j =>
    obtain ⟨n, -, hpaired⟩ := exact_of_offer hregion hx hasks hj
    rw [hslot] at hpaired
    obtain ⟨rfl, -⟩ := Slot.paired.inj (Option.some.inj hpaired)
    rfl

/-- The walk pairs by rank. -/
theorem pairsByRank_exact :
    let walk := exact format (.make format td) (.make format dd) (usedAtFirst (.make format td))
      region
    PairsByRank format td dd region walk.1 walk.2 := by
  intro walk
  refine
    { length := (fits_exact region _).length_eq.symm
      ranked := fun i x s j hx hasks hj => exact_of_offer hregion hx hasks hj
      unmatched := fun i x s hx hasks => unmatched_iff hregion hx hasks
      unasked := ?unasked, uncrossed := ?uncrossed, exhausted := ?exhausted }
  case unasked =>
    intro i x hx hnone
    cases hslot : walk.1[i]? with
    | none => rfl
    | some slot =>
      cases slot with
      | paired t score =>
        obtain ⟨x', s, hx', hasks, -⟩ := offer_of_exact hregion hslot
        rw [hx] at hx'
        rw [← Option.some.inj hx', hnone s] at hasks
        cases hasks
      | _ => rfl
  case uncrossed =>
    intro i i' t t' score score' hlt hslot hslot' hsame
    obtain ⟨x, s, hx, hasks, hs, hj⟩ := offer_of_exact hregion hslot
    obtain ⟨x', s', -, -, hs', hj'⟩ := offer_of_exact hregion hslot'
    obtain rfl : s = s' := Option.some.inj (hs.symm.trans (hsame.trans hs'))
    -- the later one asks after the earlier one has asked
    have hranks : (region.take i).countP (format.asks dd s) <
        (region.take i').countP (format.asks dd s) := by
      have hsub : (region.take (i + 1)).Sublist (region.take i') :=
        (List.take_prefix_take_left hlt).sublist
      have hle := hsub.countP_le (p := format.asks dd s)
      rw [List.take_add_one, hx, Option.toList_some, List.countP_append, List.countP_singleton,
        if_pos hasks] at hle
      exact hle
    obtain ⟨hk, hindex⟩ := List.getElem?_eq_some_iff.1 hj
    obtain ⟨hk', hindex'⟩ := List.getElem?_eq_some_iff.1 hj'
    have hoffers := List.pairwise_iff_getElem.1 (format.pairwise_offers td s) _ _ hk hk' hranks
    rwa [hindex, hindex'] at hoffers
  case exhausted =>
    intro i x s hx hasks hslot j n hn hfrozen hs hfree
    have hle := (unmatched_iff hregion hx hasks).1 hslot
    have hmore : (region.take i).countP (format.asks dd s) ≤ region.countP (format.asks dd s) :=
      (List.take_sublist i region).countP_le
    have hqueue : queue (.make format td) walk.2 s = [] := by
      rw [queue_exact s hregion, queue_usedAtFirst]
      exact List.drop_of_length_le (Nat.le_trans hle hmore)
    have hmem : j ∈ queue (.make format td) walk.2 s := by
      refine List.mem_filter.2 ⟨Signature.Index.mem_indices.2 ?_, by rw [hfree]; rfl⟩
      rw [bySlot_make, hn, Option.map_some, hs]
    rw [hqueue] at hmem
    cases hmem

end

end Pairing

/-- Without a refiner, the statements of a region are paired by rank, and its log says so. -/
theorem walk_pairs_by_rank (m : Merger N) (td dd : Document N) (region : Region N)
    (addTemplateOnly : Bool) (hrefiner : m.options.refiner = none)
    (hregion : ∀ x ∈ region.list, x ∈ statements dd.nodes) :
    let paired := Pairing.pair m.format m.options.refiner (.make m.format td) (.make m.format dd)
      region.list
    let log := (m.regionPieces (.make m.format td) (.make m.format dd) region
      addTemplateOnly).filterMap (·.decision)
    Pairing.PairsByRank m.format td dd region.list paired.1 paired.2 ∧
      ∀ (i : Nat) (x : Statement N), region.list[i]? = some x → ∃ e, log[i]? = some e ∧
        e.destinationIndex = some x.index ∧ e.score = none ∧
        e.templateIndex = paired.1[i]?.bind Slot.partner? := by
  intro paired log
  have hwalk : paired = Pairing.exact m.format (.make m.format td) (.make m.format dd)
      (Pairing.usedAtFirst (.make m.format td)) region.list := by
    show Pairing.pair _ _ _ _ _ = _
    rw [hrefiner]
    rfl
  have hlog : log = m.statementLog region.list paired.1 ++
      Merger.addedLog (.make m.format td) paired.2 addTemplateOnly :=
    Merger.decisions_regionPieces region addTemplateOnly
  have hranks : Pairing.PairsByRank m.format td dd region.list paired.1 paired.2 := by
    rw [hwalk]
    exact Pairing.pairsByRank_exact hregion
  refine ⟨hranks, fun i x hx => ?_⟩
  obtain ⟨slot, hslot⟩ : ∃ slot, paired.1[i]? = some slot := by
    obtain ⟨hlt, -⟩ := List.getElem?_eq_some_iff.1 hx
    exact ⟨_, List.getElem?_eq_getElem (hranks.length ▸ hlt)⟩
  have hentry := Merger.getElem?_statementLog (m := m) hx hslot
  refine ⟨m.entryOf x slot, ?_, Merger.destinationIndex_entryOf x slot, ?_, ?_⟩
  · rw [hlog, List.getElem?_append_left (List.getElem?_eq_some_iff.1 hentry).1, hentry]
  · cases slot with
    | paired t score =>
      rw [hwalk] at hslot
      obtain ⟨used, hused⟩ := Pairing.slot_of_mem_exact (Pairing.mem_zip_of_getElem? hx hslot)
      exact (Pairing.slotOf_eq_paired hused.symm).1
    | _ => rfl
  · rw [Merger.templateIndex_entryOf, hslot]
    rfl

/-- A part of a document that asks for a line once more than the template offers it, since of the
    template's three one is frozen. -/
theorem walk_pairs_by_rank_repeated :
    let m : Merger Outline.Node := ⟨Outline.format .builtin, .standard⟩
    let t := "a\nb\na\n# structmerge:freeze\na\n# structmerge:unfreeze".toList
    let d := "a\na\nc\na\nb\na\na".toList
    ∃ td dd, m.format.parse t = .ok td ∧ m.format.parse d = .ok dd ∧
      let region : Region Outline.Node := ⟨Statement.range (statements dd.nodes) 1 5, 2, 6⟩
      let paired := Pairing.pair m.format m.options.refiner (.make m.format td) (.make m.format dd)
        region.list
      m.options.refiner = none ∧ (∀ x ∈ region.list, x ∈ statements dd.nodes) ∧
      Pairing.PairsByRank m.format td dd region.list paired.1 paired.2 ∧
      paired.1.map Slot.partner? = [some 0, none, some 2, some 1, none] := by
  intro m t d
  have hpartners : ((m.format.parse t).toOption.bind fun td => (m.format.parse d).toOption.map
      fun dd => (Pairing.pair m.format m.options.refiner (.make m.format td) (.make m.format dd)
        (Statement.range (statements dd.nodes) 1 5)).1.map Slot.partner?) =
          some [some 0, none, some 2, some 1, none] := by decide +kernel
  obtain ⟨td, ht⟩ : ∃ td, m.format.parse t = .ok td := ⟨_, rfl⟩
  obtain ⟨dd, hd⟩ : ∃ dd, m.format.parse d = .ok dd := ⟨_, rfl⟩
  rw [ht, hd] at hpartners
  have hregion : ∀ x ∈ Statement.range (statements dd.nodes) 1 5, x ∈ statements dd.nodes :=
    fun x hx => List.mem_of_mem_take (List.mem_of_mem_drop hx)
  exact ⟨td, dd, ht, hd, rfl, hregion,
    (walk_pairs_by_rank m td dd ⟨_, 2, 6⟩ false rfl hregion).1, Option.some.inj hpartners⟩

end TemplateMerge
