import TemplateMerge.Proofs.Merge.Log
import TemplateMerge.Proofs.Signature.Index

/-! Pairing a second time.

    The walk looks at a statement of the destination only for whether it is frozen or carried
    through, and for its signature.  So statements that agree in these are paired as before.  Of
    what is still free, the first statement is the first that its own signature finds: if the free
    statements follow one by one, each is paired with itself, and nothing stays free.

        template          a   b   a   c   c          paired at first: 0 and 3
        destination       a   c   b   a   c          then the free ones: 1, 2 and 4 -/

namespace TemplateMerge

variable {N : Type}

/-! ### What is free -/

/-- Where nothing before it is free, a free statement is found by its signature. -/
theorem Signature.Index.firstUnused_of_least {x : Signature.Index} {s : Signature}
    {used : List Bool} {i : Nat} (hs : x.bySlot[i]? = some (some s)) (hfree : used[i]? = some false)
    (hmin : ∀ j < i, used[j]? ≠ some false) : x.firstUnused s used = some i := by
  refine firstUnused_eq_some_iff.2 ⟨⟨signatureOf_eq_some_iff.2 hs, hfree⟩, fun j hj => ?_⟩
  exact Nat.le_of_not_lt fun hlt => hmin j hlt hj.2

namespace Merger

variable {template : Prepared N}

theorem head_freeStatements {used : List Bool} {f : Statement N} {fs : List (Statement N)}
    (hn : NumberedFrom 0 template.list) (h : freeStatements template used = f :: fs) :
    template.list[f.index]? = some f ∧ used[f.index]? = some false ∧
      ∀ j < f.index, used[j]? ≠ some false := by
  have hf : f ∈ freeStatements template used := by rw [h]; exact List.mem_cons_self
  obtain ⟨hmem, hfree⟩ := List.mem_filter.1 hf
  obtain ⟨i, hi⟩ := List.mem_iff_getElem?.1 hmem
  have hindex : f.index = i := by rw [hn i f hi, Nat.zero_add]
  refine ⟨by rw [hindex]; exact hi, by simpa using hfree, fun j hlt hj => ?_⟩
  obtain ⟨hlen, -⟩ := List.getElem?_eq_some_iff.1 hi
  have hmem' := (mem_freeStatements hn
    ⟨_, List.getElem?_eq_getElem (by omega : j < template.list.length)⟩).2 hj
  have hsorted := pairwise_freeStatements hn used
  rw [h, List.map_cons] at hmem' hsorted
  rcases List.mem_cons.1 hmem' with rfl | hrest
  · exact absurd hlt (Nat.lt_irrefl _)
  · have := (List.pairwise_cons.1 hsorted).1 j hrest
    omega

theorem freeStatements_set {used : List Bool} {f : Statement N} {fs : List (Statement N)}
    (hn : NumberedFrom 0 template.list) (h : freeStatements template used = f :: fs) :
    freeStatements template (used.set f.index true) = fs := by
  have hfilter : freeStatements template (used.set f.index true) =
      (freeStatements template used).filter fun t => t.index != f.index := by
    unfold freeStatements
    rw [List.filter_filter]
    refine List.filter_congr fun t _ => ?_
    rw [Bool.eq_iff_iff, Bool.and_eq_true, beq_iff_eq, beq_iff_eq, bne_iff_ne,
      Pairing.getElem?_set_true, and_comm]
  have hsorted := pairwise_freeStatements hn used
  rw [h, List.map_cons] at hsorted
  rw [hfilter, h, List.filter_cons_of_neg (by simp), List.filter_eq_self]
  intro t ht
  have := (List.pairwise_cons.1 hsorted).1 t.index (List.mem_map_of_mem ht)
  simpa using Nat.ne_of_gt this

end Merger

variable [NodeView N] {format : Format N}

theorem bySlot_make (d : Document N) (j : Nat) :
    (Prepared.make format d).signatures.bySlot[j]? = (d.nodes[j]?).map format.signature :=
  List.getElem?_map

theorem signatureOf_make (d : Document N) {x : Statement N} (hx : x ∈ statements d.nodes) :
    (Prepared.make format d).signatures.signatureOf x.index = format.signature x.node := by
  have hget := getElem?_of_mem_statements hx
  rw [getElem?_statements] at hget
  obtain ⟨n, hn, hx'⟩ := Option.map_eq_some_iff.1 hget
  rw [Signature.Index.signatureOf, bySlot_make, hn, ← hx']
  rfl

namespace Pairing

variable {template destination destination' : Prepared N}

/-! ### The walk, statement by statement -/

theorem slotOf_congr {x x' : Statement N}
    (hfrozen : destination'.isFrozen x' = destination.isFrozen x)
    (hlook : destination.isFrozen x = false →
      format.carriesThrough x'.node = format.carriesThrough x.node ∧
      destination'.signatures.signatureOf x'.index = destination.signatures.signatureOf x.index)
    (used : List Bool) :
    slotOf format template destination' used x' = slotOf format template destination used x := by
  unfold slotOf
  rw [hfrozen]
  split
  · rfl
  · next h =>
    obtain ⟨hcarried, hsignature⟩ := hlook (by simpa using h)
    rw [hcarried, hsignature]

theorem exact_congr {region region' : List (Statement N)}
    (h : List.Forall₂ (fun x x' => ∀ used, slotOf format template destination' used x' =
      slotOf format template destination used x) region region') :
    ∀ used, exact format template destination' used region' =
      exact format template destination used region := by
  induction h with
  | nil => intro used; rfl
  | cons hslot _ ih =>
    intro used
    rw [exact_cons, exact_cons, hslot used]
    simp only [ih]

/-- Every slot was filled in some state of the walk. -/
theorem slot_of_mem_exact {region : List (Statement N)} : ∀ {used : List Bool}
    {z : Statement N × Slot N}, z ∈ region.zip (exact format template destination used region).1 →
      ∃ used', z.2 = slotOf format template destination used' z.1 := by
  induction region with
  | nil => intro used z hz; cases hz
  | cons s region ih =>
    intro used z hz
    rw [exact_cons] at hz
    rcases List.mem_cons.1 hz with rfl | hz
    · exact ⟨used, rfl⟩
    · exact ih hz

theorem signature_of_paired {td dd : Document N} {used : List Bool} {x t : Statement N}
    {score : Option Float} (hx : x ∈ statements dd.nodes)
    (h : slotOf format (.make format td) (.make format dd) used x = .paired t score) :
    format.signature t.node = format.signature x.node := by
  obtain ⟨-, signature, index, hsig, hindex, ht⟩ := slotOf_eq_paired h
  rw [signatureOf_make dd hx] at hsig
  rw [hsig]
  have hown := Signature.Index.mem_indices.1 (List.mem_of_find?_eq_some hindex)
  rw [Merger.getElem?_list_make] at ht
  obtain ⟨n, hn, rfl⟩ := Option.map_eq_some_iff.1 ht
  rw [bySlot_make, hn] at hown
  exact Option.some.inj hown

/-- What the walk pairs has the same signature. -/
theorem signature_of_mem_exact {td dd : Document N} {region : List (Statement N)}
    {used : List Bool} {x t : Statement N} {score : Option Float} (hx : x ∈ statements dd.nodes)
    (h : (x, .paired t score) ∈
      region.zip (exact format (.make format td) (.make format dd) used region).1) :
    format.signature t.node = format.signature x.node := by
  obtain ⟨used', hused'⟩ := slot_of_mem_exact h
  exact signature_of_paired hx hused'.symm

/-! ### The free statements, one by one -/

/-- A statement is paired with the first free one, when the two have the same signature. -/
theorem slotOf_first {td : Document N} {used : List Bool} {f y : Statement N} {s : Signature}
    (hfrozen : destination.isFrozen y = false) (hcarried : format.carriesThrough y.node = false)
    (hf : (Prepared.make format td).list[f.index]? = some f)
    (hy : destination.signatures.signatureOf y.index = some s)
    (hs : format.signature f.node = some s) (hfree : used[f.index]? = some false)
    (hmin : ∀ j < f.index, used[j]? ≠ some false) :
    slotOf format (.make format td) destination used y = .paired f none := by
  have hown : (Prepared.make format td).signatures.bySlot[f.index]? = some (some s) := by
    rw [Merger.getElem?_list_make] at hf
    obtain ⟨n, hn, hfn⟩ := Option.map_eq_some_iff.1 hf
    rw [bySlot_make, hn, Option.map_some, ← hs, ← hfn]
  unfold slotOf
  rw [hfrozen, hcarried, hy]
  dsimp only [Option.bind_some]
  rw [Signature.Index.firstUnused_of_least hown hfree hmin, Option.bind_some, hf]
  rfl

/-- Free statements that follow one by one are paired with themselves, and nothing stays free. -/
theorem exact_free {td : Document N} {fs : List (Statement N)} : ∀ {used : List Bool}
    {later : List (Statement N)}, Merger.freeStatements (.make format td) used = fs →
    List.Forall₂ (fun f y => destination.isFrozen y = false ∧
      format.carriesThrough y.node = false ∧ (format.signature f.node).isSome = true ∧
      destination.signatures.signatureOf y.index = format.signature f.node) fs later →
    (exact format (.make format td) destination used later).1 = fs.map (Slot.paired · none) ∧
      Merger.freeStatements (.make format td)
        (exact format (.make format td) destination used later).2 = [] := by
  induction fs with
  | nil =>
    intro used later hfree h
    cases h
    exact ⟨rfl, hfree⟩
  | cons f fs ih =>
    intro used later hfree h
    cases h with
    | @cons _ y _ later hy hrest =>
      obtain ⟨hfrozen, hcarried, hsome, hsignature⟩ := hy
      obtain ⟨hf, hused, hmin⟩ :=
        Merger.head_freeStatements (numberedFrom_statements td.nodes) hfree
      obtain ⟨signature, hs⟩ := Option.isSome_iff_exists.1 hsome
      have hslot : slotOf format (.make format td) destination used y = .paired f none :=
        slotOf_first hfrozen hcarried hf (hs ▸ hsignature) hs hused hmin
      obtain ⟨hslots, hnone⟩ := ih
        (Merger.freeStatements_set (numberedFrom_statements td.nodes) hfree) hrest
      rw [exact_cons, hslot]
      dsimp only [markUsed]
      rw [hslots]
      exact ⟨rfl, hnone⟩

end Pairing

end TemplateMerge
