import Mathlib.Data.Set.Card
import Mathlib.Order.Bounds.Basic
import TemplateMerge.Proofs.Table.Lookup
import TemplateMerge.Signature

/-! What an index of signatures says.

    An index holds the signatures of a document twice: statement by statement, and as groups of
    statements.  The groups come from one walk over the statements, and at every moment of it the
    group of a signature is what has been walked over and has the signature, in order.

        statement       0   1   2   3   4
        signature       a   b   a   ·   b
        walked over     ───────────             a ↦ 0 2   b ↦ 1
                        ───────────────────     a ↦ 0 2   b ↦ 1 4

    So the groups say of every statement what its signature says, and of nothing else. -/

namespace TemplateMerge

namespace Signature

variable {groups : List (Signature × List Nat)} {s t : Signature} {index : Nat}

/-! ### Groups -/

/-- A statement that is entered comes last in the group of its signature, and in no other. -/
theorem lookup_enter (s t : Signature) (index : Nat) (groups : List (Signature × List Nat)) :
    (enter s index groups).lookup t =
      if t = s then some ((groups.lookup s).getD [] ++ [index]) else groups.lookup t := by
  induction groups with
  | nil => exact lookup_cons_eq_if s t [index] []
  | cons head rest ih =>
    obtain ⟨own, indices⟩ := head
    unfold enter
    split
    · next hown =>
      subst hown
      rw [lookup_cons_eq_if, lookup_cons_eq_if, lookup_cons_eq_if, if_pos rfl, Option.getD_some]
      split <;> rfl
    · next hown =>
      rw [lookup_cons_eq_if, lookup_cons_eq_if, lookup_cons_eq_if, if_neg (Ne.symm hown), ih]
      by_cases ht : t = own
      · rw [if_pos ht, if_pos ht, if_neg (ht ▸ hown)]
      · rw [if_neg ht, if_neg ht]

/-- The groups of a walk are those it began with, and behind them what it has walked over. -/
theorem lookup_foldl_enter (s : Signature) : ∀ (own : List (Option Signature × Nat))
    (groups : List (Signature × List Nat)),
    ((own.foldl (fun groups e => e.1.elim groups (enter · e.2 groups)) groups).lookup s).getD [] =
      (groups.lookup s).getD [] ++ own.filterMap fun e => if e.1 = some s then some e.2 else none
  | [], groups => (List.append_nil _).symm
  | (none, _) :: own, groups => lookup_foldl_enter s own groups
  | (some t, index) :: own, groups => by
    rw [List.foldl_cons, lookup_foldl_enter s own, List.filterMap_cons]
    dsimp only [Option.elim_some]
    rw [lookup_enter]
    by_cases hs : s = t
    · subst hs
      rw [if_pos rfl, if_pos rfl, Option.getD_some, List.append_assoc, List.singleton_append]
    · rw [if_neg hs, if_neg fun h => hs (Option.some.inj h).symm]

theorem mem_names_enter :
    t ∈ (enter s index groups).map Prod.fst ↔ t = s ∨ t ∈ groups.map Prod.fst := by
  induction groups with
  | nil => simp [enter]
  | cons head rest ih =>
    unfold enter
    split
    · next hown => simp [hown]
    · rw [List.map_cons, List.mem_cons, ih, List.map_cons, List.mem_cons, or_left_comm]

theorem nodup_names_enter (h : (groups.map Prod.fst).Nodup) :
    ((enter s index groups).map Prod.fst).Nodup := by
  induction groups with
  | nil => simp [enter]
  | cons head rest ih =>
    obtain ⟨hhead, hrest⟩ := List.nodup_cons.1 h
    unfold enter
    split
    · exact h
    · next hown =>
      refine List.nodup_cons.2 ⟨fun hmem => ?_, ih hrest⟩
      exact (mem_names_enter.1 hmem).elim hown hhead

/-- The signatures with groups are those of the statements, each once. -/
theorem names_foldl_enter : ∀ (own : List (Option Signature × Nat))
    (groups : List (Signature × List Nat)), (groups.map Prod.fst).Nodup →
    let walked := own.foldl (fun groups e => e.1.elim groups (enter · e.2 groups)) groups
    (walked.map Prod.fst).Nodup ∧ ∀ s, s ∈ walked.map Prod.fst ↔
      some s ∈ own.map Prod.fst ∨ s ∈ groups.map Prod.fst
  | [], _, h => ⟨h, fun s => by simp⟩
  | (none, _) :: own, groups, h => by
    obtain ⟨hnodup, hmem⟩ := names_foldl_enter own groups h
    exact ⟨hnodup, fun s => by simpa using hmem s⟩
  | (some t, index) :: own, groups, h => by
    obtain ⟨hnodup, hmem⟩ := names_foldl_enter own (enter t index groups) (nodup_names_enter h)
    refine ⟨hnodup, fun s => (hmem s).trans ?_⟩
    rw [mem_names_enter, List.map_cons, List.mem_cons, Option.some.injEq, or_left_comm, or_assoc]

namespace Index

variable {x : Index} {used : List Bool} {i : Nat}

/-! ### The statements of a signature -/

/-- The statements of a signature are those that have it, in order. -/
theorem indices_eq (x : Index) (s : Signature) :
    x.indices s = x.bySlot.zipIdx.filterMap fun e => if e.1 = some s then some e.2 else none := by
  rw [indices, x.bySignature_eq]
  exact lookup_foldl_enter s x.bySlot.zipIdx []

theorem mem_indices {x : Signature.Index} {s : Signature} {i : Nat} :
    i ∈ x.indices s ↔ x.bySlot[i]? = some (some s) := by
  rw [indices_eq, List.mem_filterMap]
  constructor
  · rintro ⟨⟨own, j⟩, hzip, hown⟩
    have hget := List.mem_zipIdx_iff_getElem?.1 hzip
    dsimp only at hown hget
    split at hown
    · next howns => rw [← Option.some.inj hown, hget, howns]
    · cases hown
  · intro h
    exact ⟨(some s, i), List.mem_zipIdx_iff_getElem?.2 h, if_pos rfl⟩

theorem pairwise_indices (x : Index) (s : Signature) : (x.indices s).Pairwise (· < ·) := by
  have hnumbers : x.bySlot.zipIdx.Pairwise fun a b => a.2 < b.2 := by
    rw [← List.pairwise_map (f := Prod.snd), List.zipIdx_map_snd]
    exact List.pairwise_lt_range'
  rw [indices_eq]
  refine hnumbers.filterMap _ fun a b hlt i hi j hj => ?_
  split at hi <;> split at hj <;> simp_all

theorem signatureOf_eq_some_iff : x.signatureOf i = some s ↔ x.bySlot[i]? = some (some s) :=
  Option.join_eq_some_iff

theorem encard_signatures (x : Index) : {s | some s ∈ x.bySlot}.encard = x.size := by
  obtain ⟨hnodup, hmem⟩ := names_foldl_enter x.bySlot.zipIdx [] List.nodup_nil
  rw [show List.foldl _ _ _ = x.bySignature from x.bySignature_eq.symm] at hnodup hmem
  have hset : {s | some s ∈ x.bySlot} = ((x.bySignature.map Prod.fst).toFinset : Set Signature) := by
    ext s
    rw [Finset.mem_coe, List.mem_toFinset, hmem, List.zipIdx_map_fst]
    simp
  rw [hset, Set.encard_coe_eq_coe_finsetCard, List.toFinset_card_of_nodup hnodup, List.length_map]
  rfl

/-! ### The free statements of a signature -/

/-- The statements with a signature that are not in use.  Those for which `used` says nothing are
    in use. -/
def free (x : Index) (used : List Bool) (s : Signature) : List Nat :=
  (x.indices s).filter fun index => used[index]? == some false

theorem mem_free : i ∈ x.free used s ↔ x.signatureOf i = some s ∧ used[i]? = some false := by
  rw [free, List.mem_filter, mem_indices, signatureOf_eq_some_iff, beq_iff_eq]

theorem pairwise_free (x : Index) (used : List Bool) (s : Signature) :
    (x.free used s).Pairwise (· < ·) :=
  (x.pairwise_indices s).sublist List.filter_sublist

theorem firstUnused_eq_head? (x : Index) (used : List Bool) (s : Signature) :
    x.firstUnused s used = (x.free used s).head? :=
  List.head?_filter.symm

theorem firstUnused_eq_some_iff : x.firstUnused s used = some i ↔
    IsLeast {j | x.signatureOf j = some s ∧ used[j]? = some false} i := by
  have hset : {j | x.signatureOf j = some s ∧ used[j]? = some false} = {j | j ∈ x.free used s} :=
    Set.ext fun j => mem_free.symm
  rw [firstUnused_eq_head?, hset]
  cases hfree : x.free used s with
  | nil => simp [IsLeast]
  | cons j rest =>
    have hsorted := x.pairwise_free used s
    rw [hfree] at hsorted
    have hleast : IsLeast {k | k ∈ j :: rest} j := by
      refine ⟨List.mem_cons_self, fun k hk => ?_⟩
      rcases List.mem_cons.1 hk with rfl | hk
      · exact Nat.le_refl k
      · exact Nat.le_of_lt ((List.pairwise_cons.1 hsorted).1 k hk)
    rw [List.head?_cons, Option.some.injEq]
    exact ⟨fun h => h ▸ hleast, hleast.unique⟩

theorem firstUnused_eq_none_iff : x.firstUnused s used = none ↔
    ∀ j, x.signatureOf j = some s → used[j]? ≠ some false := by
  rw [firstUnused_eq_head?, List.head?_eq_none_iff, List.eq_nil_iff_forall_not_mem]
  simp only [mem_free, not_and, ne_eq]

end Index

end Signature

end TemplateMerge
