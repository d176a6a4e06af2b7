import Mathlib.Data.Set.Card
import TemplateMerge.Proofs.Document.Subtree

/-! Ancestors of nodes in preorder.

    A node's ancestors, innermost first, have smaller and smaller numbers, so none is there twice:
    the walk to the root passes each of them once, and counts them (`encard_below`).

        number       0    1    2     3       4
        ancestors    ·    0    0    2 0      0
        depth        0    1    1    2        1 -/

namespace TemplateMerge

variable {N : Type} [NodeView N]

namespace Nested

variable {nodes : List N} {lineage : Nat → List Nat}

/-- Numbers of ancestors decrease outwards. -/
theorem pairwise_of_suffix (h : Nested nodes lineage) (i : Nat) : ∀ {ancestors : List Nat},
    ancestors <:+ lineage i → ancestors.Pairwise (· > ·)
  | [], _ => .nil
  | j :: rest, hsuffix => by
    refine List.pairwise_cons.2 ⟨fun k hk => ?_, ?_⟩
    · refine h.before j k ?_
      rwa [h.above i j rest hsuffix]
    · exact h.pairwise_of_suffix i ((List.suffix_cons j rest).trans hsuffix)

theorem pairwise_lineage (h : Nested nodes lineage) (i : Nat) : (lineage i).Pairwise (· > ·) :=
  h.pairwise_of_suffix i (List.suffix_refl _)

theorem parent_mem (h : Nested nodes lineage) {n m : N} (hn : n ∈ nodes)
    (hm : NodeView.parent n = .ok (some m)) : m ∈ nodes := by
  obtain ⟨i, hi⟩ := List.mem_iff_getElem?.1 hn
  rw [h.parent i n hi, Except.ok.injEq, Option.bind_eq_some_iff] at hm
  obtain ⟨j, -, hj⟩ := hm
  exact List.mem_of_getElem? hj

theorem mem_of_below (h : Nested nodes lineage) {n m : N} (hn : n ∈ nodes) (hbelow : Below n m) :
    m ∈ nodes := by
  induction hbelow with
  | single hparent => exact h.parent_mem hn hparent
  | tail _ hparent ih => exact h.parent_mem ih hparent

theorem above_eq_image (h : Nested nodes lineage) {i : Nat} {n : N} (hn : nodes[i]? = some n) :
    some '' {m | Below n m} = (nodes[·]?) '' {j | j ∈ lineage i} := by
  ext m
  constructor
  · rintro ⟨m, hbelow, rfl⟩
    obtain ⟨j, hj⟩ := List.mem_iff_getElem?.1 (h.mem_of_below (List.mem_of_getElem? hn) hbelow)
    exact ⟨j, (h.below_iff hn hj).1 hbelow, hj⟩
  · rintro ⟨j, hj, rfl⟩
    have hlt : j < nodes.length :=
      Nat.lt_trans (h.before i j hj) (List.getElem?_eq_some_iff.1 hn).1
    have hget : nodes[j]? = some nodes[j] := List.getElem?_eq_getElem hlt
    exact ⟨nodes[j], (h.below_iff hn hget).2 hj, hget.symm⟩

/-- There are as many nodes above a node as it has ancestors. -/
theorem encard_below (h : Nested nodes lineage) {i : Nat} {n : N} (hn : nodes[i]? = some n) :
    {m | Below n m}.encard = (lineage i).length := by
  have hinj : Set.InjOn (nodes[·]?) {j | j ∈ lineage i} := by
    intro j hj k _ hjk
    have hlt : j < nodes.length :=
      Nat.lt_trans (h.before i j hj) (List.getElem?_eq_some_iff.1 hn).1
    exact (List.getElem?_inj hlt h.distinct).1 hjk
  have hnodup : (lineage i).Nodup := (h.pairwise_lineage i).imp Nat.ne_of_gt
  calc {m | Below n m}.encard
      = (some '' {m | Below n m}).encard :=
        ((Option.some_injective N).encard_image _).symm
    _ = {j | j ∈ lineage i}.encard := by rw [h.above_eq_image hn, hinj.encard_image]
    _ = ((lineage i).toFinset : Set Nat).encard := by
        congr 1
        ext j
        simp
    _ = (lineage i).length := by
        rw [Set.encard_coe_eq_coe_finsetCard, List.toFinset_card_of_nodup hnodup]

theorem depth_eq_encard (h : Nested nodes lineage) {s : Statement N} (hs : s ∈ statements nodes) :
    {m | Below s.node m}.encard = s.depth := by
  rw [h.encard_below (getElem?_nodes hs), h.depth_eq hs]

end Nested

end TemplateMerge
