import TemplateMerge.Proofs.Format.OutlineBranches
import TemplateMerge.Proofs.Format.OutlineHeadings

/-! Ways through the tree of an outline.

    What hangs under a parent, or under none, are the nodes that name it, in the order of the
    document.  The node before and the node after are neighbours in that list:

        node           # A     text    ## B    more    ## C    # D
        number          0       1       2       3       4       5
        parent          ·       0       0       2       0       ·

        roots           0  5
        under 0         1  2  4              next of 2 is 4, and 2 is the one before 4
        under 2         3

    Every node has one parent or none, so it stands in just one of these lists. -/

namespace TemplateMerge

namespace Outline

variable {markers : MarkerRegistry} {source : Text} {d : Document Node}

/-! ### Nodes and their numbers -/

theorem pairwise_index (h : parse markers source = .ok d) :
    d.nodes.Pairwise fun a b => a.index.val < b.index.val := by
  rw [nodes_of_parse h, Node.all]
  refine List.pairwise_map.2 ?_
  exact (List.pairwise_lt_finRange _).imp fun hlt => hlt

theorem kind_of_index (h : parse markers source = .ok d) {n : Node} (hn : n ∈ d.nodes) :
    (kindsOf d)[n.index.val]? = some n.entry.kind := by
  rw [kindsOf, List.getElem?_map, getElem?_index h hn, Option.map_some]

theorem index_lt (h : parse markers source = .ok d) {n : Node} (hn : n ∈ d.nodes) :
    n.index.val < (kindsOf d).length :=
  (List.getElem?_eq_some_iff.1 (kind_of_index h hn)).1

/-! ### Parents -/

/-- A heading that a node may hang under: it comes before the node and, if that is a heading too,
    has fewer signs. -/
structure Node.Leads (m n : Node) : Prop where
  before : m.index.val < n.index.val
  heading : ∃ level, m.entry.kind = .heading level ∧
    ∀ own, n.entry.kind = .heading own → level < own

theorem leads_iff (h : parse markers source = .ok d) {m n : Node} (hm : m ∈ d.nodes)
    (hn : n ∈ d.nodes) : m.Leads n ↔ LeadsAt (kindsOf d) m.index.val n.index.val := by
  simp only [LeadsAt, kind_of_index h hm, kind_of_index h hn, Option.some.injEq]
  exact ⟨fun ⟨hbefore, hheading⟩ => ⟨hbefore, hheading⟩,
    fun ⟨hbefore, hheading⟩ => ⟨hbefore, hheading⟩⟩

/-- What may be led by its number is a node. -/
theorem exists_leader (h : parse markers source = .ok d) {k : Nat} {n : Node}
    (hk : LeadsAt (kindsOf d) k n.index.val) : ∃ m ∈ d.nodes, m.index.val = k := by
  obtain ⟨-, level, hlevel, -⟩ := hk
  rw [kindsOf, List.getElem?_map] at hlevel
  obtain ⟨m, hm, -⟩ := Option.map_eq_some_iff.1 hlevel
  have hmem := List.mem_of_getElem? hm
  refine ⟨m, hmem, ?_⟩
  have hlt := (List.getElem?_eq_some_iff.1 hm).1
  exact ((List.getElem?_inj hlt (nested h).distinct).1 (hm.trans (getElem?_index h hmem).symm)).symm

theorem parent_eq_some_iff (h : parse markers source = .ok d) {m n : Node} (hm : m ∈ d.nodes)
    (hn : n ∈ d.nodes) :
    NodeView.parent n = .ok (some m) ↔ n.entry.parent = some m.index.val := by
  rw [parentNumber_of_parse h (getElem?_index h hn)]
  exact (nested h).parent_iff (getElem?_index h hn) (getElem?_index h hm)

theorem parent_eq_none_iff (h : parse markers source = .ok d) {n : Node} (hn : n ∈ d.nodes) :
    NodeView.parent n = .ok none ↔ n.entry.parent = none := by
  have hget := getElem?_index h hn
  rw [parent_of_parse h hget, parentNumber_of_parse h hget, Except.ok.injEq]
  cases hhead : (lineage (kindsOf d) n.index.val).head? with
  | none => simp
  | some k =>
    have hlt : k < d.nodes.length :=
      Nat.lt_trans ((nested h).before _ k (List.mem_of_head? hhead))
        (List.getElem?_eq_some_iff.1 hget).1
    simp [List.getElem?_eq_getElem hlt]

/-! ### Children and roots -/

/-- The nodes that hang under no other. -/
def roots (d : Document Node) : List Node := d.nodes.head?.elim [] (·.under none)

/-- The nodes under one parent, or the roots. -/
def AreSiblings (d : Document Node) (l : List Node) : Prop :=
  l = roots d ∨ ∃ p ∈ d.nodes, l = p.children

theorem roots_eq_filter (h : parse markers source = .ok d) :
    roots d = d.nodes.filter (·.entry.parent = none) := by
  rw [roots]
  cases hhead : d.nodes.head? with
  | none => rw [List.head?_eq_none_iff.1 hhead]; rfl
  | some n => exact under_eq_filter h (List.mem_of_head? hhead) none

theorem mem_children (h : parse markers source = .ok d) {m n : Node} (hn : n ∈ d.nodes) :
    m ∈ n.children ↔ m ∈ d.nodes ∧ m.entry.parent = some n.index.val := by
  rw [Node.children, under_eq_filter h hn, List.mem_filter, decide_eq_true_iff]

theorem mem_roots (h : parse markers source = .ok d) {m : Node} :
    m ∈ roots d ↔ m ∈ d.nodes ∧ m.entry.parent = none := by
  rw [roots_eq_filter h, List.mem_filter, decide_eq_true_iff]

/-- Siblings are the nodes with the parent of any one of them. -/
theorem AreSiblings.eq_under (h : parse markers source = .ok d) {l : List Node}
    (hl : AreSiblings d l) {n : Node} (hn : n ∈ l) :
    n ∈ d.nodes ∧ n.under n.entry.parent = l := by
  rcases hl with rfl | ⟨p, hp, rfl⟩
  · obtain ⟨hmem, hparent⟩ := (mem_roots h).1 hn
    exact ⟨hmem, by rw [under_eq_filter h hmem, hparent, roots_eq_filter h]⟩
  · obtain ⟨hmem, hparent⟩ := (mem_children h hp).1 hn
    exact ⟨hmem, by rw [under_eq_filter h hmem, hparent, Node.children, under_eq_filter h hp]⟩

theorem AreSiblings.pairwise (h : parse markers source = .ok d) {l : List Node}
    (hl : AreSiblings d l) : l.Pairwise fun a b => a.index.val < b.index.val := by
  rcases hl with rfl | ⟨p, hp, rfl⟩
  · rw [roots_eq_filter h]
    exact (pairwise_index h).filter _
  · rw [Node.children, under_eq_filter h hp]
    exact (pairwise_index h).filter _

/-- Every node is one of some siblings. -/
theorem exists_siblings (h : parse markers source = .ok d) {n : Node} (hn : n ∈ d.nodes) :
    ∃ l, AreSiblings d l ∧ n ∈ l := by
  cases hparent : n.entry.parent with
  | none => exact ⟨roots d, .inl rfl, (mem_roots h).2 ⟨hn, hparent⟩⟩
  | some k =>
    have hhead := parentNumber_of_parse h (getElem?_index h hn)
    rw [hparent] at hhead
    obtain ⟨p, hp, rfl⟩ := exists_leader h (leadsAt_of_mem (List.mem_of_head? hhead.symm))
    exact ⟨p.children, .inr ⟨p, hp, rfl⟩, (mem_children h hp).2 ⟨hn, hparent⟩⟩

theorem AreSiblings.nodup (h : parse markers source = .ok d) {l : List Node}
    (hl : AreSiblings d l) : l.Nodup := by
  refine (hl.pairwise h).imp fun hlt heq => ?_
  rw [heq] at hlt
  exact Nat.lt_irrefl _ hlt

/-- A node is a child of one node only. -/
theorem eq_of_mem_children (h : parse markers source = .ok d) {p q m : Node} (hp : p ∈ d.nodes)
    (hq : q ∈ d.nodes) (hmp : m ∈ p.children) (hmq : m ∈ q.children) : p = q := by
  have hsame := ((mem_children h hp).1 hmp).2.symm.trans ((mem_children h hq).1 hmq).2
  have hget := getElem?_index h hp
  rw [Option.some.inj hsame, getElem?_index h hq] at hget
  exact (Option.some.inj hget).symm

/-- The roots and the children of all nodes are the nodes, each of them once. -/
theorem perm_children (h : parse markers source = .ok d) :
    (roots d ++ d.nodes.flatMap Node.children).Perm d.nodes := by
  have hdistinct : d.nodes.Nodup := (nested h).distinct
  have hchildren : (d.nodes.flatMap Node.children).Nodup := by
    refine List.nodup_flatMap.2 ⟨fun p hp => AreSiblings.nodup h (.inr ⟨p, hp, rfl⟩), ?_⟩
    exact hdistinct.imp_of_mem fun hp hq hne m hmp hmq => hne (eq_of_mem_children h hp hq hmp hmq)
  have hnodup : (roots d ++ d.nodes.flatMap Node.children).Nodup := by
    refine List.nodup_append.2 ⟨AreSiblings.nodup h (.inl rfl), hchildren, ?_⟩
    rintro m hroot _ hchild rfl
    obtain ⟨p, hp, hm⟩ := List.mem_flatMap.1 hchild
    have hparent := ((mem_children h hp).1 hm).2
    rw [((mem_roots h).1 hroot).2] at hparent
    cases hparent
  refine (List.perm_ext_iff_of_nodup hnodup hdistinct).2 fun m => ?_
  constructor
  · intro hm
    rcases List.mem_append.1 hm with hm | hm
    · exact ((mem_roots h).1 hm).1
    · obtain ⟨p, hp, hm⟩ := List.mem_flatMap.1 hm
      exact ((mem_children h hp).1 hm).1
  · intro hm
    obtain ⟨l, rfl | ⟨p, hp, rfl⟩, hl⟩ := exists_siblings h hm
    · exact List.mem_append_left _ hl
    · exact List.mem_append_right _ (List.mem_flatMap.2 ⟨p, hp, hl⟩)

/-! ### Siblings -/

theorem AreSiblings.siblings (h : parse markers source = .ok d) {l : List Node}
    (hl : AreSiblings d l) {n : Node} (hn : n ∈ l) :
    n.siblings = (l.map (·.index.val)).toArray := by
  obtain ⟨hmem, hunder⟩ := hl.eq_under h hn
  rw [← hunder, ← siblings_of_parse h hmem]

theorem AreSiblings.idxOf?_index (h : parse markers source = .ok d) {l : List Node}
    (hl : AreSiblings d l) {i : Nat} {n : Node} (hi : l[i]? = some n) :
    n.siblings.idxOf? n.index.val = some i := by
  have hdistinct : (l.map fun m : Node => m.index.val).Nodup :=
    List.pairwise_map.2 ((hl.pairwise h).imp Nat.ne_of_lt)
  have hnumber : (l.map fun m : Node => m.index.val)[i]? = some n.index.val := by
    rw [List.getElem?_map, hi, Option.map_some]
  obtain ⟨hlt, hget⟩ := List.getElem?_eq_some_iff.1 hnumber
  rw [hl.siblings h (List.mem_of_getElem? hi), List.idxOf?_toArray, List.idxOf?_eq_some_iff]
  refine ⟨hlt, hget, fun j hj heq => Nat.ne_of_lt hj ?_⟩
  exact hdistinct.getElem_inj_iff.1 (heq.trans hget.symm)

/-- Places further on or before are counted among the siblings. -/
theorem AreSiblings.siblingAt? (h : parse markers source = .ok d) {l : List Node}
    (hl : AreSiblings d l) {i : Nat} {n : Node} (hi : l[i]? = some n) (offset : Int) :
    n.siblingAt? offset = (i + offset : Int).toNat?.bind (l[·]?) := by
  have hmem := List.mem_of_getElem? hi
  have hnode : ∀ j : Nat, (n.siblings[j]?).bind n.at? = l[j]? := by
    intro j
    rw [hl.siblings h hmem, List.getElem?_toArray, List.getElem?_map, Option.bind_map]
    cases hj : l[j]? with
    | none => rfl
    | some m =>
      obtain ⟨hm, -⟩ := hl.eq_under h (List.mem_of_getElem? hj)
      exact at?_index h (hl.eq_under h hmem).1 hm
  rw [Node.siblingAt?, hl.idxOf?_index h hi, Option.bind_some, Option.bind_assoc]
  exact congrArg _ (funext hnode)

/-- The next sibling and the one before are the neighbours among the siblings. -/
theorem AreSiblings.neighbours (h : parse markers source = .ok d) {l : List Node}
    (hl : AreSiblings d l) {i : Nat} {n : Node} (hi : l[i]? = some n) :
    n.siblingAt? 1 = l[i + 1]? ∧ n.siblingAt? (-1) = if i = 0 then none else l[i - 1]? := by
  constructor
  · rw [hl.siblingAt? h hi]
    rfl
  · rw [hl.siblingAt? h hi]
    cases i with
    | zero => rfl
    | succ i =>
      have hback : ((i + 1 : Nat) : Int) + -1 = i := by omega
      rw [hback, if_neg (Nat.succ_ne_zero i)]
      rfl

/-- A node comes next just after those that it comes after. -/
theorem next_iff_previous (h : parse markers source = .ok d) {n m : Node} (hn : n ∈ d.nodes)
    (hm : m ∈ d.nodes) : n.siblingAt? 1 = some m ↔ m.siblingAt? (-1) = some n := by
  constructor
  · intro hnext
    obtain ⟨l, hl, hmem⟩ := exists_siblings h hn
    obtain ⟨i, hi⟩ := List.mem_iff_getElem?.1 hmem
    rw [(hl.neighbours h hi).1] at hnext
    rw [(hl.neighbours h hnext).2]
    exact hi
  · intro hprevious
    obtain ⟨l, hl, hmem⟩ := exists_siblings h hm
    obtain ⟨i, hi⟩ := List.mem_iff_getElem?.1 hmem
    rw [(hl.neighbours h hi).2] at hprevious
    split at hprevious
    · cases hprevious
    · next hpos =>
      rw [(hl.neighbours h hprevious).1, Nat.sub_add_cancel (by omega)]
      exact hi

theorem parent_of_siblingAt? (h : parse markers source = .ok d) {n m : Node} (hn : n ∈ d.nodes)
    {offset : Int} (hm : n.siblingAt? offset = some m) :
    m ∈ d.nodes ∧ m.entry.parent = n.entry.parent := by
  obtain ⟨l, hl, hmem⟩ := exists_siblings h hn
  obtain ⟨i, hi⟩ := List.mem_iff_getElem?.1 hmem
  rw [hl.siblingAt? h hi, Option.bind_eq_some_iff] at hm
  obtain ⟨j, -, hj⟩ := hm
  have hsibling := List.mem_of_getElem? hj
  rw [← (hl.eq_under h hmem).2, under_eq_filter h hn, List.mem_filter, decide_eq_true_iff]
    at hsibling
  exact hsibling

end Outline

end TemplateMerge
