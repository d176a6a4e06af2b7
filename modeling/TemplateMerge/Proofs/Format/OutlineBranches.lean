import Mathlib.Data.List.Induction
import TemplateMerge.Proofs.Format.OutlineTree

/-! The branches of an outline.

    Nodes are hung one after the other, each of them at the end of what hangs under its parent by
    then.  So what hangs under a parent, or under none, are the nodes that name it, in the order of
    the document:

        node        # A     text    ## B    more    # C
        parent       ·       0       0       2       ·
        roots        0       0       0       0       0 4
        under 0              1      1 2     1 2     1 2
        under 2                              3       3 -/

namespace TemplateMerge

namespace Outline

namespace Branches

variable {b : Branches} {parent : Option Nat}

@[simp] theorem size_hang : (b.hang parent).children.size = b.children.size + 1 := by
  cases parent <;> simp [hang]

theorem getD_push_empty (lists : Array (Array Nat)) (q : Nat) :
    (lists.push #[]).getD q #[] = lists.getD q #[] := by
  simp only [Array.getD_eq_getD_getElem?, Array.getElem?_push]
  split
  · next h => rw [h, Array.getElem?_size]; rfl
  · rfl

/-- A node is hung at the end of what hangs under its parent, and nowhere else. -/
theorem under_hang (h : ∀ p, parent = some p → p < b.children.size) (q : Option Nat) :
    (b.hang parent).under q =
      if parent = q then (b.under q).push b.children.size else b.under q := by
  cases parent with
  | none =>
    cases q with
    | none => rw [if_pos rfl]; rfl
    | some q => exact getD_push_empty b.children q
  | some p =>
    cases q with
    | none => rfl
    | some q =>
      rw [hang, under, getD_push_empty, under, Array.getD_eq_getD_getElem?,
        Array.getD_eq_getD_getElem?, Array.getElem?_modify]
      by_cases hpq : p = q
      · obtain rfl := hpq
        rw [if_pos rfl, if_pos rfl, Array.getElem?_eq_getElem (h p rfl)]
        rfl
      · rw [if_neg hpq, if_neg (by simpa using hpq)]

end Branches

/-- A tree whose parents come before the nodes under them. -/
def Upward (t : Tree) : Prop :=
  ∀ (i : Nat) (e : Entry), t[i]? = some e → ∀ p, e.parent = some p → p < i

theorem branches_append (t : Tree) (e : Entry) :
    branches (t ++ [e]) = (branches t).hang e.parent := by
  rw [branches, List.foldl_append]
  rfl

@[simp] theorem size_branches (t : Tree) : (branches t).children.size = t.length := by
  induction t using List.reverseRecOn with
  | nil => rfl
  | append_singleton t e ih => rw [branches_append, Branches.size_hang, ih]; simp

/-- What hangs under a parent are the nodes that name it, in order. -/
theorem under_branches {t : Tree} (h : Upward t) (q : Option Nat) :
    ((branches t).under q).toList =
      (List.range t.length).filter fun i => t[i]?.map (·.parent) = some q := by
  induction t using List.reverseRecOn with
  | nil => cases q <;> rfl
  | append_singleton t e ih =>
    have hbefore : Upward t := fun i x hx => by
      refine h i x ?_
      rw [List.getElem?_append_left (List.getElem?_eq_some_iff.1 hx).1]
      exact hx
    have hlast : ∀ p, e.parent = some p → p < (branches t).children.size := by
      rw [size_branches]
      exact h t.length e (by simp)
    have hsame : ((List.range t.length).filter fun i => (t ++ [e])[i]?.map (·.parent) = some q) =
        (List.range t.length).filter fun i => t[i]?.map (·.parent) = some q := by
      refine List.filter_congr fun i hi => ?_
      rw [List.getElem?_append_left (List.mem_range.1 hi)]
    rw [branches_append, Branches.under_hang hlast, List.length_append, List.length_singleton,
      List.range_succ, List.filter_append, hsame, ← ih hbefore, size_branches]
    by_cases hq : e.parent = q
    · rw [if_pos hq, Array.toList_push, List.filter_cons_of_pos (by simp [hq])]
      rfl
    · rw [if_neg hq, List.filter_cons_of_neg (by simp [hq])]
      simp

/-- By the nodes: what hangs under a parent are those that name it. -/
theorem under_branches_all {t : Tree} (h : Upward t) (q : Option Nat) :
    ((branches t).under q).toList =
      ((Node.all t).filter (·.entry.parent = q)).map (·.index.val) := by
  have hparent : ∀ i : Fin t.length,
      t[i.val]?.map (·.parent) = some (Node.mk t i).entry.parent := by
    intro i
    rw [List.getElem?_eq_getElem i.isLt]
    rfl
  rw [under_branches h, Node.all, List.filter_map, List.map_map,
    ← List.map_coe_finRange_eq_range, List.filter_map]
  refine congrArg (List.map _) (List.filter_congr fun i _ => ?_)
  rw [Function.comp_apply, hparent, Function.comp_apply]
  exact decide_eq_decide.2 Option.some_inj

variable {markers : MarkerRegistry} {source : Text} {d : Document Node}

theorem all_tree (h : parse markers source = .ok d) {n : Node} (hn : n ∈ d.nodes) :
    Node.all n.tree = d.nodes := by
  have hall := nodes_of_parse h
  rw [hall] at hn ⊢
  obtain ⟨i, -, rfl⟩ := List.mem_map.1 hn
  rfl

theorem getElem?_index (h : parse markers source = .ok d) {n : Node} (hn : n ∈ d.nodes) :
    d.nodes[n.index.val]? = some n := by
  have hall := nodes_of_parse h
  rw [hall] at hn ⊢
  obtain ⟨i, -, rfl⟩ := List.mem_map.1 hn
  rw [getElem?_all, dif_pos i.isLt]

/-- Every node finds every other by its number. -/
theorem at?_index (h : parse markers source = .ok d) {n m : Node} (hn : n ∈ d.nodes)
    (hm : m ∈ d.nodes) : n.at? m.index.val = some m := by
  have hall := all_tree h hn
  rw [at?_of_mem (t := n.tree) (by rw [hall]; exact hn), hall, getElem?_index h hm]

theorem upward_of_parse (h : parse markers source = .ok d) {n : Node} (hn : n ∈ d.nodes) :
    Upward n.tree := by
  have hall := all_tree h hn
  intro i e he p hp
  have hentry : d.nodes[i]?.map (·.entry) = some e := by
    rw [← hall, ← List.getElem?_map, entry_all, he]
  obtain ⟨m, hm, rfl⟩ := Option.map_eq_some_iff.1 hentry
  rw [parentNumber_of_parse h hm] at hp
  exact (nested h).before i p (List.mem_of_head? hp)

theorem under_eq_filter (h : parse markers source = .ok d) {n : Node} (hn : n ∈ d.nodes)
    (q : Option Nat) : n.under q = d.nodes.filter (·.entry.parent = q) := by
  rw [Node.under, under_branches_all (upward_of_parse h hn), all_tree h hn, List.filterMap_map]
  calc (d.nodes.filter (·.entry.parent = q)).filterMap (n.at? ∘ fun m : Node => m.index.val)
      = (d.nodes.filter (·.entry.parent = q)).filterMap some :=
        List.filterMap_congr fun m hm => at?_index h hn (List.mem_of_mem_filter hm)
    _ = d.nodes.filter (·.entry.parent = q) := List.filterMap_some

theorem siblings_of_parse (h : parse markers source = .ok d) {n : Node} (hn : n ∈ d.nodes) :
    n.siblings.toList = (n.under n.entry.parent).map (·.index.val) := by
  rw [Node.siblings, under_branches_all (upward_of_parse h hn), all_tree h hn,
    under_eq_filter h hn]

end Outline

end TemplateMerge
