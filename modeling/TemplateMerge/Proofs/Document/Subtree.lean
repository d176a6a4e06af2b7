import Mathlib.Logic.Relation
import Mathlib.Order.Bounds.Basic
import TemplateMerge.Proofs.Merge.Widening

/-! Subtrees are runs of statements.

    Where the nodes of a document stand in preorder, a node's ancestors, innermost first, are some
    of the last of the node before and its ancestors.  So a node stays an ancestor until a node
    comes that is no deeper, and then never again: its subtree is a run.

        number       0    1    2     3       4    5
        ancestors    ·    0    0    2 0      0    ·
        depth        0    1    1    2        1    0
        below 2                     ────            up to the next that is no deeper

    Where statements also tile the lines of the document, the run ends on the line before that
    statement. -/

namespace TemplateMerge

variable {N : Type}

variable [NodeView N]

/-- A node hangs below another, at whatever depth. -/
def Below : N → N → Prop := Relation.TransGen fun n above => NodeView.parent n = .ok (some above)

/-- The greatest line of a statement and of all that hangs below it. -/
def Document.IsSubtreeEnd (d : Document N) (a : Statement N) (line : Nat) : Prop :=
  IsGreatest {l | ∃ s ∈ statements d.nodes, (s = a ∨ Below s.node a.node) ∧
    s.position.endLine = l} line

/-- Nodes in preorder: the ancestors of the node numbered `i` are those with the numbers
    `lineage i`, innermost first. -/
structure Nested (nodes : List N) (lineage : Nat → List Nat) : Prop where
  navigable : ∀ n ∈ nodes, NodeView.navigable n = true
  distinct : nodes.Nodup
  /-- The parent is the innermost ancestor. -/
  parent : ∀ (i : Nat) (n : N), nodes[i]? = some n →
    NodeView.parent n = .ok ((lineage i).head?.bind (nodes[·]?))
  /-- Ancestors come before. -/
  before : ∀ i, ∀ j ∈ lineage i, j < i
  /-- The ancestors of an ancestor are those further out. -/
  above : ∀ (i j : Nat) (rest : List Nat), j :: rest <:+ lineage i → lineage j = rest
  /-- Ancestors are taken over from the node before. -/
  preorder : ∀ i, lineage (i + 1) <:+ i :: lineage i
  /-- A walk to the root does not give up. -/
  shallow : ∀ i, (lineage i).length ≤ Statement.depthLimit

namespace Nested

variable {nodes : List N} {lineage : Nat → List Nat}

/-! ### Depths -/

theorem stepsUp_eq (h : Nested nodes lineage) : ∀ {ancestors : List Nat} {limit i : Nat} {n : N},
    lineage i = ancestors → nodes[i]? = some n → ancestors.length ≤ limit →
      Statement.stepsUp limit n = ancestors.length := by
  intro ancestors
  induction ancestors with
  | nil =>
    intro limit i n hlineage hn _
    cases limit with
    | zero => rfl
    | succ limit =>
      rw [Statement.stepsUp, h.parent i n hn, hlineage]
      rfl
  | cons j rest ih =>
    intro limit i n hlineage hn hle
    obtain ⟨limit, rfl⟩ := Nat.exists_eq_add_of_le' (Nat.le_trans (Nat.le_add_left 1 _) hle)
    have hlt : j < nodes.length :=
      Nat.lt_trans (h.before i j (by rw [hlineage]; exact List.mem_cons_self))
        (List.getElem?_eq_some_iff.1 hn).1
    have hj : nodes[j]? = some nodes[j] := List.getElem?_eq_getElem hlt
    have hrest : lineage j = rest := h.above i j rest ⟨[], hlineage.symm⟩
    rw [Statement.stepsUp, h.parent i n hn, hlineage, List.head?_cons, Option.bind_some, hj]
    dsimp only
    rw [ih hrest hj (Nat.le_of_succ_le_succ hle), List.length_cons]

theorem depth_eq (h : Nested nodes lineage) {s : Statement N} (hs : s ∈ statements nodes) :
    s.depth = (lineage s.index).length := by
  have hn := getElem?_nodes hs
  have hnavigable : s.navigable = true := h.navigable s.node (List.mem_of_getElem? hn)
  rw [Statement.depth, if_pos hnavigable]
  exact h.stepsUp_eq rfl hn (h.shallow s.index)

/-! ### Ancestors -/

theorem parent_iff (h : Nested nodes lineage) {i j : Nat} {n m : N} (hn : nodes[i]? = some n)
    (hm : nodes[j]? = some m) :
    NodeView.parent n = .ok (some m) ↔ (lineage i).head? = some j := by
  rw [h.parent i n hn, Except.ok.injEq, Option.bind_eq_some_iff]
  constructor
  · rintro ⟨k, hk, hkm⟩
    have hkj : k = j := by
      obtain ⟨hlt, -⟩ := List.getElem?_eq_some_iff.1 hkm
      exact (List.getElem?_inj hlt h.distinct).1 (hkm.trans hm.symm)
    rw [hk, hkj]
  · intro hj
    exact ⟨j, hj, hm⟩

theorem below_iff (h : Nested nodes lineage) {i j : Nat} {n m : N} (hn : nodes[i]? = some n)
    (hm : nodes[j]? = some m) : Below n m ↔ j ∈ lineage i := by
  constructor
  · intro hbelow
    -- the first step leads to the innermost ancestor, and the others to those further out
    induction hbelow using Relation.TransGen.head_induction_on generalizing i with
    | single hstep => exact List.mem_of_head? ((h.parent_iff hn hm).1 hstep)
    | @head n above hstep _ ih =>
      have hparent := h.parent i n hn
      rw [hstep, Except.ok.injEq, eq_comm, Option.bind_eq_some_iff] at hparent
      obtain ⟨k, hk, habove⟩ := hparent
      obtain ⟨rest, hrest⟩ := List.head?_eq_some_iff.1 hk
      have hmem := ih habove
      rw [h.above i k rest ⟨[], hrest.symm⟩] at hmem
      rw [hrest]
      exact List.mem_cons_of_mem k hmem
  · intro hmem
    obtain ⟨ancestors, hlineage⟩ : ∃ ancestors, lineage i = ancestors := ⟨_, rfl⟩
    induction ancestors generalizing i n with
    | nil => rw [hlineage] at hmem; cases hmem
    | cons k rest ih =>
      have hk : k < nodes.length :=
        Nat.lt_trans (h.before i k (by rw [hlineage]; exact List.mem_cons_self))
          (List.getElem?_eq_some_iff.1 hn).1
      have hget : nodes[k]? = some nodes[k] := List.getElem?_eq_getElem hk
      have hstep : NodeView.parent n = .ok (some nodes[k]) :=
        (h.parent_iff hn hget).2 (by rw [hlineage, List.head?_cons])
      have hrest : lineage k = rest := h.above i k rest ⟨[], hlineage.symm⟩
      rw [hlineage] at hmem
      rcases List.mem_cons.1 hmem with rfl | hmem
      · rw [hm] at hget
        exact .single (hstep.trans (by rw [Option.some.inj hget]))
      · exact .head hstep (ih hget (by rw [hrest]; exact hmem) hrest)

/-! ### Runs -/

/-- While nodes are deeper than an earlier one, it is their ancestor, with all of its own. -/
theorem suffix_of_deeper (h : Nested nodes lineage) {a n : Nat} (hlt : a < n)
    (hdeeper : ∀ k, a < k → k ≤ n → (lineage a).length < (lineage k).length) :
    a :: lineage a <:+ lineage n := by
  induction n, hlt using Nat.le_induction with
  | base =>
    exact List.suffix_of_suffix_length_le (List.suffix_refl _) (h.preorder a)
      (hdeeper (a + 1) (Nat.lt_succ_self a) (Nat.le_refl _))
  | succ n hn ih =>
    have hbefore := ih fun k hk hle => hdeeper k hk (Nat.le_succ_of_le hle)
    exact List.suffix_of_suffix_length_le (hbefore.trans (List.suffix_cons n _)) (h.preorder n)
      (hdeeper (n + 1) (Nat.lt_succ_of_lt hn) (Nat.le_refl _))

/-- Once a node has come that is no deeper, an earlier one is no ancestor any more. -/
theorem not_mem_of_shallower (h : Nested nodes lineage) {a e n : Nat} (hlt : a < e) (hle : e ≤ n)
    (hdepth : (lineage e).length ≤ (lineage a).length) : a ∉ lineage n := by
  induction n, hle using Nat.le_induction with
  | base =>
    intro hmem
    obtain ⟨inner, outer, hcut⟩ := List.append_of_mem hmem
    have hsuffix : a :: outer <:+ lineage e := ⟨inner, hcut.symm⟩
    rw [← h.above e a outer hsuffix] at hsuffix
    have := hsuffix.length_le
    rw [List.length_cons] at this
    omega
  | succ n hn ih =>
    intro hmem
    rcases List.mem_cons.1 ((h.preorder n).subset hmem) with rfl | hmem
    · omega
    · exact ih hmem

/-- The nodes below another are those after it, up to the first that is no deeper. -/
theorem mem_lineage_iff (h : Nested nodes lineage) {a n : Nat} :
    a ∈ lineage n ↔
      a < n ∧ ∀ k, a < k → k ≤ n → (lineage a).length < (lineage k).length := by
  constructor
  · intro hmem
    refine ⟨h.before n a hmem, fun k hak hkn => Nat.lt_of_not_le fun hle => ?_⟩
    exact h.not_mem_of_shallower hak hkn hle hmem
  · rintro ⟨hlt, hdeeper⟩
    exact (h.suffix_of_deeper hlt hdeeper).subset List.mem_cons_self

end Nested

namespace Prepared

variable {format : Format N} {d : Document N} {lineage : Nat → List Nat}

theorem lineBeforeNext_of_tiles (ht : Tiles (d.lineCount + 1) 1 (d.nodes.map NodeView.position))
    {s : Statement N} (hs : s ∈ statements d.nodes) :
    (make format d).lineBeforeNext s.index = s.position.endLine := by
  rw [← map_position_statements] at ht
  have hget := getElem?_of_mem_statements hs
  obtain ⟨hnext, hlast⟩ := ht.next (i := s.index) (p := s.position)
    (by rw [List.getElem?_map, hget]; rfl)
  rw [List.getElem?_map] at hnext hlast
  rcases (make format d).lineBeforeNext_cases s.index with ⟨t, ht, hline⟩ | ⟨hnone, hline⟩
  · have ht : (statements d.nodes)[s.index + 1]? = some t := ht
    have := hnext t.position (by rw [ht]; rfl)
    omega
  · have hnone : (statements d.nodes)[s.index + 1]? = none := hnone
    have := hlast (by rw [hnone]; rfl)
    have hline : (make format d).lineBeforeNext s.index = d.lineCount := hline
    omega

/-- In a tree, a subtree is said to end before the first later statement that is no deeper. -/
theorem subtreeEnd_of_navigable (format : Format N) (d : Document N) {a : Statement N}
    (h : a.navigable = true) : (make format d).subtreeEnd a =
      max ((((statements d.nodes).drop (a.index + 1)).find? (·.noDeeperThan a.depth)).elim
        d.lineCount (·.position.startLine - 1)) a.position.endLine := by
  unfold Prepared.subtreeEnd
  dsimp only
  rw [h, if_neg (by decide)]
  refine congrArg (max · a.position.endLine) ?_
  split
  · next next hfound =>
    have hfound : ((statements d.nodes).drop (a.index + 1)).find? (·.noDeeperThan a.depth) =
      some next := hfound
    rw [hfound, Option.elim_some]
  · next hnone =>
    have hnone : ((statements d.nodes).drop (a.index + 1)).find? (·.noDeeperThan a.depth) = none :=
      hnone
    rw [hnone, Option.elim_none]
    rfl

/-- A subtree is said to end before the statement that follows its last: the statements after the
    first are deeper up to there, and have it as an ancestor no more from then on. -/
theorem subtreeEnd_eq (format : Format N) (h : Nested d.nodes lineage) {a : Statement N}
    (ha : a ∈ statements d.nodes) :
    ∃ last ∈ statements d.nodes, a.index ≤ last.index ∧
      (∀ k, a.index < k → k ≤ last.index → (lineage a.index).length < (lineage k).length) ∧
      (∀ s ∈ statements d.nodes, last.index < s.index → a.index ∉ lineage s.index) ∧
      (make format d).subtreeEnd a =
        max ((make format d).lineBeforeNext last.index) a.position.endLine := by
  have hlt : a.index < d.nodes.length := (List.getElem?_eq_some_iff.1 (getElem?_nodes ha)).1
  have hdeeper : ∀ x ∈ statements d.nodes, x.noDeeperThan a.depth = false →
      (lineage a.index).length < (lineage x.index).length := by
    intro x hx hfalse
    have hnot : ¬ x.depth ≤ a.depth := of_decide_eq_false hfalse
    rw [h.depth_eq hx, h.depth_eq ha] at hnot
    omega
  rw [subtreeEnd_of_navigable format d
    (h.navigable a.node (List.mem_of_getElem? (getElem?_nodes ha)))]
  rcases find?_later_cases d.nodes a.index (·.noDeeperThan a.depth) with
    ⟨hfind, hnone⟩ | ⟨e, he, hfind, hafter, hshallow, hmin⟩
  · obtain ⟨last, hlast, hown⟩ :=
      exists_statement (show d.nodes.length - 1 < d.nodes.length by omega)
    refine ⟨last, hlast, by omega, fun k hak hk => ?_, fun s hs hafter => ?_, ?_⟩
    · obtain ⟨x, hx, rfl⟩ := exists_statement (show k < d.nodes.length by omega)
      exact hdeeper x hx (hnone x hx hak)
    · have := (List.getElem?_eq_some_iff.1 (getElem?_nodes hs)).1
      omega
    · have hnext : (make format d).list[last.index + 1]? = none := by
        refine List.getElem?_eq_none ?_
        rw [show (make format d).list.length = d.nodes.length from length_statements d.nodes]
        omega
      rw [hfind, lineBeforeNext, hnext]
      rfl
  · have helt : e.index < d.nodes.length := (List.getElem?_eq_some_iff.1 (getElem?_nodes he)).1
    have hle : e.depth ≤ a.depth := of_decide_eq_true hshallow
    rw [h.depth_eq he, h.depth_eq ha] at hle
    obtain ⟨last, hlast, hown⟩ := exists_statement (show e.index - 1 < d.nodes.length by omega)
    refine ⟨last, hlast, by omega, fun k hak hk => ?_, fun s hs hlater => ?_, ?_⟩
    · obtain ⟨x, hx, rfl⟩ := exists_statement (show k < d.nodes.length by omega)
      exact hdeeper x hx (hmin x hx hak (by omega))
    · exact h.not_mem_of_shallower hafter (by omega) hle
    · have hnext : (make format d).list[last.index + 1]? = some e := by
        rw [hown, Nat.sub_add_cancel (by omega)]
        exact getElem?_of_mem_statements he
      rw [hfind, lineBeforeNext, hnext]
      rfl

/-- The last statement of a subtree, by its number: the one before the first that is no deeper, or
    the last of all. -/
theorem isSubtreeEnd_of_run (h : Nested d.nodes lineage) (hsound : (make format d).Sound)
    {a last : Statement N} (ha : a ∈ statements d.nodes) (hlast : last ∈ statements d.nodes)
    (hle : a.index ≤ last.index)
    (hdeeper : ∀ k, a.index < k → k ≤ last.index → (lineage a.index).length < (lineage k).length)
    (hstop : ∀ s ∈ statements d.nodes, last.index < s.index → a.index ∉ lineage s.index) :
    d.IsSubtreeEnd a last.position.endLine := by
  have hbelow : ∀ s ∈ statements d.nodes, Below s.node a.node ↔ a.index ∈ lineage s.index :=
    fun s hs => h.below_iff (getElem?_nodes hs) (getElem?_nodes ha)
  constructor
  · refine ⟨last, hlast, ?_, rfl⟩
    rcases Nat.lt_or_eq_of_le hle with hlt | heq
    · exact .inr ((hbelow last hlast).2 (h.mem_lineage_iff.2 ⟨hlt, hdeeper⟩))
    · exact .inl (eq_of_index_eq hlast ha heq.symm)
  · rintro line ⟨s, hs, hown, rfl⟩
    have hindex : s.index ≤ last.index := by
      rcases hown with rfl | hown
      · exact hle
      · by_contra hnot
        exact hstop s hs (Nat.lt_of_not_le hnot) ((hbelow s hs).1 hown)
    exact hsound.endLine_mono (getElem?_of_mem_statements hs)
      (getElem?_of_mem_statements hlast) hindex

/-- In a document that is nested and tiled, subtrees end where they are said to end. -/
theorem isSubtreeEnd_of_nested (h : Nested d.nodes lineage) (hsound : (make format d).Sound)
    (ht : Tiles (d.lineCount + 1) 1 (d.nodes.map NodeView.position)) {a : Statement N}
    (ha : a ∈ statements d.nodes) : d.IsSubtreeEnd a ((make format d).subtreeEnd a) := by
  obtain ⟨last, hlast, hle, hdeeper, hstop, hend⟩ := subtreeEnd_eq format h ha
  have hown : a.position.endLine ≤ last.position.endLine :=
    hsound.endLine_mono (getElem?_of_mem_statements ha) (getElem?_of_mem_statements hlast) hle
  rw [hend, lineBeforeNext_of_tiles ht hlast, Nat.max_eq_left hown]
  exact isSubtreeEnd_of_run h hsound ha hlast hle hdeeper hstop

theorem isSubtreeEnd_of_flat {a : Statement N} (ha : a ∈ statements d.nodes)
    (hnav : a.navigable = false)
    (hparent : ∀ n m : N, NodeView.parent n ≠ .ok (some m)) :
    d.IsSubtreeEnd a ((make format d).subtreeEnd a) := by
  have hend : (make format d).subtreeEnd a = a.position.endLine := by
    unfold Prepared.subtreeEnd
    dsimp only
    rw [hnav]
    rfl
  rw [hend]
  refine ⟨⟨a, ha, .inl rfl, rfl⟩, ?_⟩
  rintro line ⟨s, -, rfl | hbelow, rfl⟩
  · exact Nat.le_refl _
  · obtain ⟨above, hstep, -⟩ := Relation.TransGen.head'_iff.1 hbelow
    exact absurd hstep (hparent s.node above)

end Prepared

end TemplateMerge
