import Mathlib.Order.Preorder.Finite
import TemplateMerge.Node.Given
import TemplateMerge.Proofs.Document.Subtree

/-! Depths where parents make no tree.

    Nothing keeps the parents that nodes tell from running in a circle, and a node in the middle may
    not tell its parent.  The walk up from a node goes from parent to parent and counts its steps;
    it ends at a node that tells no parent, or once it has counted to the limit.

        0 ◂── 1 ◂── 2               depths 0, 1, 2
        0 ··· 1 ◂── 2               depths 0, 0, 1, where 1 does not tell its parent
        0 ──▸ 1 ⇄ 2                 depths 4096, and the walk goes on in the circle till then

    So a walk is told by where its steps lead: either some number of steps leads to a node that
    tells no parent, and no more steps can be taken, or every number of steps leads somewhere. -/

namespace TemplateMerge

variable {N : Type} [NodeView N]

namespace NodeView

/-- The node above a node, if there is one and the node tells it. -/
def told? (n : N) : Option N :=
  match parent n with
  | .ok above => above
  | .error _ => none

/-- The node that the given number of steps up from a node lead to, if they can be taken. -/
def climb? : Nat → N → Option N
  | 0, n => some n
  | k + 1, n => (told? n).bind (climb? k)

variable {n top last : N} {j k : Nat}

theorem told?_eq_some_iff {above : N} : told? n = some above ↔ parent n = .ok (some above) := by
  unfold told?
  split <;> simp_all

theorem told?_eq_none_iff :
    told? n = none ↔ parent n = .ok none ∨ ∃ e, parent n = .error e := by
  unfold told?
  split <;> simp_all

theorem climb?_add (j k : Nat) (n : N) : climb? (j + k) n = (climb? j n).bind (climb? k) := by
  induction j generalizing n with
  | zero => rw [Nat.zero_add]; rfl
  | succ j ih =>
    rw [Nat.succ_add]
    show (told? n).bind (climb? (j + k)) = ((told? n).bind (climb? j)).bind (climb? k)
    rw [Option.bind_assoc]
    exact Option.bind_congr fun above _ => ih above

/-- From where a walk ends, no more steps can be taken. -/
theorem le_of_ends (hj : climb? j n = some top) (hends : told? top = none)
    (hk : climb? k n = some last) : k ≤ j := by
  by_contra hlt
  obtain ⟨m, rfl⟩ := Nat.exists_eq_add_of_lt (Nat.lt_of_not_le hlt)
  rw [Nat.add_assoc, climb?_add, hj] at hk
  simp [climb?, hends] at hk

/-- A node that leads into a circle tells a parent that does. -/
theorem exists_told_of_circle {c : N} (hlead : n = c ∨ Below n c) (hcircle : Below c c) :
    ∃ above, told? n = some above ∧ (above = c ∨ Below above c) := by
  have hbelow : Below n c := hlead.elim (fun h => h ▸ hcircle) id
  obtain ⟨above, hparent, hrest⟩ := Relation.TransGen.head'_iff.1 hbelow
  exact ⟨above, told?_eq_some_iff.2 hparent, Relation.reflTransGen_iff_eq_or_transGen.1 hrest
    |>.imp Eq.symm id⟩

theorem isSome_climb?_of_circle {c : N} (hcircle : Below c c) (k : Nat) :
    ∀ {n : N}, n = c ∨ Below n c → (climb? k n).isSome := by
  induction k with
  | zero => intro n _; rfl
  | succ k ih =>
    intro n hlead
    obtain ⟨above, htold, hlead'⟩ := exists_told_of_circle hlead hcircle
    rw [climb?, htold]
    exact ih hlead'

theorem below_of_climb? : ∀ {k : Nat} {n : N}, climb? (k + 1) n = some top → Below n top
  | 0, n, h => by
    obtain ⟨above, htold, hrest⟩ := Option.bind_eq_some_iff.1 h
    exact Option.some.inj hrest ▸ .single (told?_eq_some_iff.1 htold)
  | k + 1, n, h => by
    obtain ⟨above, htold, hrest⟩ := Option.bind_eq_some_iff.1 h
    exact .head (told?_eq_some_iff.1 htold) (below_of_climb? hrest)

theorem mem_of_climb? {nodes : List N}
    (hclosed : ∀ n ∈ nodes, ∀ above, parent n = .ok (some above) → above ∈ nodes) :
    ∀ {k : Nat} {n : N}, n ∈ nodes → climb? k n = some top → top ∈ nodes
  | 0, n, hn, h => Option.some.inj h ▸ hn
  | k + 1, n, hn, h => by
    obtain ⟨above, htold, hrest⟩ := Option.bind_eq_some_iff.1 h
    exact mem_of_climb? hclosed (hclosed n hn above (told?_eq_some_iff.1 htold)) hrest

/-- Among finitely many nodes, a walk that never ends comes to a node twice. -/
theorem exists_circle {nodes : List N}
    (hclosed : ∀ n ∈ nodes, ∀ above, parent n = .ok (some above) → above ∈ nodes) (hn : n ∈ nodes)
    (hall : ∀ k, (climb? k n).isSome) : ∃ c, (n = c ∨ Below n c) ∧ Below c c := by
  let place (k : Nat) : N := (climb? k n).get (hall k)
  have hplace : ∀ k, climb? k n = some (place k) := fun k => (Option.some_get (hall k)).symm
  obtain ⟨i, j, hlt, hsame⟩ := Set.Finite.exists_lt_map_eq_of_forall_mem (f := place)
    (fun k => mem_of_climb? hclosed hn (hplace k)) (List.finite_toSet nodes)
  obtain ⟨m, rfl⟩ := Nat.exists_eq_add_of_lt hlt
  refine ⟨place i, ?_, ?_⟩
  · cases i with
    | zero => exact .inl rfl
    | succ i => exact .inr (below_of_climb? (hplace (i + 1)))
  · have hback := hplace (i + m + 1)
    rw [← hsame, Nat.add_assoc, climb?_add, hplace i] at hback
    exact below_of_climb? hback

end NodeView

namespace Statement

open NodeView

variable {n top : N} {k limit : Nat}

/-! ### The walk -/

theorem stepsUp_succ (limit : Nat) (n : N) :
    stepsUp (limit + 1) n = (told? n).elim 0 fun above => stepsUp limit above + 1 := by
  rw [stepsUp, told?]
  rcases parent n with e | _ | above <;> rfl

/-- The walk takes no more steps than the limit, and stops where they have led because no parent is
    told there or because the limit is reached. -/
theorem exists_stop (limit : Nat) (n : N) : stepsUp limit n ≤ limit ∧
    ∃ last, climb? (stepsUp limit n) n = some last ∧
      (told? last = none ∨ stepsUp limit n = limit) := by
  induction limit generalizing n with
  | zero => exact ⟨Nat.le_refl 0, n, rfl, .inr rfl⟩
  | succ limit ih =>
    rw [stepsUp_succ]
    cases htold : told? n with
    | none => exact ⟨Nat.zero_le _, n, rfl, .inl htold⟩
    | some above =>
      obtain ⟨hle, last, hclimb, hstop⟩ := ih above
      refine ⟨Nat.succ_le_succ hle, last, ?_, hstop.imp_right (congrArg Nat.succ)⟩
      rw [Option.elim_some, climb?, htold]
      exact hclimb

/-- A walk that ends is as long as the limit allows. -/
theorem stepsUp_of_ends (h : climb? k n = some top) (hends : told? top = none) (limit : Nat) :
    stepsUp limit n = min k limit := by
  obtain ⟨hle, last, hclimb, hstop⟩ := exists_stop limit n
  have hk : stepsUp limit n ≤ k := le_of_ends h hends hclimb
  rcases hstop with hlast | hlimit
  · have : k ≤ stepsUp limit n := le_of_ends hclimb hlast h
    omega
  · omega

theorem stepsUp_of_isSome (h : (climb? limit n).isSome) : stepsUp limit n = limit := by
  obtain ⟨top, htop⟩ := Option.isSome_iff_exists.1 h
  obtain ⟨hle, last, hclimb, hlast | hlimit⟩ := exists_stop limit n
  · exact Nat.le_antisymm hle (le_of_ends hclimb hlast htop)
  · exact hlimit

variable (n) in
theorem ends_or_endless : (∃ k top, climb? k n = some top ∧ told? top = none) ∨
    ∀ k, (climb? k n).isSome := by
  by_cases hall : ∀ k, (climb? k n).isSome
  · exact .inr hall
  · obtain ⟨k, hk⟩ := not_forall.1 hall
    obtain ⟨-, last, hclimb, hlast | hlimit⟩ := exists_stop k n
    · exact .inl ⟨_, last, hclimb, hlast⟩
    · rw [hlimit] at hclimb
      exact absurd (hclimb ▸ rfl) hk

/-! ### Depths -/

/-- What the depth of a statement says of the walk up from its node. -/
structure CountsSteps (s : Statement N) : Prop where
  /-- Outside trees the depth is zero. -/
  flat : s.navigable = false → s.depth = 0
  /-- A walk always stops, after no more than 4096 steps, -/
  bounded : s.depth ≤ 4096
  /-- and the depth is the number of its steps. -/
  stops : s.navigable = true → ∃ last, climb? s.depth s.node = some last ∧
    (told? last = none ∨ s.depth = 4096)
  /-- If some number of steps leads to a node without a parent, or to one that does not tell it, the
      depth is that number or the limit, whichever is less. -/
  ends : s.navigable = true → ∀ k top, climb? k s.node = some top →
    (parent top = .ok none ∨ ∃ e, parent top = .error e) → s.depth = min k 4096
  /-- If every number of steps leads somewhere, the depth is the limit. -/
  endless : s.navigable = true → (∀ k, (climb? k s.node).isSome) → s.depth = 4096
  /-- There is no third case, -/
  decided : (∃ k top, climb? k s.node = some top ∧
    (parent top = .ok none ∨ ∃ e, parent top = .error e)) ∨ ∀ k, (climb? k s.node).isSome
  /-- and the second is that of every walk that runs into a circle, -/
  circle : s.navigable = true → ∀ c, (s.node = c ∨ Below s.node c) → Below c c → s.depth = 4096
  /-- as, among finitely many nodes, it must. -/
  finite : ∀ nodes : List N, s.node ∈ nodes →
    (∀ n ∈ nodes, ∀ above, parent n = .ok (some above) → above ∈ nodes) →
    (∀ k, (climb? k s.node).isSome) → ∃ c, (s.node = c ∨ Below s.node c) ∧ Below c c

theorem depth_of_navigable {s : Statement N} (h : s.navigable = true) :
    s.depth = stepsUp 4096 s.node := if_pos h

end Statement

/-- The depth of a statement is found whatever its node and the others tell of their parents. -/
theorem depth_counts_steps (s : Statement N) : s.CountsSteps := by
  obtain ⟨hbounded, hstop⟩ := Statement.exists_stop 4096 s.node
  refine
    { flat := fun hflat => if_neg (by rw [hflat]; decide)
      bounded := ?bounded
      stops := fun hnavigable => Statement.depth_of_navigable hnavigable ▸ hstop
      ends := fun hnavigable k top hclimb hends => ?ends
      endless := fun hnavigable hall => ?endless
      decided := ?decided
      circle := fun hnavigable c hlead hcircle => ?circle
      finite := fun nodes hs hclosed hall => NodeView.exists_circle hclosed hs hall }
  case bounded =>
    unfold Statement.depth
    split
    · exact hbounded
    · exact Nat.zero_le _
  case ends =>
    rw [Statement.depth_of_navigable hnavigable]
    exact Statement.stepsUp_of_ends hclimb (NodeView.told?_eq_none_iff.2 hends) 4096
  case endless =>
    rw [Statement.depth_of_navigable hnavigable]
    exact Statement.stepsUp_of_isSome (hall 4096)
  case decided =>
    simp only [← NodeView.told?_eq_none_iff]
    exact Statement.ends_or_endless s.node
  case circle =>
    rw [Statement.depth_of_navigable hnavigable]
    exact Statement.stepsUp_of_isSome (NodeView.isSome_climb?_of_circle hcircle 4096 hlead)

/-- The first of three nodes tells the second as its parent, and the second and the third tell each
    other. -/
theorem depth_counts_steps_circle :
    let entry (parent : Nat) : Given.Entry :=
      ⟨"line", [], .single 1, none, true, false, some parent, none, none, false⟩
    let node (i : Fin 3) : Given.Node := ⟨[entry 1, entry 2, entry 1], i⟩
    Below (node 0) (node 1) ∧ Below (node 1) (node 1) ∧
      Statement.depth (⟨0, node 0⟩ : Statement Given.Node) = 4096 := by
  intro entry node
  have hlead : Below (node 0) (node 1) := .single rfl
  have hcircle : Below (node 1) (node 1) := .head (b := node 2) rfl (.single rfl)
  exact ⟨hlead, hcircle, (depth_counts_steps ⟨0, node 0⟩).circle rfl _ (.inr hlead) hcircle⟩

/-- The second of three nodes does not tell its parent, so the third is one step up from it. -/
example :
    let entry (navigable : Bool) (parent : Option Nat) : Given.Entry :=
      ⟨"line", [], .single 1, none, navigable, false, parent, none, none, false⟩
    let nodes := Given.Node.all [entry true none, entry false (some 0), entry true (some 1)]
    (statements nodes).map Statement.depth = [0, 0, 1] := by decide

end TemplateMerge
