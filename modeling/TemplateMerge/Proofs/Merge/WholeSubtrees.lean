import TemplateMerge.Proofs.Document.Subtree
import TemplateMerge.Proofs.Format.OutlineTree
import TemplateMerge.Proofs.Injection.Location

/-! Ranges keep subtrees whole.

    The statements below another are the run of deeper ones after it.  A boundary that passes over
    deeper statements is no deeper than the anchor, so it comes after that run: whatever else it
    asks for, the range that ends before it has all of the anchor's subtree.

        depth        0    1    2    2    1    0    1
        statement    ·    a    b    b    ·    ·    ·
                          └─ subtree ─┘  ▲
                          the first place where a range from a can end -/

namespace TemplateMerge

/-! ### Runs of a list -/

theorem mem_takeWhile_iff {α : Type} {p : α → Bool} {x : α} : ∀ {l : List α},
    x ∈ l.takeWhile p ↔
      ∃ i : Nat, l[i]? = some x ∧ ∀ j ≤ i, ∀ y, l[j]? = some y → p y = true
  | [] => by simp
  | a :: l => by
    cases ha : p a with
    | false =>
      rw [List.takeWhile_cons_of_neg (by simp [ha])]
      refine ⟨nofun, ?_⟩
      rintro ⟨i, -, hall⟩
      rw [hall 0 (Nat.zero_le i) a rfl] at ha
      cases ha
    | true =>
      rw [List.takeWhile_cons_of_pos ha, List.mem_cons, mem_takeWhile_iff]
      constructor
      · rintro (rfl | ⟨i, hi, hall⟩)
        · refine ⟨0, rfl, fun j hj y hy => ?_⟩
          obtain rfl := Nat.le_zero.1 hj
          rwa [← Option.some.inj hy]
        · refine ⟨i + 1, hi, fun j hj y hy => ?_⟩
          cases j with
          | zero => rwa [← Option.some.inj hy]
          | succ j => exact hall j (Nat.le_of_succ_le_succ hj) y hy
      · rintro ⟨i, hi, hall⟩
        cases i with
        | zero => exact .inl (Option.some.inj hi).symm
        | succ i =>
          exact .inr ⟨i, hi, fun j hj y hy => hall (j + 1) (Nat.succ_le_succ hj) y hy⟩

variable {N : Type}

/-- A run of the statements after one of them, by the numbers. -/
theorem mem_later_takeWhile {nodes : List N} {n : Nat} {p : Statement N → Bool} {s : Statement N} :
    s ∈ ((statements nodes).drop (n + 1)).takeWhile p ↔
      s ∈ statements nodes ∧ n < s.index ∧
        ∀ x ∈ statements nodes, n < x.index → x.index ≤ s.index → p x = true := by
  have hnumber : ∀ (i : Nat) (x : Statement N),
      ((statements nodes).drop (n + 1))[i]? = some x ↔
        x ∈ statements nodes ∧ x.index = n + 1 + i := by
    intro i x
    rw [List.getElem?_drop]
    constructor
    · intro hx
      rw [numberedFrom_statements nodes _ x hx, Nat.zero_add]
      exact ⟨List.mem_of_getElem? hx, rfl⟩
    · rintro ⟨hx, hindex⟩
      rw [← hindex]
      exact getElem?_of_mem_statements hx
  rw [mem_takeWhile_iff]
  constructor
  · rintro ⟨i, hi, hall⟩
    obtain ⟨hs, hindex⟩ := (hnumber i s).1 hi
    refine ⟨hs, by omega, fun x hx hafter hle => ?_⟩
    exact hall (x.index - (n + 1)) (by omega) x ((hnumber _ x).2 ⟨hx, by omega⟩)
  · rintro ⟨hs, hafter, hall⟩
    refine ⟨s.index - (n + 1), (hnumber _ s).2 ⟨hs, by omega⟩, fun j hj x hx => ?_⟩
    obtain ⟨hmem, hindex⟩ := (hnumber j x).1 hx
    exact hall x hmem (by omega) (by omega)

variable [NodeView N]

/-- The statements below another are the run of deeper ones after it. -/
theorem Nested.below_iff_run {nodes : List N} {lineage : Nat → List Nat} (h : Nested nodes lineage)
    {a s : Statement N} (ha : a ∈ statements nodes) (hs : s ∈ statements nodes) :
    Below s.node a.node ↔
      s ∈ ((statements nodes).drop (a.index + 1)).takeWhile (a.depth < ·.depth) := by
  rw [h.below_iff (getElem?_nodes hs) (getElem?_nodes ha), h.mem_lineage_iff, mem_later_takeWhile]
  constructor
  · rintro ⟨hafter, hdeeper⟩
    refine ⟨hs, hafter, fun x hx hlt hle => decide_eq_true ?_⟩
    rw [h.depth_eq ha, h.depth_eq hx]
    exact hdeeper x.index hlt hle
  · rintro ⟨-, hafter, hdeeper⟩
    refine ⟨hafter, fun k hlt hle => ?_⟩
    have hk : k < nodes.length :=
      Nat.lt_of_le_of_lt hle (List.getElem?_eq_some_iff.1 (getElem?_nodes hs)).1
    obtain ⟨x, hx, rfl⟩ := exists_statement hk
    have := of_decide_eq_true (hdeeper x hx hlt hle)
    rwa [h.depth_eq ha, h.depth_eq hx] at this

/-! ### Ranges -/

namespace Injection

variable {nodes : List N} {request : Request N} {point : Point N} {b : Boundary N}

/-- What comes before every end of a range is in the range. -/
theorem LocatedAt.mem_replaced (h : LocatedAt nodes request point)
    (hb : request.boundary = some b) {s : Statement N} (hs : s ∈ statements nodes)
    (hfirst : point.anchor.index ≤ s.index)
    (hbefore : ∀ e ∈ statements nodes, b.Ends point.anchor e → s.index < e.index) :
    s ∈ point.replaced (statements nodes) := by
  obtain ⟨hmatch, hstop, hnone⟩ := h.bounded b hb
  refine (h.replaced_iff s).2 ⟨hs, hfirst, ?_⟩
  cases hown : point.boundaryMatch with
  | none =>
    rw [(hnone hown).1]
    have := (List.getElem?_eq_some_iff.1 (getElem?_nodes hs)).1
    omega
  | some e =>
    rw [(hstop e hown).1]
    have := hbefore e ((hmatch e).1 hown).mem ((hmatch e).1 hown).holds
    omega

/-- A boundary that passes over deeper statements does not end a range in the anchor's subtree. -/
theorem subtree_replaced {lineage : Nat → List Nat} (hnested : Nested nodes lineage)
    (h : locate (statements nodes) request = some point) (hb : request.boundary = some b)
    (hshallow : b.sameOrShallower = true) (hanchor : point.anchor ∈ statements nodes)
    {s : Statement N} (hs : s ∈ statements nodes)
    (hown : s = point.anchor ∨ Below s.node point.anchor.node) :
    s ∈ point.replaced (statements nodes) := by
  have hbelow : Below s.node point.anchor.node ↔ point.anchor.index ∈ lineage s.index :=
    hnested.below_iff (getElem?_nodes hs) (getElem?_nodes hanchor)
  have hnavigable : point.anchor.navigable = true :=
    hnested.navigable _ (List.mem_of_getElem? (getElem?_nodes hanchor))
  refine (locatedAt_of_locate h).mem_replaced hb hs ?_ fun e he hends => ?_
  · rcases hown with rfl | hown
    · exact Nat.le_refl _
    · exact Nat.le_of_lt (hnested.before _ _ (hbelow.1 hown))
  · -- what may end the range is after the anchor and no deeper
    have hafter := hends.after
    have hdepth := hends.shallow hshallow hnavigable
    rw [hnested.depth_eq he, hnested.depth_eq hanchor] at hdepth
    refine Nat.lt_of_not_le fun hle => ?_
    rcases hown with rfl | hown
    · omega
    · exact hnested.not_mem_of_shallower hafter hle hdepth (hbelow.1 hown)

end Injection

/-! ### Subtrees -/

/-- Depths tell what is in the subtree of a statement, where the subtree ends, and that a range from
    the statement on keeps the subtree whole. -/
structure FindsSubtree (p : Prepared N) (a : Statement N) : Prop where
  /-- What hangs below the statement are the statements after it, up to the first that is no
      deeper. -/
  below : ∀ s ∈ p.list, Below s.node a.node ↔
    s ∈ (p.list.drop (a.index + 1)).takeWhile (a.depth < ·.depth)
  /-- The subtree is said to end with the greatest line of the statement and of what hangs below. -/
  ends : p.document.IsSubtreeEnd a (p.subtreeEnd a)
  /-- Whatever ends a range from the statement on, if deeper statements are passed over, the range
      has the statement and all that hangs below it. -/
  whole : ∀ (request : Injection.Request N) (b : Injection.Boundary N) (point : Injection.Point N),
    request.boundary = some b → b.sameOrShallower = true →
      Injection.locate p.list request = some point → point.anchor = a →
        ∀ s ∈ p.list, s = a ∨ Below s.node a.node → s ∈ point.replaced p.list

/-- In documents that are nested and tiled, depths tell subtrees. -/
theorem findsSubtree_of_nested {format : Format N} {d : Document N} {lineage : Nat → List Nat}
    (h : Nested d.nodes lineage) (hsound : (Prepared.make format d).Sound)
    (ht : Tiles (d.lineCount + 1) 1 (d.nodes.map NodeView.position)) {a : Statement N}
    (ha : a ∈ statements d.nodes) : FindsSubtree (.make format d) a where
  below _ hs := h.below_iff_run ha hs
  ends := Prepared.isSubtreeEnd_of_nested h hsound ht ha
  whole := by
    rintro request b point hb hshallow hpoint rfl s hs hown
    exact Injection.subtree_replaced h hpoint hb hshallow ha hs hown

/-- The depths of the statements of an outline tell the subtree of each. -/
theorem outline_depths_find_subtrees (markers : MarkerRegistry) (source : Text)
    (d : Document Outline.Node) (a : Statement Outline.Node)
    (h : Outline.parse markers source = .ok d) (ha : a ∈ statements d.nodes) :
    FindsSubtree (.make (Outline.format markers) d) a :=
  findsSubtree_of_nested (Outline.nested h) ((Outline.linewise markers).sound h)
    (Outline.tiles_of_parse h) ha

/-- A section with a level left out and a region, and a range from it on that any statement may
    end. -/
theorem outline_depths_find_subtrees_section :
    let format := Outline.format .builtin
    let source :=
      "a\n# A\n### B\n# structmerge:freeze\n# structmerge:unfreeze\n## C\n# D".toList
    let request : Injection.Request Outline.Node :=
      ⟨.ofType "heading", .replace, some ⟨.any, true⟩, fun _ => rfl⟩
    ∃ d a point, Outline.parse .builtin source = .ok d ∧ a ∈ statements d.nodes ∧
      FindsSubtree (.make format d) a ∧
      Injection.locate (statements d.nodes) request = some point ∧ point.anchor = a ∧
      (∀ s ∈ statements d.nodes, s = a ∨ Below s.node a.node →
        s ∈ point.replaced (statements d.nodes)) ∧
      (point.replaced (statements d.nodes)).map (·.index) = [1, 2, 3, 4] ∧
      (Prepared.make format d).subtreeEnd a = 6 := by
  intro format source request
  have hfacts : ((Outline.parse .builtin source).toOption.bind fun d =>
      (Injection.locate (statements d.nodes) request).map fun point =>
        ((point.replaced (statements d.nodes)).map (·.index),
          (Prepared.make format d).subtreeEnd point.anchor)) = some ([1, 2, 3, 4], 6) := by
    decide +kernel
  obtain ⟨d, hd⟩ : ∃ d, Outline.parse .builtin source = .ok d := ⟨_, rfl⟩
  rw [hd] at hfacts
  obtain ⟨point, hpoint, hfound⟩ := Option.map_eq_some_iff.1 hfacts
  obtain ⟨hreplaced, hend⟩ := Prod.mk.inj hfound
  have hanchor : point.anchor ∈ statements d.nodes := Merger.anchor_of_locate hpoint
  have hfinds := outline_depths_find_subtrees .builtin source d point.anchor hd hanchor
  exact ⟨d, point.anchor, point, hd, hanchor, hfinds, hpoint, rfl,
    hfinds.whole request ⟨.any, true⟩ point rfl rfl hpoint rfl, hreplaced, hend⟩

end TemplateMerge
