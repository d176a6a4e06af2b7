import TemplateMerge.Proofs.Document.Ancestry
import TemplateMerge.Proofs.Format.OutlineFrame
import TemplateMerge.Proofs.Format.OutlineNavigation

/-! The tree of an outline is the tree of its headings.

    Which node hangs under which is told by the headings alone, and all ways through the tree lead
    along that relation: up to the parent, down to the children, and from one child to the next.

        # A                          A
        ### B                        ├── B
        text                         │   └── text        B: three signs, under one
        ## C                         └── C               C: two signs, under one
        # D                          D                   D: one sign, under none

    A heading has at most six signs and hangs under one with fewer, so at most five are above it,
    and six above anything else. -/

namespace TemplateMerge

namespace Outline

/-- The nodes of an outline are the tree of its headings. -/
structure HeadingTree (d : Document Node) : Prop where
  /-- A node is numbered by its place in the document. -/
  numbered : ∀ n ∈ d.nodes, d.nodes[n.index.val]? = some n
  /-- Headings are the lines outside the regions that begin as headings do. -/
  heading : ∀ n ∈ d.nodes, ∀ level, n.entry.kind = .heading level ↔
    ∃ line, NodeView.position n = .single line ∧
      (∀ span ∈ d.spans, span.intersects (.single line) = false) ∧
      headingLevel? (Text.chomp (d.line line)) = some level
  /-- The parent of a node is the last heading before it, with fewer signs if it is one itself. -/
  parent : ∀ n ∈ d.nodes, ∀ m, NodeView.parent n = .ok (some m) ↔
    m ∈ d.nodes ∧ m.Leads n ∧ ∀ k ∈ d.nodes, k.Leads n → k.index.val ≤ m.index.val
  /-- Where there is no such heading, it has none. -/
  root : ∀ n ∈ d.nodes, NodeView.parent n = .ok none ↔ ∀ m ∈ d.nodes, ¬ m.Leads n
  /-- The children of a node are those that it is the parent of, in order, and the first and the
      last child are the ends of the children. -/
  children : ∀ n ∈ d.nodes, ∃ cs, NodeView.children n = .ok cs ∧
    cs.Pairwise (fun a b => a.index.val < b.index.val) ∧
    (∀ m, m ∈ cs ↔ m ∈ d.nodes ∧ NodeView.parent m = .ok (some n)) ∧
    NodeView.firstChild n = .ok cs.head? ∧ NodeView.lastChild n = .ok cs.getLast?
  /-- The roots are the nodes without a parent, in order. -/
  roots : (roots d).Pairwise (fun a b => a.index.val < b.index.val) ∧
    ∀ m, m ∈ roots d ↔ m ∈ d.nodes ∧ NodeView.parent m = .ok none
  /-- Every node is once a child or a root. -/
  once : (Outline.roots d ++ d.nodes.flatMap Node.children).Perm d.nodes
  /-- The siblings of a node are its neighbours among the children of its parent, or among the
      roots. -/
  neighbours : ∀ l, AreSiblings d l → ∀ (i : Nat) (n : Node), l[i]? = some n →
    NodeView.nextSibling n = .ok l[i + 1]? ∧
      NodeView.previousSibling n = .ok (if i = 0 then none else l[i - 1]?)
  /-- A node is next after another just when that is the one before it. -/
  inverse : ∀ n ∈ d.nodes, ∀ m ∈ d.nodes,
    NodeView.nextSibling n = .ok (some m) ↔ NodeView.previousSibling m = .ok (some n)
  /-- Siblings have one parent. -/
  within : ∀ n ∈ d.nodes, ∀ m,
    NodeView.nextSibling n = .ok (some m) ∨ NodeView.previousSibling n = .ok (some m) →
      m ∈ d.nodes ∧ NodeView.parent m = NodeView.parent n
  /-- The depth of a node is the number of its ancestors. -/
  depth : ∀ s ∈ statements d.nodes, {m | Below s.node m}.encard = s.depth
  /-- It is at most six, and at most five for a heading. -/
  bounded : ∀ s ∈ statements d.nodes,
    s.depth ≤ 6 ∧ ∀ level, s.node.entry.kind = .heading level → s.depth ≤ 5
  /-- So no walk to the root gives up, unless it may not go on for six steps. -/
  unlimited : ∀ s ∈ statements d.nodes, ∀ limit, 6 ≤ limit →
    Statement.stepsUp limit s.node = s.depth

/-! ### Headings -/

/-- A line that begins as a heading does is one. -/
theorem classify_of_headingLevel? {line : Text} {level : Nat}
    (h : headingLevel? line = some level) : classify line = .heading level := by
  have hsign : ∀ c ∈ line.head?, c = '#' := by
    intro c hc
    obtain ⟨rest, rfl⟩ := List.head?_eq_some_iff.1 hc
    by_contra hne
    simp [headingLevel?, hne] at h
  have hblank : Text.isBlank line = false := by
    cases line with
    | nil => simp [headingLevel?] at h
    | cons c rest =>
      obtain rfl : c = '#' := hsign c rfl
      rfl
  rw [classify, hblank, if_neg Bool.false_ne_true, h]

theorem headingLevel?_of_classify {line : Text} {level : Nat} (h : classify line = .heading level) :
    headingLevel? line = some level := by
  unfold classify at h
  split at h
  · cases h
  · split at h
    · next found hfound => rw [hfound, Kind.heading.inj h]
    · cases h

variable {markers : MarkerRegistry} {source : Text} {d : Document Node}

theorem heading_iff (h : parse markers source = .ok d) {n : Node} (hn : n ∈ d.nodes)
    (level : Nat) : n.entry.kind = .heading level ↔ ∃ line, NodeView.position n = .single line ∧
      (∀ span ∈ d.spans, span.intersects (.single line) = false) ∧
      headingLevel? (Text.chomp (d.line line)) = some level := by
  constructor
  · intro hkind
    have hfrozen : ¬ d.Frozen n := by
      rw [frozen_iff h hn, hkind]
      simp
    obtain ⟨line, hblock⟩ := block_of_unfrozen h hn hfrozen
    have hposition : NodeView.position n = .single line := congrArg Block.position hblock
    have hclass : n.entry.kind = classify (Text.chomp (d.line line)) := congrArg Block.kind hblock
    exact ⟨line, hposition, (Document.unfrozen_iff hposition).1 hfrozen,
      headingLevel?_of_classify (hclass.symm.trans hkind)⟩
  · rintro ⟨line, hposition, hnone, hlevel⟩
    have hfrozen : ¬ d.Frozen n := (Document.unfrozen_iff hposition).2 hnone
    obtain ⟨own, hblock⟩ := block_of_unfrozen h hn hfrozen
    have hown : Position.single own = .single line :=
      (congrArg Block.position hblock).symm.trans hposition
    obtain rfl : own = line := congrArg Position.startLine hown
    exact (congrArg Block.kind hblock).trans (classify_of_headingLevel? hlevel)

/-! ### Parents -/

theorem parent_of_entry (h : parse markers source = .ok d) {n : Node} (hn : n ∈ d.nodes) :
    NodeView.parent n = .ok (n.entry.parent.bind (d.nodes[·]?)) := by
  rw [parent_of_parse h (getElem?_index h hn), parentNumber_of_parse h (getElem?_index h hn)]

/-- The parent of a node is the last of the headings that it may hang under. -/
theorem parent_iff_last (h : parse markers source = .ok d) {n : Node} (hn : n ∈ d.nodes)
    (m : Node) : NodeView.parent n = .ok (some m) ↔
      m ∈ d.nodes ∧ m.Leads n ∧ ∀ k ∈ d.nodes, k.Leads n → k.index.val ≤ m.index.val := by
  have hnumber : ∀ m ∈ d.nodes, NodeView.parent n = .ok (some m) ↔
      LeadsAt (kindsOf d) m.index.val n.index.val ∧
        ∀ j, LeadsAt (kindsOf d) j n.index.val → j ≤ m.index.val := by
    intro m hm
    rw [parent_eq_some_iff h hm hn, parentNumber_of_parse h (getElem?_index h hn)]
    exact head?_lineage_iff (index_lt h hn)
  constructor
  · intro hparent
    have hm := (nested h).parent_mem hn hparent
    obtain ⟨hleads, hlast⟩ := (hnumber m hm).1 hparent
    exact ⟨hm, (leads_iff h hm hn).2 hleads, fun k hk hkn => hlast _ ((leads_iff h hk hn).1 hkn)⟩
  · rintro ⟨hm, hleads, hlast⟩
    refine (hnumber m hm).2 ⟨(leads_iff h hm hn).1 hleads, fun j hj => ?_⟩
    obtain ⟨k, hk, rfl⟩ := exists_leader h hj
    exact hlast k hk ((leads_iff h hk hn).2 hj)

theorem parent_none_iff (h : parse markers source = .ok d) {n : Node} (hn : n ∈ d.nodes) :
    NodeView.parent n = .ok none ↔ ∀ m ∈ d.nodes, ¬ m.Leads n := by
  rw [parent_eq_none_iff h hn, parentNumber_of_parse h (getElem?_index h hn),
    head?_lineage_eq_none_iff (index_lt h hn)]
  constructor
  · intro hnone m hm hleads
    exact hnone _ ((leads_iff h hm hn).1 hleads)
  · intro hnone k hk
    obtain ⟨m, hm, rfl⟩ := exists_leader h hk
    exact hnone m hm ((leads_iff h hm hn).2 hk)

/-! ### Depths -/

theorem depth_bounded (h : parse markers source = .ok d) {s : Statement Node}
    (hs : s ∈ statements d.nodes) :
    s.depth ≤ 6 ∧ ∀ level, s.node.entry.kind = .heading level → s.depth ≤ 5 := by
  rw [(nested h).depth_eq hs]
  refine ⟨length_lineage_le (level_of_parse h) _, fun level hlevel => ?_⟩
  have hkind : (kindsOf d)[s.index]? = some (.heading level) := by
    rw [kindsOf, List.getElem?_map, getElem?_nodes hs, Option.map_some, hlevel]
  exact length_lineage_heading (level_of_parse h) hkind

theorem headingTree_of_parse (h : parse markers source = .ok d) : HeadingTree d where
  numbered _ hn := getElem?_index h hn
  heading _ hn := heading_iff h hn
  parent _ hn := parent_iff_last h hn
  root _ hn := parent_none_iff h hn
  children := by
    intro n hn
    refine ⟨n.children, rfl, AreSiblings.pairwise h (.inr ⟨n, hn, rfl⟩), fun m => ?_, rfl, rfl⟩
    rw [mem_children h hn]
    exact and_congr_right fun hm => (parent_eq_some_iff h hn hm).symm
  roots := by
    refine ⟨AreSiblings.pairwise h (.inl rfl), fun m => ?_⟩
    rw [mem_roots h]
    exact and_congr_right fun hm => (parent_eq_none_iff h hm).symm
  once := perm_children h
  neighbours := by
    intro l hl i n hi
    obtain ⟨hnext, hprevious⟩ := hl.neighbours h hi
    exact ⟨congrArg Except.ok hnext, congrArg Except.ok hprevious⟩
  inverse := by
    intro n hn m hm
    have hown := next_iff_previous h hn hm
    exact ⟨fun hnext => congrArg Except.ok (hown.1 (Except.ok.inj hnext)),
      fun hprevious => congrArg Except.ok (hown.2 (Except.ok.inj hprevious))⟩
  within := by
    intro n hn m hm
    obtain ⟨hmem, hsame⟩ : m ∈ d.nodes ∧ m.entry.parent = n.entry.parent := by
      rcases hm with hnext | hprevious
      · exact parent_of_siblingAt? h hn (Except.ok.inj hnext)
      · exact parent_of_siblingAt? h hn (Except.ok.inj hprevious)
    exact ⟨hmem, by rw [parent_of_entry h hmem, parent_of_entry h hn, hsame]⟩
  depth _ hs := (nested h).depth_eq_encard hs
  bounded _ hs := depth_bounded h hs
  unlimited := by
    intro s hs limit hlimit
    have hbound := (depth_bounded h hs).1
    rw [(nested h).depth_eq hs] at hbound ⊢
    exact (nested h).stepsUp_eq rfl (getElem?_nodes hs) (Nat.le_trans hbound hlimit)

end Outline

/-- Whatever text is read as an outline, the nodes are the tree of its headings. -/
theorem outline_is_heading_tree (markers : MarkerRegistry) (source : Text)
    (d : Document Outline.Node) (h : Outline.parse markers source = .ok d) :
    Outline.HeadingTree d :=
  Outline.headingTree_of_parse h

/-- A level is left out and made up for later, and a region hides a heading. -/
theorem outline_is_heading_tree_skipped_level :
    let source := "# A\n### B\ntext\n".toList ++
      "# structmerge:freeze\n## X\n# structmerge:unfreeze\n## C\n# D".toList
    ∃ d, Outline.parse .builtin source = .ok d ∧ Outline.HeadingTree d ∧
      d.nodes.map (·.entry.parent) = [none, some 0, some 1, some 1, some 0, none] ∧
      d.nodes.map (fun n => n.children.map (·.index.val)) = [[1, 4], [2, 3], [], [], [], []] ∧
      (statements d.nodes).map (·.depth) = [0, 1, 2, 2, 1, 0] := by
  intro source
  obtain ⟨d, hd⟩ : ∃ d, Outline.parse .builtin source = .ok d := ⟨_, rfl⟩
  have hfacts : (Outline.parse .builtin source).toOption.map (fun d =>
      (d.nodes.map (·.entry.parent),
        d.nodes.map fun n => n.children.map (·.index.val),
        (statements d.nodes).map (·.depth))) =
      some ([none, some 0, some 1, some 1, some 0, none],
        [[1, 4], [2, 3], [], [], [], []], [0, 1, 2, 2, 1, 0]) := by decide +kernel
  rw [hd] at hfacts
  have hown := Option.some.inj hfacts
  exact ⟨d, hd, outline_is_heading_tree .builtin source d hd, congrArg (·.1) hown,
    congrArg (·.2.1) hown, congrArg (·.2.2) hown⟩

end TemplateMerge
