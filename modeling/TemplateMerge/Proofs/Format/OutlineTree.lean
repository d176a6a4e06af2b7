import TemplateMerge.Proofs.Document.Subtree
import TemplateMerge.Proofs.Format.Outline

/-! The tree of an outline.

    A node hangs under the innermost heading that is open and that its kind admits, and the headings
    that are open further out are its other ancestors.  Each of them had the headings further out as
    its ancestors when it was opened.  A heading closes those that it does not admit and is open
    from then on, so what is open at a node was open at the node before, but for that node itself.

        node           # A     text    ## B    more    ## C    # D
        number          0       1       2       3       4       5
        open before     ·       A       A       B A     B A     C A
        admitted        ·       A       A       B A     A       ·

    Levels grow inwards, and there are six of them, so no chain of ancestors is longer than that. -/

namespace TemplateMerge

namespace Outline

/-! ### Open headings -/

/-- The open headings that a node of a kind may hang under. -/
def admitted (kind : Kind) (opened : List OpenHeading) : List OpenHeading :=
  match kind.level? with
  | some level => opened.dropWhile (level ≤ ·.level)
  | none => opened

/-- The open headings after the node numbered `i`, given those above it. -/
def opening (kind : Kind) (i : Nat) (above : List OpenHeading) : List OpenHeading :=
  match kind.level? with
  | some level => ⟨level, i⟩ :: above
  | none => above

/-- The open headings before the node numbered `i`. -/
def openedAt (kinds : List Kind) : Nat → List OpenHeading
  | 0 => []
  | i + 1 =>
    match kinds[i]? with
    | some kind => opening kind i (admitted kind (openedAt kinds i))
    | none => openedAt kinds i

/-- The headings above the node numbered `i`, innermost first. -/
def chainAt (kinds : List Kind) (i : Nat) : List OpenHeading :=
  match kinds[i]? with
  | some kind => admitted kind (openedAt kinds i)
  | none => []

/-- The ancestors of the node numbered `i`, by their numbers. -/
def lineage (kinds : List Kind) (i : Nat) : List Nat := (chainAt kinds i).map (·.index)

variable {kinds : List Kind}

theorem parents_cons (opened : List OpenHeading) (index : Nat) (kind : Kind) (rest : List Kind) :
    parents opened index (kind :: rest) = (admitted kind opened).head?.map (·.index) ::
      parents (opening kind index (admitted kind opened)) (index + 1) rest := by
  cases kind <;> rfl

/-- The parent of a node is the innermost of the headings above it. -/
theorem getElem?_parents {rest : List Kind} : ∀ {k : Nat}, kinds.drop k = rest → ∀ i : Nat,
    (parents (openedAt kinds k) k rest)[i]? =
      kinds[k + i]?.map fun _ => (lineage kinds (k + i)).head? := by
  induction rest with
  | nil =>
    intro k hdrop i
    have hnone : kinds[k + i]? = none :=
      List.getElem?_eq_none (Nat.le_trans (List.drop_eq_nil_iff.1 hdrop) (Nat.le_add_right k i))
    rw [hnone]
    rfl
  | cons kind rest ih =>
    intro k hdrop i
    have hk : kinds[k]? = some kind := by rw [← List.head?_drop, hdrop, List.head?_cons]
    have hrest : kinds.drop (k + 1) = rest := by rw [← List.tail_drop, hdrop, List.tail_cons]
    have hopened : openedAt kinds (k + 1) = opening kind k (admitted kind (openedAt kinds k)) := by
      rw [openedAt, hk]
    rw [parents_cons, ← hopened]
    cases i with
    | zero =>
      rw [List.getElem?_cons_zero, Nat.add_zero, hk, lineage, chainAt, hk, List.head?_map]
      rfl
    | succ i => rw [List.getElem?_cons_succ, ih hrest, Nat.add_right_comm, Nat.add_assoc]

theorem admitted_suffix (kind : Kind) (opened : List OpenHeading) :
    admitted kind opened <:+ opened := by
  unfold admitted
  split
  · exact List.dropWhile_suffix _
  · exact List.suffix_refl _

theorem chainAt_suffix (kinds : List Kind) (i : Nat) : chainAt kinds i <:+ openedAt kinds i := by
  unfold chainAt
  split
  · exact admitted_suffix _ _
  · exact List.nil_suffix

/-- What is open after a node: the node itself, if it is a heading, and what is above it. -/
theorem openedAt_succ {i : Nat} (h : i < kinds.length) :
    openedAt kinds (i + 1) = opening kinds[i] i (chainAt kinds i) := by
  rw [openedAt, chainAt, List.getElem?_eq_getElem h]

theorem openedAt_succ_cases {i : Nat} (h : i < kinds.length) :
    (∃ level, kinds[i]? = some (.heading level) ∧
      openedAt kinds (i + 1) = ⟨level, i⟩ :: chainAt kinds i) ∨
    openedAt kinds (i + 1) = chainAt kinds i := by
  rw [openedAt_succ h, List.getElem?_eq_getElem h]
  cases kinds[i] with
  | heading level => exact .inl ⟨level, rfl, rfl⟩
  | _ => exact .inr rfl

theorem openedAt_of_length_le {i : Nat} (h : kinds.length ≤ i) :
    openedAt kinds (i + 1) = openedAt kinds i := by
  rw [openedAt, List.getElem?_eq_none h]

/-- What holds of the open headings before every node: it does at first, and a node that is opened
    keeps it. -/
theorem openedAt_induction {P : Nat → List OpenHeading → Prop} (hnil : P 0 [])
    (hkeep : ∀ i opened, P i opened → P (i + 1) opened)
    (hdrop : ∀ i opened above, above <:+ opened → P i opened → P i above)
    (hopen : ∀ i level, kinds[i]? = some (.heading level) → P i (chainAt kinds i) →
      P (i + 1) (⟨level, i⟩ :: chainAt kinds i)) (i : Nat) : P i (openedAt kinds i) := by
  induction i with
  | zero => exact hnil
  | succ i ih =>
    have hchain : P i (chainAt kinds i) := hdrop i _ _ (chainAt_suffix kinds i) ih
    rcases Nat.lt_or_ge i kinds.length with hlt | hge
    · rcases openedAt_succ_cases hlt with ⟨level, hlevel, heq⟩ | heq
      · rw [heq]
        exact hopen i level hlevel hchain
      · rw [heq]
        exact hkeep i _ hchain
    · rw [openedAt_of_length_le hge]
      exact hkeep i _ ih

theorem heading_of_opened (i : Nat) : ∀ o ∈ openedAt kinds i,
    o.index < i ∧ kinds[o.index]? = some (.heading o.level) := by
  refine openedAt_induction (P := fun i opened => ∀ o ∈ opened,
    o.index < i ∧ kinds[o.index]? = some (.heading o.level)) (by simp) ?_ ?_ ?_ i
  · intro i opened h o ho
    exact ⟨Nat.lt_succ_of_lt (h o ho).1, (h o ho).2⟩
  · intro i opened above hsuffix h o ho
    exact h o (hsuffix.subset ho)
  · intro i level hlevel h o ho
    rcases List.mem_cons.1 ho with rfl | ho
    · exact ⟨Nat.lt_succ_self i, hlevel⟩
    · exact ⟨Nat.lt_succ_of_lt (h o ho).1, (h o ho).2⟩

/-- Above an open heading are those that are open further out. -/
theorem chainAt_of_opened (i : Nat) : ∀ (o : OpenHeading) (rest : List OpenHeading),
    o :: rest <:+ openedAt kinds i → chainAt kinds o.index = rest := by
  refine openedAt_induction (P := fun _ opened => ∀ o rest, o :: rest <:+ opened →
    chainAt kinds o.index = rest) ?_ ?_ ?_ ?_ i
  · intro o rest h
    cases List.suffix_nil.1 h
  · intro i opened h
    exact h
  · intro i opened above hsuffix h o rest hrest
    exact h o rest (hrest.trans hsuffix)
  · intro i level _ h o rest hrest
    rcases List.suffix_cons_iff.1 hrest with heq | hrest
    · obtain ⟨rfl, rfl⟩ := List.cons.inj heq
      rfl
    · exact h o rest hrest

theorem admitted_head_lt {level : Nat} {opened : List OpenHeading} {o : OpenHeading}
    (h : (admitted (.heading level) opened).head? = some o) : o.level < level := by
  have hfails := List.head?_dropWhile_not (fun o : OpenHeading => decide (level ≤ o.level)) opened
  rw [show (opened.dropWhile fun o : OpenHeading => decide (level ≤ o.level)).head? = some o
    from h] at hfails
  simpa using hfails

/-- Levels grow inwards. -/
theorem pairwise_opened (i : Nat) : (openedAt kinds i).Pairwise fun a b => b.level < a.level := by
  refine openedAt_induction (P := fun _ opened => opened.Pairwise fun a b => b.level < a.level)
    .nil ?_ ?_ ?_ i
  · intro i opened h
    exact h
  · intro i opened above hsuffix h
    exact h.sublist hsuffix.sublist
  · intro i level hlevel h
    refine List.pairwise_cons.2 ⟨fun o ho => ?_, h⟩
    have hchain : chainAt kinds i = admitted (.heading level) (openedAt kinds i) := by
      rw [chainAt, hlevel]
    cases hhead : (chainAt kinds i) with
    | nil => rw [hhead] at ho; cases ho
    | cons inner outer =>
      have hlt : inner.level < level :=
        admitted_head_lt (by rw [← hchain, hhead, List.head?_cons])
      rw [hhead] at h ho
      rcases List.mem_cons.1 ho with rfl | ho
      · exact hlt
      · exact Nat.lt_trans ((List.pairwise_cons.1 h).1 o ho) hlt

/-- A chain is no longer than there are levels below that of its innermost heading. -/
theorem length_le_of_pairwise {opened : List OpenHeading} : ∀ {bound : Nat},
    (opened.Pairwise fun a b => b.level < a.level) →
    (∀ o ∈ opened, 1 ≤ o.level ∧ o.level ≤ bound) → opened.length ≤ bound := by
  induction opened with
  | nil => intro bound _ _; exact Nat.zero_le bound
  | cons o opened ih =>
    intro bound hpairwise hlevels
    obtain ⟨hinner, hrest⟩ := List.pairwise_cons.1 hpairwise
    obtain ⟨hpos, hle⟩ := hlevels o List.mem_cons_self
    have hlength : opened.length ≤ o.level - 1 := by
      refine ih hrest fun x hx => ⟨(hlevels x (List.mem_cons_of_mem o hx)).1, ?_⟩
      have := hinner x hx
      omega
    rw [List.length_cons]
    omega

/-- The ancestors of a node are some of the last of the node before and its own. -/
theorem lineage_succ (i : Nat) : lineage kinds (i + 1) <:+ i :: lineage kinds i := by
  rcases Nat.lt_or_ge i kinds.length with hlt | hge
  · refine ((chainAt_suffix kinds (i + 1)).map (·.index)).trans ?_
    rcases openedAt_succ_cases hlt with ⟨level, -, heq⟩ | heq
    · rw [heq]
      exact List.suffix_refl _
    · rw [heq]
      exact List.suffix_cons i _
  · have hnone : kinds[i + 1]? = none := List.getElem?_eq_none (Nat.le_succ_of_le hge)
    rw [lineage, chainAt, hnone]
    exact List.nil_suffix

/-! ### Levels of headings -/

theorem level_of_classify {line : Text} {level : Nat} (h : classify line = .heading level) :
    1 ≤ level ∧ level ≤ 6 := by
  unfold classify at h
  split at h
  · cases h
  · split at h
    · next found hfound =>
      obtain rfl : found = level := Kind.heading.inj h
      unfold headingLevel? at hfound
      dsimp only at hfound
      split at hfound
      · cases hfound
      · split at hfound
        · next hlevel =>
          rw [← Option.some.inj hfound]
          exact ⟨hlevel.1, hlevel.2.1⟩
        · cases hfound
    · cases h

theorem level_of_blocks {number level : Nat} {lines : List Text} {spans : List FreezeSpan}
    (h : .heading level ∈ (blocks number lines spans).map (·.kind)) : 1 ≤ level ∧ level ≤ 6 := by
  obtain ⟨b, hb, hkind⟩ := List.mem_map.1 h
  induction number, lines, spans using blocks.induct with
  | case1 number spans => rw [blocks_nil] at hb; cases hb
  | case2 number line rest ih =>
    rw [blocks_line] at hb h
    rcases List.mem_cons.1 hb with rfl | hb
    · exact level_of_classify hkind
    · exact ih (List.mem_map.2 ⟨b, hb, hkind⟩) hb
  | case3 line rest span later position inner ih =>
    rw [blocks_span rfl] at hb
    rcases List.mem_cons.1 hb with rfl | hb
    · cases hkind
    · exact ih (List.mem_map.2 ⟨b, hb, hkind⟩) hb
  | case4 number line rest span later hstart ih =>
    rw [blocks_before hstart] at hb
    rcases List.mem_cons.1 hb with rfl | hb
    · exact level_of_classify hkind
    · exact ih (List.mem_map.2 ⟨b, hb, hkind⟩) hb

/-- Lineages of at most six. -/
theorem length_lineage_le (hlevels : ∀ level, .heading level ∈ kinds → 1 ≤ level ∧ level ≤ 6)
    (i : Nat) : (lineage kinds i).length ≤ 6 := by
  rw [lineage, List.length_map]
  refine length_le_of_pairwise ((pairwise_opened i).sublist (chainAt_suffix kinds i).sublist)
    fun o ho => hlevels o.level ?_
  exact List.mem_of_getElem? (heading_of_opened i o ((chainAt_suffix kinds i).subset ho)).2

/-! ### Nodes of a tree -/

/-- The kinds of the nodes of a document. -/
def kindsOf (d : Document Node) : List Kind := d.nodes.map (·.entry.kind)

theorem parent_tree (bs : List Block) :
    (tree bs).map (·.parent) = parents [] 0 (bs.map (·.kind)) := by
  unfold tree
  rw [List.map_map]
  refine List.map_snd_zip (Nat.le_of_eq ?_)
  rw [length_parents, List.length_map]

theorem getElem?_all (t : Tree) (j : Nat) :
    (Node.all t)[j]? = if h : j < t.length then some ⟨t, ⟨j, h⟩⟩ else none := by
  unfold Node.all
  split
  · next h => rw [List.getElem?_map, List.getElem?_eq_getElem (by simpa using h)]; simp
  · next h => exact List.getElem?_eq_none (by simpa using h)

theorem at?_of_mem {t : Tree} {n : Node} (h : n ∈ Node.all t) (j : Nat) :
    n.at? j = (Node.all t)[j]? := by
  obtain ⟨i, -, rfl⟩ := List.mem_map.1 h
  rw [getElem?_all]
  rfl

theorem parent_of_getElem? {t : Tree} {i : Nat} {n : Node} (h : (Node.all t)[i]? = some n) :
    (t.map (·.parent))[i]? = some n.entry.parent := by
  have hentry : ((Node.all t).map (·.entry))[i]? = some n.entry := by rw [List.getElem?_map, h]; rfl
  rw [entry_all] at hentry
  rw [List.getElem?_map, hentry]
  rfl

theorem nodup_all (t : Tree) : (Node.all t).Nodup := by
  refine (List.nodup_finRange t.length).map fun i j hij => ?_
  simpa using hij

variable {markers : MarkerRegistry} {source : Text} {d : Document Node}

theorem nodes_of_parse (h : parse markers source = .ok d) :
    d.nodes = Node.all (tree (blocks 1 (d.lines.map Text.chomp) d.spans)) := by
  obtain ⟨spans, -, rfl⟩ := parse_ok h
  rfl

theorem kindsOf_of_parse (h : parse markers source = .ok d) :
    kindsOf d = (blocks 1 (d.lines.map Text.chomp) d.spans).map (·.kind) := by
  rw [← blocks_of_parse h, List.map_map]
  rfl

theorem level_of_parse (h : parse markers source = .ok d) :
    ∀ level, .heading level ∈ kindsOf d → 1 ≤ level ∧ level ≤ 6 := by
  intro level hlevel
  rw [kindsOf_of_parse h] at hlevel
  exact level_of_blocks hlevel

/-- The parent of a node is the innermost of its ancestors. -/
theorem parentNumber_of_parse (h : parse markers source = .ok d) {i : Nat} {n : Node}
    (hn : d.nodes[i]? = some n) : n.entry.parent = (lineage (kindsOf d) i).head? := by
  have hparent := parent_of_getElem? (nodes_of_parse h ▸ hn)
  have hkind : (kindsOf d)[i]? = some n.entry.kind := by rw [kindsOf, List.getElem?_map, hn]; rfl
  have hchain := getElem?_parents (List.drop_zero : (kindsOf d).drop 0 = kindsOf d) i
  rw [Nat.zero_add, hkind, Option.map_some] at hchain
  rw [parent_tree, ← kindsOf_of_parse h, show [] = openedAt (kindsOf d) 0 from rfl, hchain]
    at hparent
  exact (Option.some.inj hparent).symm

theorem parent_of_parse (h : parse markers source = .ok d) {i : Nat} {n : Node}
    (hn : d.nodes[i]? = some n) :
    NodeView.parent n = .ok ((lineage (kindsOf d) i).head?.bind (d.nodes[·]?)) := by
  have hall := nodes_of_parse h
  have hmem : n ∈ Node.all (tree (blocks 1 (d.lines.map Text.chomp) d.spans)) := by
    rw [← hall]
    exact List.mem_of_getElem? hn
  show Except.ok (n.entry.parent.bind n.at?) = _
  rw [parentNumber_of_parse h hn, hall]
  exact congrArg (fun f => Except.ok (Option.bind _ f)) (funext fun j => at?_of_mem hmem j)

/-- The nodes of an outline stand in preorder. -/
theorem nested (h : parse markers source = .ok d) : Nested d.nodes (lineage (kindsOf d)) := by
  refine
    { navigable := fun _ _ => rfl
      distinct := by rw [nodes_of_parse h]; exact nodup_all _
      parent := fun i n hn => parent_of_parse h hn
      before := ?before, above := ?above, preorder := lineage_succ, shallow := ?shallow }
  case before =>
    intro i j hj
    obtain ⟨o, ho, rfl⟩ := List.mem_map.1 hj
    exact (heading_of_opened i o ((chainAt_suffix _ i).subset ho)).1
  case above =>
    intro i j rest hsuffix
    obtain ⟨chain, hchain, heq⟩ := List.suffix_map_iff.1 hsuffix
    obtain ⟨o, outer, rfl, rfl, rfl⟩ := List.map_eq_cons_iff.1 heq.symm
    rw [lineage, chainAt_of_opened i o outer (hchain.trans (chainAt_suffix _ i))]
  case shallow =>
    intro i
    exact Nat.le_trans (length_lineage_le (level_of_parse h) i) (by decide)

end Outline

end TemplateMerge
