import TemplateMerge.Proofs.Format.OutlineBranches

/-! Nodes that are put into the tree of an outline.

    A node that is no heading opens nothing and closes nothing.  So when such nodes are put in
    somewhere, the same headings are open before every other node, under the numbers that they have
    then, and every other node hangs where it hung.

        node           # A     text    ## B    more            # A     new     text    ## B    more
        number          0       1       2       3       ──▶     0       1       2       3       4
        open before     ·       A       A       B A             ·       A       A       A       B A

    All the new nodes hang under the innermost heading that is open at their place. -/

namespace TemplateMerge

namespace Outline

/-- The number of a node when `count` nodes have been put in before the one numbered `place`. -/
def moved (place count i : Nat) : Nat := if i < place then i else i + count

theorem moved_of_lt {place count i : Nat} (h : i < place) : moved place count i = i := if_pos h

theorem moved_of_le {place count i : Nat} (h : place ≤ i) : moved place count i = i + count :=
  if_neg (Nat.not_lt.2 h)

theorem moved_lt_moved {place count i j : Nat} (h : i < j) :
    moved place count i < moved place count j := by
  unfold moved
  split <;> split <;> omega

theorem moved_inj {place count i j : Nat} (h : moved place count i = moved place count j) :
    i = j := by
  rcases Nat.lt_trichotomy i j with hlt | heq | hgt
  · exact absurd h (Nat.ne_of_lt (moved_lt_moved hlt))
  · exact heq
  · exact absurd h.symm (Nat.ne_of_lt (moved_lt_moved hgt))

theorem getElem?_moved {α : Type} {front fresh back : List α} (i : Nat) :
    (front ++ (fresh ++ back))[moved front.length fresh.length i]? = (front ++ back)[i]? := by
  rcases Nat.lt_or_ge i front.length with hlt | hge
  · rw [moved_of_lt hlt, List.getElem?_append_left hlt, List.getElem?_append_left hlt]
  · rw [moved_of_le hge, ← List.append_assoc,
      List.getElem?_append_right (by rw [List.length_append]; omega),
      List.getElem?_append_right hge, List.length_append]
    congr 1
    omega

theorem getElem?_fresh {α : Type} {front fresh back : List α} {j : Nat} (hj : j < fresh.length) :
    (front ++ (fresh ++ back))[front.length + j]? = some fresh[j] := by
  rw [List.getElem?_append_right (Nat.le_add_right _ _), Nat.add_sub_cancel_left,
    List.getElem?_append_left hj, List.getElem?_eq_getElem hj]

/-! ### Open headings -/

/-- An open heading under another number. -/
def OpenHeading.renumber (f : Nat → Nat) (o : OpenHeading) : OpenHeading := ⟨o.level, f o.index⟩

/-- What a node may hang under depends on levels alone. -/
theorem admitted_renumber (f : Nat → Nat) (kind : Kind) (opened : List OpenHeading) :
    admitted kind (opened.map (.renumber f)) = (admitted kind opened).map (.renumber f) := by
  unfold admitted
  split
  · rw [List.dropWhile_map]
    rfl
  · rfl

theorem opening_renumber (f : Nat → Nat) (kind : Kind) (i : Nat) (above : List OpenHeading) :
    opening kind (f i) (above.map (.renumber f)) = (opening kind i above).map (.renumber f) := by
  unfold opening
  split <;> rfl

/-- What is open before a node depends on the nodes before it. -/
theorem openedAt_congr {kinds kinds' : List Kind} : ∀ {i : Nat},
    (∀ j < i, kinds[j]? = kinds'[j]?) → openedAt kinds i = openedAt kinds' i
  | 0, _ => rfl
  | i + 1, h => by
    rw [openedAt, openedAt, h i (Nat.lt_succ_self i),
      openedAt_congr fun j hj => h j (Nat.lt_succ_of_lt hj)]

/-- A node that is no heading closes nothing. -/
theorem admitted_of_plain {kind : Kind} (h : kind.level? = none) (opened : List OpenHeading) :
    admitted kind opened = opened := by
  unfold admitted
  rw [h]

theorem opening_of_plain {kind : Kind} (h : kind.level? = none) (i : Nat)
    (above : List OpenHeading) : opening kind i above = above := by
  unfold opening
  rw [h]

variable {front fresh back : List Kind}

/-- Before the new nodes and between them those headings are open that were open there. -/
theorem openedAt_fresh (hfresh : ∀ kind ∈ fresh, kind.level? = none) : ∀ {j : Nat},
    j ≤ fresh.length → openedAt (front ++ (fresh ++ back)) (front.length + j) =
      openedAt (front ++ back) front.length
  | 0, _ => openedAt_congr fun j hj => by
    rw [List.getElem?_append_left hj, List.getElem?_append_left hj]
  | j + 1, hj => by
    have hplain : fresh[j].level? = none := hfresh _ (List.getElem_mem hj)
    rw [← Nat.add_assoc, openedAt, getElem?_fresh hj]
    dsimp only
    rw [opening_of_plain hplain, admitted_of_plain hplain]
    exact openedAt_fresh hfresh (Nat.le_of_succ_le hj)

/-- Headings that are open before the place keep their numbers. -/
theorem renumber_openedAt {kinds : List Kind} {place count i : Nat} (h : i ≤ place) :
    (openedAt kinds i).map (.renumber (moved place count)) = openedAt kinds i := by
  have hsame : ∀ o ∈ openedAt kinds i, o.renumber (moved place count) = o := fun o ho => by
    rw [OpenHeading.renumber, moved_of_lt (Nat.lt_of_lt_of_le (heading_of_opened i o ho).1 h)]
  rw [List.map_congr_left hsame, List.map_id']

/-- After the new nodes the same headings are open, under the numbers that they have then. -/
theorem openedAt_after (hfresh : ∀ kind ∈ fresh, kind.level? = none) (i : Nat) :
    openedAt (front ++ (fresh ++ back)) (front.length + i + fresh.length) =
      (openedAt (front ++ back) (front.length + i)).map
        (.renumber (moved front.length fresh.length)) := by
  induction i with
  | zero =>
    rw [Nat.add_zero, openedAt_fresh hfresh (Nat.le_refl _), renumber_openedAt (Nat.le_refl _)]
  | succ i ih =>
    have hnumber : front.length + i + fresh.length =
        moved front.length fresh.length (front.length + i) :=
      (moved_of_le (Nat.le_add_right _ _)).symm
    have hget : (front ++ (fresh ++ back))[front.length + i + fresh.length]? =
        (front ++ back)[front.length + i]? := by rw [hnumber, getElem?_moved]
    rw [← Nat.add_assoc, Nat.add_right_comm _ 1, openedAt, openedAt, hget, ih]
    cases (front ++ back)[front.length + i]? with
    | none => rfl
    | some kind =>
      dsimp only
      rw [admitted_renumber, hnumber, opening_renumber]

/-- Before every node the same headings are open, under the numbers that they have then. -/
theorem openedAt_moved (hfresh : ∀ kind ∈ fresh, kind.level? = none) (i : Nat) :
    openedAt (front ++ (fresh ++ back)) (moved front.length fresh.length i) =
      (openedAt (front ++ back) i).map (.renumber (moved front.length fresh.length)) := by
  rcases Nat.lt_or_ge i front.length with hlt | hge
  · rw [moved_of_lt hlt, renumber_openedAt (Nat.le_of_lt hlt)]
    refine openedAt_congr fun j hj => ?_
    rw [List.getElem?_append_left (Nat.lt_trans hj hlt),
      List.getElem?_append_left (Nat.lt_trans hj hlt)]
  · obtain ⟨k, rfl⟩ := Nat.exists_eq_add_of_le hge
    rw [moved_of_le hge, openedAt_after hfresh]

/-! ### Lineages -/

theorem lineage_moved (hfresh : ∀ kind ∈ fresh, kind.level? = none) (i : Nat) :
    lineage (front ++ (fresh ++ back)) (moved front.length fresh.length i) =
      (lineage (front ++ back) i).map (moved front.length fresh.length) := by
  have hchain : chainAt (front ++ (fresh ++ back)) (moved front.length fresh.length i) =
      (chainAt (front ++ back) i).map (.renumber (moved front.length fresh.length)) := by
    rw [chainAt, chainAt, getElem?_moved, openedAt_moved hfresh]
    cases (front ++ back)[i]? with
    | none => rfl
    | some kind => exact admitted_renumber _ kind _
  rw [lineage, lineage, hchain, List.map_map, List.map_map]
  rfl

/-- A new node hangs under what is open at the place. -/
theorem lineage_fresh (hfresh : ∀ kind ∈ fresh, kind.level? = none) {j : Nat}
    (hj : j < fresh.length) :
    lineage (front ++ (fresh ++ back)) (front.length + j) =
      (openedAt (front ++ back) front.length).map (·.index) := by
  have hplain : fresh[j].level? = none := hfresh _ (List.getElem_mem hj)
  rw [lineage, chainAt, getElem?_fresh hj]
  dsimp only
  rw [admitted_of_plain hplain, openedAt_fresh hfresh (Nat.le_of_lt hj)]

/-! ### Nodes -/

/-- What a block says, wherever it stands. -/
def Block.reading (b : Block) : Kind × Text := (b.kind, b.text)

/-- What the nodes of a document say. -/
def readings (d : Document Node) : List (Kind × Text) := d.nodes.map (·.entry.toBlock.reading)

theorem kindsOf_eq_readings (d : Document Node) : kindsOf d = (readings d).map Prod.fst := by
  rw [kindsOf, readings, List.map_map]
  rfl

/-- Two nodes say the same. -/
structure SameReading (n n' : Node) : Prop where
  /-- They are of the same kind. -/
  kind : n'.entry.kind = n.entry.kind
  /-- They have the same text. -/
  text : n'.entry.text = n.entry.text

theorem SameReading.of_reading {n n' : Node}
    (h : n'.entry.toBlock.reading = n.entry.toBlock.reading) : SameReading n n' :=
  ⟨congrArg Prod.fst h, congrArg Prod.snd h⟩

/-- A document has become another by nodes that were put in before the one numbered `place`. -/
structure Grown (d d' : Document Node) (new : List (Statement Node)) (place : Nat) : Prop where
  /-- The place is in the document. -/
  place_le : place ≤ d.nodes.length
  /-- There are the nodes of the document and the new ones, and no others. -/
  length : d'.nodes.length = d.nodes.length + new.length
  /-- The nodes of the document say what they said, in the same order, and hang under the same
      nodes. -/
  kept : ∀ i n, d.nodes[i]? = some n → ∃ n', d'.nodes[moved place new.length i]? = some n' ∧
    SameReading n n' ∧ n'.entry.parent = n.entry.parent.map (moved place new.length)
  /-- The new nodes stand at the place, in order. -/
  fresh : ∀ j x, new[j]? = some x → ∃ n', d'.nodes[place + j]? = some n' ∧ SameReading x.node n'

variable {markers : MarkerRegistry} {source content : Text} {d d' : Document Node}
  {above below : List (Kind × Text)} {new : List (Statement Node)}

/-- What a document says when nodes have been put in. -/
structure PutIn (d d' : Document Node) (above below : List (Kind × Text))
    (new : List (Statement Node)) : Prop where
  /-- The document is cut in two. -/
  before : readings d = above ++ below
  /-- The new nodes are in between. -/
  after : readings d' = above ++ (new.map (·.node.entry.toBlock.reading) ++ below)
  /-- They are no headings. -/
  plain : ∀ x ∈ new, x.node.entry.kind.level? = none

namespace PutIn

theorem length_before (h : PutIn d d' above below new) :
    d.nodes.length = above.length + below.length := by
  rw [← List.length_append, ← h.before, readings, List.length_map]

theorem length_after (h : PutIn d d' above below new) :
    d'.nodes.length = d.nodes.length + new.length := by
  have hlength := congrArg List.length h.after
  rw [readings, List.length_map, List.length_append, List.length_append, List.length_map]
    at hlength
  rw [hlength, h.length_before]
  omega

/-- The ancestors of the nodes of the document, and those of the new nodes. -/
theorem lineages (h : PutIn d d' above below new) :
    (∀ i, lineage (kindsOf d') (moved above.length new.length i) =
      (lineage (kindsOf d) i).map (moved above.length new.length)) ∧
    ∀ j < new.length, lineage (kindsOf d') (above.length + j) =
      (openedAt (kindsOf d) above.length).map (·.index) := by
  have hplain : ∀ kind ∈ (new.map (·.node.entry.toBlock.reading)).map Prod.fst,
      kind.level? = none := by
    intro kind hkind
    rw [List.map_map] at hkind
    obtain ⟨x, hx, rfl⟩ := List.mem_map.1 hkind
    exact h.plain x hx
  have hkinds : kindsOf d = above.map Prod.fst ++ below.map Prod.fst := by
    rw [kindsOf_eq_readings, h.before, List.map_append]
  have hkinds' : kindsOf d' = above.map Prod.fst ++
      ((new.map (·.node.entry.toBlock.reading)).map Prod.fst ++ below.map Prod.fst) := by
    rw [kindsOf_eq_readings, h.after, List.map_append, List.map_append]
  constructor
  · intro i
    have hmoved := @lineage_moved (above.map Prod.fst) _ (below.map Prod.fst) hplain i
    rwa [← hkinds, ← hkinds', List.length_map, List.length_map, List.length_map] at hmoved
  · intro j hj
    have hfresh := @lineage_fresh (above.map Prod.fst) _ (below.map Prod.fst) hplain j
      (by rwa [List.length_map, List.length_map])
    rwa [← hkinds, ← hkinds', List.length_map] at hfresh

/-- So the document has grown by the new nodes. -/
theorem grown (h : PutIn d d' above below new) (hd : parse markers source = .ok d)
    (hd' : parse markers content = .ok d') : Grown d d' new above.length := by
  refine ⟨by rw [h.length_before]; omega, h.length_after, fun i n hn => ?_, fun j x hx => ?_⟩
  · have hreading : (readings d')[moved above.length new.length i]? = (readings d)[i]? := by
      have hmoved := @getElem?_moved _ above (new.map (·.node.entry.toBlock.reading)) below i
      rwa [List.length_map, ← h.after, ← h.before] at hmoved
    rw [readings, readings, List.getElem?_map, List.getElem?_map, hn] at hreading
    obtain ⟨n', hn', hsame⟩ := Option.map_eq_some_iff.1 hreading
    refine ⟨n', hn', .of_reading hsame, ?_⟩
    rw [parentNumber_of_parse hd' hn', parentNumber_of_parse hd hn, h.lineages.1, List.head?_map]
  · obtain ⟨hj, rfl⟩ := List.getElem?_eq_some_iff.1 hx
    have hreading : (readings d')[above.length + j]? =
        some new[j].node.entry.toBlock.reading := by
      rw [h.after, getElem?_fresh (by rwa [List.length_map]), List.getElem_map]
    rw [readings, List.getElem?_map] at hreading
    obtain ⟨n', hn', hsame⟩ := Option.map_eq_some_iff.1 hreading
    exact ⟨n', hn', .of_reading hsame⟩

end PutIn

/-! ### Children -/

theorem children_of_parse (h : parse markers source = .ok d) {i : Nat} {n : Node}
    (hn : d.nodes[i]? = some n) : n.children.map (·.index.val) =
      (List.range d.nodes.length).filter fun j => (lineage (kindsOf d) j).head? = some i := by
  have hall := nodes_of_parse h
  have hown := under_eq_filter h (List.mem_of_getElem? hn)
  generalize tree (blocks 1 (d.lines.map Text.chomp) d.spans) = t at hall
  have hlength : d.nodes.length = t.length := by rw [hall, Node.all]; simp
  rw [hall, getElem?_all] at hn
  split at hn
  next hi =>
    obtain rfl := Option.some.inj hn
    have hparent : ∀ j : Fin t.length, (Node.mk t j).entry.parent =
        (lineage (kindsOf d) j.val).head? := fun j =>
      parentNumber_of_parse h (by rw [hall, getElem?_all, dif_pos j.isLt])
    have hchildren : (Node.mk t ⟨i, hi⟩).children = ((List.finRange t.length).filter fun j =>
        (lineage (kindsOf d) j.val).head? = some i).map (Node.mk t) := by
      rw [Node.children, hown, hall, Node.all, List.filter_map]
      refine congrArg (List.map _) (List.filter_congr fun j _ => ?_)
      rw [Function.comp_apply, hparent]
    rw [hchildren, List.map_map, hlength, ← List.map_coe_finRange_eq_range, List.filter_map]
    rfl
  next => cases hn

/-- Of numbers from which none is taken below a place, those that are put in there come first. -/
theorem filter_range_moved {p p' : Nat → Bool} {place count length : Nat} (hle : place ≤ length)
    (hbelow : ∀ j < place, p j = false ∧ p' j = false) (hnew : ∀ j < count, p' (place + j) = true)
    (hmoved : ∀ j, place ≤ j → p' (j + count) = p j) :
    (List.range (length + count)).filter p' =
      List.range' place count ++ ((List.range length).filter p).map (moved place count) := by
  obtain ⟨k, rfl⟩ := Nat.exists_eq_add_of_le hle
  have hnone : (List.range place).filter p = [] ∧ (List.range place).filter p' = [] :=
    ⟨List.filter_eq_nil_iff.2 fun j hj => by simp [hbelow j (List.mem_range.1 hj)],
      List.filter_eq_nil_iff.2 fun j hj => by simp [hbelow j (List.mem_range.1 hj)]⟩
  have hall : ((List.range count).map (place + ·)).filter p' = List.range' place count := by
    rw [List.range'_eq_map_range, List.filter_eq_self]
    intro j hj
    obtain ⟨i, hi, rfl⟩ := List.mem_map.1 hj
    exact hnew i (List.mem_range.1 hi)
  have hafter : (((List.range k).map (count + ·)).map (place + ·)).filter p' =
      (((List.range k).map (place + ·)).filter p).map (moved place count) := by
    rw [List.map_map, List.filter_map, List.filter_map, List.map_map]
    have hsame : ∀ j, place + (count + j) = place + j + count := fun j => by omega
    refine congrArg₂ List.map (funext fun j => ?_) (List.filter_congr fun j _ => ?_)
    · exact (hsame j).trans (moved_of_le (Nat.le_add_right _ _)).symm
    · exact (congrArg p' (hsame j)).trans (hmoved _ (Nat.le_add_right _ _))
  rw [Nat.add_assoc, Nat.add_comm k, List.range_add, List.range_add, List.range_add,
    List.map_append, List.filter_append, List.filter_append, List.filter_append, hnone.1, hnone.2,
    hall, hafter, List.nil_append, List.nil_append]

/-- A heading is what is open innermost after it. -/
theorem openedAt_heading {kinds : List Kind} {i level : Nat}
    (h : kinds[i]? = some (.heading level)) :
    (openedAt kinds (i + 1)).map (·.index) = i :: lineage kinds i := by
  rw [openedAt, h, lineage, chainAt, h]
  rfl

/-- New nodes that follow a heading at once are its first children, before those it had. -/
theorem PutIn.children_first (h : PutIn d d' above below new) (hd : parse markers source = .ok d)
    (hd' : parse markers content = .ok d') {i level : Nat} (hplace : above.length = i + 1)
    {n n' : Node} (hn : d.nodes[i]? = some n) (hkind : n.entry.kind = .heading level)
    (hn' : d'.nodes[i]? = some n') : n'.children.map (·.index.val) =
      List.range' (i + 1) new.length ++
        (n.children.map (·.index.val)).map (moved (i + 1) new.length) := by
  have hheading : (kindsOf d)[i]? = some (.heading level) := by
    rw [kindsOf, List.getElem?_map, hn, Option.map_some, hkind]
  obtain ⟨hmoved, hnew⟩ := h.lineages
  rw [hplace] at hmoved hnew
  -- a node hangs under a node before it
  have hbelow : ∀ kinds : List Kind, ∀ j < i + 1, (lineage kinds j).head? ≠ some i := by
    intro kinds j hj hhead
    obtain ⟨o, ho, rfl⟩ := List.mem_map.1 (List.mem_of_head? hhead)
    have hbefore := (heading_of_opened j o ((chainAt_suffix kinds j).subset ho)).1
    omega
  have hle : i + 1 ≤ d.nodes.length := (List.getElem?_eq_some_iff.1 hn).1
  rw [children_of_parse hd' hn', h.length_after, children_of_parse hd hn]
  refine filter_range_moved hle (fun j hj => ⟨?_, ?_⟩) (fun j hj => ?_) fun j hj => ?_
  · exact decide_eq_false (hbelow _ j hj)
  · exact decide_eq_false (hbelow _ j hj)
  · rw [hnew j hj, openedAt_heading hheading]
    exact decide_eq_true rfl
  · have hsame : ∀ parent : Option Nat,
        parent.map (moved (i + 1) new.length) = some i ↔ parent = some i := by
      intro parent
      have hown : moved (i + 1) new.length i = i := moved_of_lt (Nat.lt_succ_self i)
      rw [Option.map_eq_some_iff]
      constructor
      · rintro ⟨k, rfl, hk⟩
        rw [moved_inj (hk.trans hown.symm)]
      · rintro rfl
        exact ⟨i, rfl, hown⟩
    rw [← moved_of_le hj, hmoved, List.head?_map]
    exact decide_eq_decide.2 (hsame _)

end Outline

end TemplateMerge
