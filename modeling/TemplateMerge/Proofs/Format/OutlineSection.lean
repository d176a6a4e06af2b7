import TemplateMerge.Proofs.Format.OutlineFrame
import TemplateMerge.Proofs.Merge.Places

/-! Sections of an outline.

    A node of an outline is a frozen region, or a line outside of regions.  So an outline can be cut
    before every node and after it.  The lines between two such cuts are an outline of their own,
    and its nodes are those that stand there, as many lines further up as the section begins further
    down.

        lines       1   2   ▒▒▒▒▒▒▒   6   7
        nodes       0   1   ── 2 ──   3   4
        section         1   ▒▒▒▒▒▒▒   5
        nodes           0   ── 1 ──   2

    Where a node hangs in the tree is not kept: its parent may be outside the section. -/

namespace TemplateMerge

namespace Outline

variable {markers : MarkerRegistry} {source : Text} {d : Document Node}

/-! ### Cuts -/

theorem position_cases (h : parse markers source = .ok d) {s : Statement Node}
    (hs : s ∈ statements d.nodes) :
    (∃ span ∈ d.spans, s.position = span.position) ∨
      ∃ line, s.position = .single line ∧ ∀ span ∈ d.spans, ¬ span.Covers line := by
  rcases Decidable.em (d.Frozen s.node) with hfrozen | hfrozen
  · have hnode : s.node ∈ d.nodes := List.mem_of_getElem? (getElem?_nodes hs)
    have hkind := (frozen_iff h hnode).1 hfrozen
    have hblock : s.node.entry.toBlock ∈ blocks 1 (d.lines.map Text.chomp) d.spans := by
      rw [← blocks_of_parse h]
      exact List.mem_map_of_mem (f := fun n : Node => n.entry.toBlock) hnode
    refine .inl ((mem_blocks hblock).resolve_right ?_)
    rintro ⟨i, hi, heq⟩
    exact classify_ne_freezeBlock _ ((congrArg Block.kind heq).symm.trans hkind)
  · obtain ⟨line, hline⟩ := (linewise markers).lineStatement h hs hfrozen
    exact .inr ⟨line, hline.position, hline.outside⟩

theorem cuttable_node (h : parse markers source = .ok d) {s : Statement Node}
    (hs : s ∈ statements d.nodes) :
    d.Cuttable (s.position.startLine - 1) ∧ d.Cuttable s.position.endLine := by
  have hspans := (linewise markers).spansWithin h
  obtain ⟨hfirst, hlast⟩ := ((linewise markers).inOrder h).within s hs
  have hordered := s.position.ordered
  -- a region that goes on over an end of the node has a line of it
  have hout : ∀ span ∈ d.spans, ¬ span.Straddles (s.position.startLine - 1) ∧
      ¬ span.Straddles s.position.endLine := by
    intro span hspan
    rcases position_cases h hs with ⟨own, hown, hposition⟩ | ⟨line, hposition, hnone⟩
    · obtain ⟨-, hlt, -⟩ := hspans.2 own hown
      have hend : own.position.endLine = own.endLine := Nat.max_eq_left (Nat.le_of_lt hlt)
      rw [hposition, hend]
      constructor
      · rintro ⟨h1, h2⟩
        have h1 : span.startLine ≤ own.startLine - 1 := h1
        have h2 : own.startLine - 1 < span.endLine := h2
        have hstart : 1 ≤ own.startLine := (hspans.2 own hown).1
        have hsame := hspans.eq_of_covers hspan hown (n := own.startLine) ⟨by omega, by omega⟩
          ⟨Nat.le_refl _, Nat.le_of_lt hlt⟩
        rw [hsame] at h1
        omega
      · rintro ⟨h1, h2⟩
        have hsame := hspans.eq_of_covers hspan hown ⟨h1, Nat.le_of_lt h2⟩
          ⟨Nat.le_of_lt hlt, Nat.le_refl _⟩
        rw [hsame] at h2
        omega
    · rw [hposition] at hfirst ⊢
      have hfirst : 1 ≤ line := hfirst
      constructor
      · rintro ⟨h1, h2⟩
        have h1 : span.startLine ≤ line - 1 := h1
        have h2 : line - 1 < span.endLine := h2
        exact hnone span hspan ⟨by omega, by omega⟩
      · rintro ⟨h1, h2⟩
        exact hnone span hspan ⟨h1, Nat.le_of_lt h2⟩
  exact ⟨⟨by omega, fun span hspan => (hout span hspan).1⟩,
    ⟨hlast, fun span hspan => (hout span hspan).2⟩⟩

/-! ### Lines between two cuts -/

/-- Lines that are cut twice where no region is open are scanned in three parts. -/
theorem exists_scan_parts {a b c : List Text} {spans : List FreezeSpan}
    (h : markers.scan (a ++ (b ++ c)) = .ok spans)
    (hfirst : ∀ s ∈ spans, ¬ s.Straddles a.length)
    (hlast : ∀ s ∈ spans, ¬ s.Straddles (a.length + b.length)) :
    ∃ sa sb sc, spans = sa ++ (sb.map (·.shift a.length) ++ sc) ∧ markers.scan a = .ok sa ∧
      markers.scan b = .ok sb ∧
      MarkerRegistry.SpansWithin (1 + a.length + b.length) (1 + a.length + b.length + c.length)
        sc := by
  obtain ⟨sa, srest, rfl, hsa, hsrest⟩ := MarkerRegistry.scanFrom_cut h (by simp)
    (by rw [Nat.add_sub_cancel_left]; exact hfirst)
  obtain ⟨sb, sc, rfl, hsb, hsc⟩ := MarkerRegistry.scanFrom_cut hsrest (by simp) fun s hs => by
    rw [Nat.add_assoc, Nat.add_sub_cancel_left]
    exact hlast s (List.mem_append_right _ hs)
  obtain ⟨own, hown, rfl⟩ := MarkerRegistry.exists_scanFrom_unshift (o := none) hsb
  exact ⟨sa, own, sc, rfl, hsa, hown, MarkerRegistry.spansWithin_scanFrom hsc (by simp)⟩

/-- Their blocks are those of the parts, where these stand. -/
theorem blocks_parts {a b c : List Text} {sa sb sc : List FreezeSpan}
    (ha : MarkerRegistry.SpansWithin 1 (1 + a.length) sa)
    (hb : MarkerRegistry.SpansWithin 1 (1 + b.length) sb)
    (hc : MarkerRegistry.SpansWithin (1 + a.length + b.length)
      (1 + a.length + b.length + c.length) sc) :
    blocks 1 (a ++ (b ++ c)) (sa ++ (sb.map (·.shift a.length) ++ sc)) =
      blocks 1 a sa ++ ((blocks 1 b sb).map (Block.shift a.length) ++
        blocks (1 + a.length + b.length) c sc) := by
  have hshifted : MarkerRegistry.SpansWithin (1 + a.length) (1 + a.length + b.length)
      (sb.map (·.shift a.length)) := by
    refine ⟨List.pairwise_map.2 (hb.1.imp fun hlt => Nat.add_lt_add_right hlt a.length),
      fun s hs => ?_⟩
    obtain ⟨own, hown, rfl⟩ := List.mem_map.1 hs
    obtain ⟨h1, h2, h3⟩ := hb.2 own hown
    refine ⟨Nat.add_le_add_right h1 a.length, Nat.add_lt_add_right h2 a.length, ?_⟩
    show own.endLine + a.length < _
    omega
  have hlater : ∀ s ∈ sb.map (·.shift a.length) ++ sc, 1 + a.length ≤ s.startLine := by
    intro s hs
    rcases List.mem_append.1 hs with hs | hs
    · exact (hshifted.2 s hs).1
    · exact Nat.le_trans (Nat.le_add_right _ b.length) (hc.2 s hs).1
  rw [blocks_append ha hlater, blocks_append hshifted fun s hs => (hc.2 s hs).1, blocks_shift]

/-- The lines between two cuts are an outline, and its blocks are those between the cuts. -/
theorem exists_section (h : parse markers source = .ok d) {first last : Nat} (h1 : 1 ≤ first)
    (hle : first ≤ last) (hfirst : d.Cuttable (first - 1)) (hlast : d.Cuttable last) :
    ∃ part above below, parse markers (d.sourceRange first last) = .ok part ∧
      d.nodes.map (·.entry.toBlock) =
        above ++ ((part.nodes.map (·.entry.toBlock)).map (Block.shift (first - 1)) ++ below) ∧
      (∀ b ∈ above, b.position.endLine < first) ∧
      (∀ b ∈ (part.nodes.map (·.entry.toBlock)).map (Block.shift (first - 1)),
        first ≤ b.position.startLine ∧ b.position.endLine ≤ last) ∧
      ∀ b ∈ below, last < b.position.startLine := by
  have hcount : last ≤ d.lines.length := hlast.1
  have hlines := d.lines_eq_parts hle
  have hscan := (lines_of_parse h).2.1
  obtain ⟨a, ha⟩ : ∃ a, d.lines.take (first - 1) = a := ⟨_, rfl⟩
  obtain ⟨b, hb⟩ : ∃ b, (d.lines.take last).drop (first - 1) = b := ⟨_, rfl⟩
  obtain ⟨c, hc⟩ : ∃ c, d.lines.drop last = c := ⟨_, rfl⟩
  have hlengthA : a.length = first - 1 := by rw [← ha, List.length_take]; omega
  have hlengthB : 1 + a.length + b.length = 1 + last := by
    rw [hlengthA, ← hb, List.length_drop, List.length_take]
    omega
  rw [ha, hb, hc] at hlines
  rw [hlines] at hscan
  obtain ⟨sa, sb, sc, hspans, hsa, hsb, hsc⟩ := exists_scan_parts hscan
    (by rw [hlengthA]; exact hfirst.2)
    (by rw [show a.length + b.length = last by omega]; exact hlast.2)
  have hwithinA := MarkerRegistry.spansWithin_scan hsa
  have hwithinB := MarkerRegistry.spansWithin_scan hsb
  -- what the section is read as
  have hsplit : Text.splitLines (d.sourceRange first last) = b :=
    (d.splitLines_sourceRange first last).trans hb
  obtain ⟨part, hpart⟩ : ∃ part, parse markers (d.sourceRange first last) = .ok part :=
    parse_of_scan (hsplit.symm ▸ hsb)
  have hpartBlocks : part.nodes.map (·.entry.toBlock) = blocks 1 (b.map Text.chomp) sb := by
    obtain ⟨hpartLines, hpartScan, -⟩ := lines_of_parse hpart
    rw [hsplit] at hpartLines
    rw [hpartLines] at hpartScan
    rw [blocks_of_parse hpart, hpartLines, Except.ok.inj (hpartScan.symm.trans hsb)]
  have hlengthC : (c.map Text.chomp).length = c.length := List.length_map Text.chomp
  rw [← List.length_map Text.chomp] at hwithinA hwithinB
  rw [hlengthB, ← hlengthC] at hsc
  have hblocks : d.nodes.map (·.entry.toBlock) = blocks 1 (a.map Text.chomp) sa ++
      ((part.nodes.map (·.entry.toBlock)).map (Block.shift (first - 1)) ++
        blocks (1 + last) (c.map Text.chomp) sc) := by
    have hparts := @blocks_parts _ _ (c.map Text.chomp) _ _ sc hwithinA hwithinB
    rw [List.length_map, List.length_map, hlengthB, hlengthA] at hparts
    rw [blocks_of_parse h, hlines, hspans, List.map_append, List.map_append, hlengthA,
      hparts hsc, hpartBlocks]
  refine ⟨part, _, _, hpart, hblocks, fun x hx => ?_, fun x hx => ?_, fun x hx => ?_⟩
  · have hend := (mem_blocks_within hwithinA hx).2
    rw [List.length_map] at hend
    omega
  · obtain ⟨own, hown, rfl⟩ := List.mem_map.1 hx
    rw [hpartBlocks] at hown
    obtain ⟨hstart, hend⟩ := mem_blocks_within hwithinB hown
    rw [List.length_map] at hend
    show first ≤ own.position.startLine + (first - 1) ∧ own.position.endLine + (first - 1) ≤ last
    omega
  · have hstart := (mem_blocks_within hsc hx).1
    omega

/-! ### Nodes between two nodes -/

/-- A node of a section and the node of the outline that it is, when the section begins after so
    many nodes. -/
structure Counterpart (before : Nat) (t x : Statement Node) : Prop where
  index : x.index = before + t.index
  kind : x.node.entry.kind = t.node.entry.kind
  text : x.node.entry.text = t.node.entry.text

/-- Of blocks that are cut in front of a line, those of the front end before it. -/
theorem index_lt_iff {front back : List Block}
    (hcut : d.nodes.map (·.entry.toBlock) = front ++ back) {line : Nat}
    (hfront : ∀ b ∈ front, b.position.endLine < line)
    (hback : ∀ b ∈ back, line ≤ b.position.startLine) {s : Statement Node}
    (hs : s ∈ statements d.nodes) : s.index < front.length ↔ s.position.endLine < line := by
  have hget : (front ++ back)[s.index]? = some s.node.entry.toBlock := by
    rw [← hcut, List.getElem?_map, getElem?_nodes hs]
    rfl
  constructor
  · intro hlt
    rw [List.getElem?_append_left hlt] at hget
    exact hfront _ (List.mem_of_getElem? hget)
  · intro hlt
    by_contra hge
    rw [List.getElem?_append_right (Nat.le_of_not_lt hge)] at hget
    have hstart : line ≤ s.position.startLine := hback _ (List.mem_of_getElem? hget)
    have := s.position.ordered
    omega

/-- The front has the nodes before the one that is the first to end on the line or after it. -/
theorem length_front {front back : List Block}
    (hcut : d.nodes.map (·.entry.toBlock) = front ++ back) {line : Nat}
    (hfront : ∀ b ∈ front, b.position.endLine < line)
    (hback : ∀ b ∈ back, line ≤ b.position.startLine) {n : Nat} (hn : n ≤ d.nodes.length)
    (hbefore : ∀ s ∈ statements d.nodes, s.index < n ↔ s.position.endLine < line) :
    front.length = n := by
  have hlength : front.length ≤ d.nodes.length := by
    have hall := congrArg List.length hcut
    rw [List.length_map, List.length_append] at hall
    omega
  have hagree : ∀ i, i < d.nodes.length → (i < front.length ↔ i < n) := by
    intro i hi
    obtain ⟨s, hs, rfl⟩ := exists_statement hi
    exact (index_lt_iff hcut hfront hback hs).trans (hbefore s hs).symm
  rcases Nat.lt_trichotomy front.length n with hlt | heq | hgt
  · exact absurd ((hagree _ (by omega)).2 hlt) (Nat.lt_irrefl _)
  · exact heq
  · exact absurd ((hagree _ (by omega)).1 hgt) (Nat.lt_irrefl _)

/-- Blocks with others above and below are blocks of the nodes from one number to another. -/
theorem counterparts_of_cut {part : Document Node} {above below : List Block} {k first last : Nat}
    (hcut : d.nodes.map (·.entry.toBlock) =
      above ++ ((part.nodes.map (·.entry.toBlock)).map (Block.shift k) ++ below))
    (hfirst : above.length = first) (hlast : above.length + part.nodes.length = last + 1) :
    List.Forall₂ (Counterpart first) (statements part.nodes)
      (Statement.range (statements d.nodes) first last) := by
  have hlength := congrArg List.length hcut
  simp only [List.length_append, List.length_map] at hlength
  refine Pairing.forall₂_of_getElem? ?_ fun i t x ht hx => ?_
  · rw [length_statements, Statement.range, List.length_drop, List.length_take, length_statements]
    omega
  · rw [getElem?_statements] at ht
    obtain ⟨n, hn, rfl⟩ := Option.map_eq_some_iff.1 ht
    have hi : i < part.nodes.length := (List.getElem?_eq_some_iff.1 hn).1
    rw [Statement.range, List.getElem?_drop, List.getElem?_take, if_pos (by omega),
      getElem?_statements] at hx
    obtain ⟨n', hn', rfl⟩ := Option.map_eq_some_iff.1 hx
    have hblock := congrArg (fun bs => bs[first + i]?) hcut
    rw [List.getElem?_map, hn', ← hfirst, List.getElem?_append_right (Nat.le_add_right _ _),
      Nat.add_sub_cancel_left, List.getElem?_append_left (by simpa using hi), List.getElem?_map,
      List.getElem?_map, hn] at hblock
    have hown : n'.entry.toBlock = n.entry.toBlock.shift k := Option.some.inj hblock
    exact ⟨rfl, (congrArg Block.kind hown).trans rfl, (congrArg Block.text hown).trans rfl⟩

/-- The lines from a node to a later one are an outline, whose nodes are those from the one to the
    other. -/
theorem exists_counterparts (h : parse markers source = .ok d) {anchor final : Statement Node}
    (hanchor : anchor ∈ statements d.nodes) (hfinal : final ∈ statements d.nodes)
    (hle : anchor.index ≤ final.index) :
    ∃ part, parse markers (d.sourceRange anchor.position.startLine final.position.endLine) =
        .ok part ∧
      List.Forall₂ (Counterpart anchor.index) (statements part.nodes)
        (Statement.range (statements d.nodes) anchor.index final.index) := by
  have hsound : (Prepared.make (format markers) d).Sound :=
    ⟨numberedFrom_statements d.nodes, (linewise markers).inOrder h,
      (linewise markers).spansWithin h⟩
  have hgetAnchor := getElem?_of_mem_statements hanchor
  have hgetFinal := getElem?_of_mem_statements hfinal
  have hlt : final.index < d.nodes.length := (List.getElem?_eq_some_iff.1 (getElem?_nodes hfinal)).1
  have hlines : anchor.position.startLine ≤ final.position.endLine :=
    Nat.le_trans anchor.position.ordered (hsound.endLine_mono hgetAnchor hgetFinal hle)
  obtain ⟨part, above, below, hpart, hcut, habove, hwithin, hbelow⟩ :=
    exists_section h (hsound.ordered.within anchor hanchor).1 hlines (cuttable_node h hanchor).1
      (cuttable_node h hfinal).2
  have hbefore : above.length = anchor.index := by
    refine length_front hcut habove (fun b hb => ?_) (by omega) fun s hs =>
      hsound.index_lt_iff (getElem?_of_mem_statements hs) hgetAnchor
    rcases List.mem_append.1 hb with hb | hb
    · exact (hwithin b hb).1
    · exact Nat.le_trans hlines (Nat.le_of_lt (hbelow b hb))
  have hupTo : (above ++ (part.nodes.map (·.entry.toBlock)).map
      (Block.shift (anchor.position.startLine - 1))).length = final.index + 1 := by
    rw [← List.append_assoc] at hcut
    refine length_front hcut (fun b hb => ?_) hbelow (by omega) fun s hs => ?_
    · rcases List.mem_append.1 hb with hb | hb
      · exact Nat.lt_succ_of_lt (Nat.lt_of_lt_of_le (habove b hb) hlines)
      · exact Nat.lt_succ_of_le (hwithin b hb).2
    · rw [Nat.lt_succ_iff, Nat.lt_succ_iff]
      exact hsound.index_le_iff (getElem?_of_mem_statements hs) hgetFinal
  rw [List.length_append, List.length_map, List.length_map] at hupTo
  exact ⟨part, hpart, counterparts_of_cut hcut hbefore hupTo⟩

end Outline

end TemplateMerge
