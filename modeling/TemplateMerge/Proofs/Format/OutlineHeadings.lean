import TemplateMerge.Proofs.Format.OutlineTree

/-! Nodes hang under the closest heading.

    When a heading is opened, those with as many signs or more are closed, and they are not looked
    at again.  Nothing is lost by that: whatever hangs under one of them may hang under the new
    heading as well, which is closer.

        node           # A     ### B    ## C    text    ### D
        number          0        1        2       3       4
        open after      A       B A      C A     C A    D C A
        closest         ·        A        A       C       C

    So for every heading before a node there is one that is open, that comes no earlier, and that
    has no more signs (`exists_opened`).  The innermost heading that the node may hang under is then
    the last one before it that it may hang under at all (`head?_lineage_iff`). -/

namespace TemplateMerge

namespace Outline

variable {kinds : List Kind}

/-! ### Headings that are closed -/

theorem pairwise_opened_index (i : Nat) :
    (openedAt kinds i).Pairwise fun a b => b.index < a.index := by
  refine openedAt_induction (P := fun _ opened => opened.Pairwise fun a b => b.index < a.index)
    .nil ?_ ?_ ?_ i
  · intro i opened h
    exact h
  · intro i opened above hsuffix h
    exact h.sublist hsuffix.sublist
  · intro i level _ h
    refine List.pairwise_cons.2 ⟨fun o ho => ?_, h⟩
    exact (heading_of_opened i o ((chainAt_suffix kinds i).subset ho)).1

/-- A heading is not admitted only if it has as many signs or more. -/
theorem mem_admitted_or (kind : Kind) {opened : List OpenHeading} {o : OpenHeading}
    (ho : o ∈ opened) :
    o ∈ admitted kind opened ∨ ∃ level, kind = .heading level ∧ level ≤ o.level := by
  cases kind with
  | heading level =>
    rw [← List.takeWhile_append_dropWhile (p := fun x : OpenHeading => decide (level ≤ x.level))
      (l := opened)] at ho
    rcases List.mem_append.1 ho with hdropped | hkept
    · exact .inr ⟨level, rfl, by simpa using List.mem_takeWhile_imp hdropped⟩
    · exact .inl hkept
  | _ => exact .inl ho

/-- For every heading before a node there is an open one that comes no earlier and has no more
    signs. -/
theorem exists_opened {k level : Nat} (hk : kinds[k]? = some (.heading level)) {i : Nat}
    (hlt : k < i) : ∃ o ∈ openedAt kinds i, k ≤ o.index ∧ o.level ≤ level := by
  induction i, hlt using Nat.le_induction with
  | base =>
    refine ⟨⟨level, k⟩, ?_, Nat.le_refl k, Nat.le_refl level⟩
    rw [openedAt, hk]
    exact List.mem_cons_self
  | succ i hlt ih =>
    obtain ⟨o, ho, hafter, hfewer⟩ := ih
    rcases Nat.lt_or_ge i kinds.length with hi | hi
    · have hchain : chainAt kinds i = admitted kinds[i] (openedAt kinds i) := by
        rw [chainAt, List.getElem?_eq_getElem hi]
      rw [openedAt_succ hi, hchain]
      rcases mem_admitted_or kinds[i] ho with hkept | ⟨own, hown, hclosed⟩
      · refine ⟨o, ?_, hafter, hfewer⟩
        unfold opening
        split
        · exact List.mem_cons_of_mem _ hkept
        · exact hkept
      · -- what closed it has taken its place
        refine ⟨⟨own, i⟩, ?_, Nat.le_of_lt hlt, Nat.le_trans hclosed hfewer⟩
        rw [hown]
        exact List.mem_cons_self
    · rw [openedAt_of_length_le hi]
      exact ⟨o, ho, hafter, hfewer⟩

/-! ### The closest heading -/

/-- A heading that a node may hang under, by their numbers: it comes before the node and, if that is
    a heading too, has fewer signs. -/
def LeadsAt (kinds : List Kind) (k i : Nat) : Prop :=
  k < i ∧ ∃ level, kinds[k]? = some (.heading level) ∧
    ∀ own, kinds[i]? = some (.heading own) → level < own

theorem level_lt_of_chain {i own : Nat} (hi : kinds[i]? = some (.heading own)) {o : OpenHeading}
    (ho : o ∈ chainAt kinds i) : o.level < own := by
  have hopened : openedAt kinds (i + 1) = ⟨own, i⟩ :: chainAt kinds i := by
    rw [openedAt, chainAt, hi]
    rfl
  have hlevels : (openedAt kinds (i + 1)).Pairwise fun a b => b.level < a.level :=
    pairwise_opened (i + 1)
  rw [hopened] at hlevels
  exact (List.pairwise_cons.1 hlevels).1 o ho

theorem leadsAt_of_mem {k i : Nat} (h : k ∈ lineage kinds i) : LeadsAt kinds k i := by
  obtain ⟨o, ho, rfl⟩ := List.mem_map.1 h
  obtain ⟨hbefore, hheading⟩ := heading_of_opened i o ((chainAt_suffix kinds i).subset ho)
  exact ⟨hbefore, o.level, hheading, fun own hown => level_lt_of_chain hown ho⟩

/-- Whatever a node may hang under, it has an ancestor that comes no earlier. -/
theorem exists_ancestor {k i : Nat} (hi : i < kinds.length) (h : LeadsAt kinds k i) :
    ∃ j ∈ lineage kinds i, k ≤ j := by
  obtain ⟨hbefore, level, hlevel, hfewer⟩ := h
  obtain ⟨o, ho, hafter, hle⟩ := exists_opened hlevel hbefore
  have hkind : kinds[i]? = some kinds[i] := List.getElem?_eq_getElem hi
  have hchain : o ∈ chainAt kinds i := by
    rw [chainAt, hkind]
    refine (mem_admitted_or kinds[i] ho).resolve_right ?_
    rintro ⟨own, hown, hclosed⟩
    have := hfewer own (hkind.trans (congrArg some hown))
    omega
  exact ⟨o.index, List.mem_map_of_mem hchain, hafter⟩

theorem le_head_lineage {i k j : Nat} (hhead : (lineage kinds i).head? = some k)
    (hj : j ∈ lineage kinds i) : j ≤ k := by
  have hsorted : (lineage kinds i).Pairwise fun a b => b < a :=
    List.pairwise_map.2 ((pairwise_opened_index i).sublist (chainAt_suffix kinds i).sublist)
  obtain ⟨rest, hrest⟩ := List.head?_eq_some_iff.1 hhead
  rw [hrest] at hj hsorted
  rcases List.mem_cons.1 hj with rfl | hj
  · exact Nat.le_refl j
  · exact Nat.le_of_lt ((List.pairwise_cons.1 hsorted).1 j hj)

/-- A node hangs under the last of the headings that it may hang under. -/
theorem head?_lineage_iff {i k : Nat} (hi : i < kinds.length) :
    (lineage kinds i).head? = some k ↔
      LeadsAt kinds k i ∧ ∀ j, LeadsAt kinds j i → j ≤ k := by
  constructor
  · intro hhead
    refine ⟨leadsAt_of_mem (List.mem_of_head? hhead), fun j hj => ?_⟩
    obtain ⟨l, hl, hle⟩ := exists_ancestor hi hj
    exact Nat.le_trans hle (le_head_lineage hhead hl)
  · rintro ⟨hleads, hlast⟩
    obtain ⟨j, hj, hle⟩ := exists_ancestor hi hleads
    obtain ⟨first, hfirst⟩ : ∃ first, (lineage kinds i).head? = some first := by
      refine Option.isSome_iff_exists.1 ?_
      rw [List.isSome_head?]
      simpa using List.ne_nil_of_mem hj
    have hup : first ≤ k := hlast first (leadsAt_of_mem (List.mem_of_head? hfirst))
    have hdown : j ≤ first := le_head_lineage hfirst hj
    rw [hfirst, Nat.le_antisymm hup (Nat.le_trans hle hdown)]

theorem head?_lineage_eq_none_iff {i : Nat} (hi : i < kinds.length) :
    (lineage kinds i).head? = none ↔ ∀ k, ¬ LeadsAt kinds k i := by
  rw [List.head?_eq_none_iff]
  constructor
  · intro hnil k hleads
    obtain ⟨j, hj, -⟩ := exists_ancestor hi hleads
    rw [hnil] at hj
    cases hj
  · intro hnone
    exact List.eq_nil_iff_forall_not_mem.2 fun k hk => hnone k (leadsAt_of_mem hk)

/-! ### Depths of headings -/

/-- A heading has fewer than six ancestors. -/
theorem length_lineage_heading
    (hlevels : ∀ level, .heading level ∈ kinds → 1 ≤ level ∧ level ≤ 6) {i own : Nat}
    (hi : kinds[i]? = some (.heading own)) : (lineage kinds i).length ≤ 5 := by
  rw [lineage, List.length_map]
  refine length_le_of_pairwise ((pairwise_opened i).sublist (chainAt_suffix kinds i).sublist)
    fun o ho => ?_
  have hheading := (heading_of_opened i o ((chainAt_suffix kinds i).subset ho)).2
  have hlevel := hlevels o.level (List.mem_of_getElem? hheading)
  have hown := hlevels own (List.mem_of_getElem? hi)
  have hlt := level_lt_of_chain hi ho
  omega

end Outline

end TemplateMerge
