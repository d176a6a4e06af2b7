import TemplateMerge.Proofs.Merge.Pairing

/-! Statements by their numbers.

    The statements of a document are numbered in order, so what is found first among them is what
    has the least number, and those from one number to another are a run of the list.

        numbers     0   1   2   3   4   5
        asked for           ▲       ▲               the first is 2
        1 to 4          └───────────┘               four statements, the last is 4 -/

namespace TemplateMerge

variable {N : Type}

/-! ### The first statement of a kind -/

/-- The first statement with a property. -/
structure IsFirst (list : List (Statement N)) (p : Statement N → Prop) (s : Statement N) : Prop where
  mem : s ∈ list
  holds : p s
  least : ∀ x ∈ list, p x → s.index ≤ x.index

section First

variable {nodes : List N} {s : Statement N}

theorem IsFirst.unique {p : Statement N → Prop} {t : Statement N}
    (hs : IsFirst (statements nodes) p s) (ht : IsFirst (statements nodes) p t) : s = t :=
  eq_of_index_eq hs.mem ht.mem
    (Nat.le_antisymm (hs.least t ht.mem ht.holds) (ht.least s hs.mem hs.holds))

/-- What is found from a number on is the first statement there. -/
theorem find?_drop_statements_iff {n : Nat} {p : Statement N → Bool} :
    ((statements nodes).drop n).find? p = some s ↔
      IsFirst (statements nodes) (fun x => n ≤ x.index ∧ p x = true) s := by
  have hplace : ∀ x ∈ statements nodes, n ≤ x.index →
      ((statements nodes).drop n)[x.index - n]? = some x := by
    intro x hx hle
    rw [List.getElem?_drop, Nat.add_sub_of_le hle]
    exact getElem?_of_mem_statements hx
  have hfirst : ∀ {e}, ((statements nodes).drop n).find? p = some e →
      IsFirst (statements nodes) (fun x => n ≤ x.index ∧ p x = true) e := by
    intro e hfind
    obtain ⟨hholds, j, hj, hjget, hmin⟩ := List.find?_eq_some_iff_getElem.1 hfind
    have hget : (statements nodes)[n + j]? = some e := by
      rw [← List.getElem?_drop, List.getElem?_eq_getElem hj, hjget]
    have hindex : e.index = n + j := by
      rw [numberedFrom_statements nodes _ e hget, Nat.zero_add]
    refine ⟨List.mem_of_getElem? hget, ⟨by omega, hholds⟩, ?_⟩
    rintro x hx ⟨hle, hpx⟩
    refine Nat.le_of_not_lt fun hlt => ?_
    have hnot := hmin (x.index - n) (by omega)
    rw [(List.getElem_eq_iff _).2 (hplace x hx hle), hpx] at hnot
    cases hnot
  refine ⟨hfirst, fun hs => ?_⟩
  cases hfind : ((statements nodes).drop n).find? p with
  | none =>
    have hmem := List.mem_of_getElem? (hplace s hs.mem hs.holds.1)
    exact absurd hs.holds.2 (List.find?_eq_none.1 hfind s hmem)
  | some e => rw [(hfirst hfind).unique hs]

theorem exists_isFirst {p : Statement N → Prop} (hs : s ∈ statements nodes) (hp : p s) :
    ∃ e, IsFirst (statements nodes) p e := by
  classical
  have hsome : ((statements nodes).find? fun x => decide (p x)).isSome = true :=
    List.find?_isSome.2 ⟨s, hs, decide_eq_true hp⟩
  obtain ⟨e, he⟩ := Option.isSome_iff_exists.1 hsome
  obtain ⟨hmem, ⟨-, hholds⟩, hleast⟩ := (find?_drop_statements_iff (n := 0)).1 he
  exact ⟨e, hmem, of_decide_eq_true hholds, fun x hx hpx =>
    hleast x hx ⟨Nat.zero_le _, decide_eq_true hpx⟩⟩

/-- The first statement after another with a property, if there is one. -/
theorem find?_later_cases (nodes : List N) (n : Nat) (p : Statement N → Bool) :
    (((statements nodes).drop (n + 1)).find? p = none ∧
      ∀ x ∈ statements nodes, n < x.index → p x = false) ∨
    ∃ e ∈ statements nodes, ((statements nodes).drop (n + 1)).find? p = some e ∧ n < e.index ∧
      p e = true ∧ ∀ x ∈ statements nodes, n < x.index → x.index < e.index → p x = false := by
  cases hfind : ((statements nodes).drop (n + 1)).find? p with
  | none =>
    refine .inl ⟨rfl, fun x hx hlt => Bool.eq_false_iff.2 fun hpx => ?_⟩
    obtain ⟨e, he⟩ := exists_isFirst (p := fun x => n + 1 ≤ x.index ∧ p x = true) hx ⟨hlt, hpx⟩
    rw [find?_drop_statements_iff.2 he] at hfind
    cases hfind
  | some e =>
    obtain ⟨hmem, ⟨hlt, hholds⟩, hleast⟩ := find?_drop_statements_iff.1 hfind
    refine .inr ⟨e, hmem, rfl, hlt, hholds, fun x hx hafter hbefore => ?_⟩
    exact Bool.eq_false_iff.2 fun hpx => Nat.not_le_of_lt hbefore (hleast x hx ⟨hafter, hpx⟩)

end First

/-! ### Runs of statements -/

namespace Statement

variable {list : List (Statement N)} {first last : Nat}

theorem mem_range {s : Statement N} (h : s ∈ range list first last) :
    ∃ i, first ≤ i ∧ i ≤ last ∧ list[i]? = some s := by
  obtain ⟨i, hi⟩ := List.mem_iff_getElem?.1 h
  rw [range, List.getElem?_drop, List.getElem?_take] at hi
  split at hi
  · exact ⟨first + i, by omega, by omega, hi⟩
  · cases hi

theorem mem_range_iff {nodes : List N} {s : Statement N} :
    s ∈ range (statements nodes) first last ↔
      s ∈ statements nodes ∧ first ≤ s.index ∧ s.index ≤ last := by
  constructor
  · intro h
    obtain ⟨i, hfirst, hlast, hi⟩ := mem_range h
    have hindex : s.index = i := by rw [numberedFrom_statements nodes i s hi, Nat.zero_add]
    exact ⟨List.mem_of_getElem? hi, by omega, by omega⟩
  · rintro ⟨hs, hfirst, hlast⟩
    refine List.mem_of_getElem? (i := s.index - first) ?_
    rw [range, List.getElem?_drop, Nat.add_sub_of_le hfirst, List.getElem?_take, if_pos (by omega)]
    exact getElem?_of_mem_statements hs

theorem length_range (hlast : last < list.length) :
    (range list first last).length = last + 1 - first := by
  rw [range, List.length_drop, List.length_take, Nat.min_eq_left hlast]

theorem getLast?_range (hle : first ≤ last) (hlast : last < list.length) :
    (range list first last).getLast? = list[last]? := by
  rw [List.getLast?_eq_getElem?, length_range hlast, range, List.getElem?_drop,
    List.getElem?_take, if_pos (by omega)]
  congr 1
  omega

theorem numberedFrom_range (h : NumberedFrom 0 list) (first last : Nat) :
    NumberedFrom first (range list first last) := by
  intro i s hi
  rw [range, List.getElem?_drop, List.getElem?_take] at hi
  split at hi
  · rw [h _ s hi, Nat.zero_add]
  · cases hi

end Statement

end TemplateMerge
