import Mathlib.Data.List.Sort
import TemplateMerge.Table

/-! What a table says after it was changed.

    A table is known by its lookups: since names increase, two tables that say the same of every
    name have the same entries in the same order.

        entries             a ↦ 1   c ↦ 3
        insert b 2          a ↦ 1   b ↦ 2   c ↦ 3
        erase c             a ↦ 1   b ↦ 2

    So a change is told by what it does to the lookup of its own name and to that of any other. -/

namespace TemplateMerge

theorem lookup_eq_some_iff_mem {κ α : Type} [BEq κ] [LawfulBEq κ] {entries : List (κ × α)} {k : κ}
    (h : (entries.map Prod.fst).Nodup) {v : α} :
    entries.lookup k = some v ↔ (k, v) ∈ entries := by
  rw [List.lookup_eq_some_iff]
  constructor
  · rintro ⟨before, after, rfl, -⟩
    simp
  · intro hmem
    obtain ⟨before, after, rfl⟩ := List.append_of_mem hmem
    refine ⟨before, after, rfl, fun x hx => ?_⟩
    rw [List.map_append, List.map_cons, List.nodup_append] at h
    have hne : x.1 ≠ k := h.2.2 x.1 (List.mem_map_of_mem hx) k List.mem_cons_self
    simpa using hne.symm

theorem lookup_cons_eq_if {κ α : Type} [DecidableEq κ] (key other : κ) (value : α)
    (rest : List (κ × α)) :
    ((key, value) :: rest).lookup other =
      if other = key then some value else rest.lookup other := by
  by_cases h : other = key
  · rw [h, List.lookup_cons_self, if_pos rfl]
  · rw [List.lookup_cons, beq_false_of_ne h, if_neg h]

namespace Table

variable {α β : Type} {s t : Table α} {name other : String} {value : α}
  {entries : List (String × α)}

/-! ### Names -/

/-- The entries stand in increasing order of their names. -/
def Increasing (entries : List (String × α)) : Prop := entries.Pairwise fun a b => a.1 < b.1

theorem Increasing.nodup_names (h : Increasing entries) : (entries.map Prod.fst).Nodup := by
  refine List.pairwise_map.2 (h.imp fun {a b} hlt (heq : a.1 = b.1) => ?_)
  rw [heq] at hlt
  exact String.lt_irrefl b.1 hlt

theorem find?_eq_some_iff : t.find? name = some value ↔ (name, value) ∈ t.entries :=
  lookup_eq_some_iff_mem (Increasing.nodup_names t.increasing)

theorem find?_eq_none_iff : t.find? name = none ↔ name ∉ t.names := by
  simp only [find?, names, List.lookup_eq_none_iff, List.mem_map, not_exists, not_and, bne_iff_ne]
  exact forall₂_congr fun _ _ => ne_comm

theorem isSome_find?_iff : (t.find? name).isSome ↔ name ∈ t.names := by
  rw [Option.isSome_iff_ne_none, ne_eq, find?_eq_none_iff, Classical.not_not]

/-! ### Changes -/

theorem lookup_insertEntry (name other : String) (value : α) (entries : List (String × α)) :
    (insertEntry name value entries).lookup other =
      if other = name then some value else entries.lookup other := by
  induction entries with
  | nil => exact lookup_cons_eq_if name other value []
  | cons head rest ih =>
    obtain ⟨key, old⟩ := head
    unfold insertEntry
    split
    · exact lookup_cons_eq_if name other value _
    · split
      · next hkey =>
        subst hkey
        rw [lookup_cons_eq_if, lookup_cons_eq_if]
        split <;> rfl
      · next hkey =>
        rw [lookup_cons_eq_if, lookup_cons_eq_if, ih]
        by_cases h : other = key
        · rw [if_pos h, if_pos h, if_neg (h ▸ Ne.symm hkey)]
        · rw [if_neg h, if_neg h]

theorem find?_insert (t : Table α) (name other : String) (value : α) :
    (t.insert name value).find? other = if other = name then some value else t.find? other :=
  lookup_insertEntry name other value t.entries

theorem lookup_filter_name_ne (name other : String) (entries : List (String × α)) :
    (entries.filter (·.1 != name)).lookup other =
      if other = name then none else entries.lookup other := by
  induction entries with
  | nil => simp
  | cons head rest ih =>
    obtain ⟨key, old⟩ := head
    rw [List.filter_cons, lookup_cons_eq_if]
    split
    · next hkey =>
      have hkey : key ≠ name := bne_iff_ne.1 hkey
      rw [lookup_cons_eq_if, ih]
      by_cases h : other = key
      · rw [if_pos h, if_pos h, if_neg (h ▸ hkey)]
      · rw [if_neg h, if_neg h]
    · next hkey =>
      have hkey : key = name := by simpa using hkey
      subst hkey
      rw [ih]
      split <;> rfl

theorem find?_erase (t : Table α) (name other : String) :
    (t.erase name).find? other = if other = name then none else t.find? other :=
  lookup_filter_name_ne name other t.entries

/-- Of two values under one name the later is found. -/
theorem find?_ofList (entries : List (String × α)) (name : String) :
    (ofList entries).find? name = entries.reverse.lookup name := by
  have hfold : ∀ (t : Table α), (entries.foldl (fun t e => t.insert e.1 e.2) t).find? name =
      (entries.reverse.lookup name).or (t.find? name) := by
    induction entries with
    | nil => exact fun t => rfl
    | cons e rest ih =>
      intro t
      rw [List.foldl_cons, ih, find?_insert, List.reverse_cons, List.lookup_append, Option.or_assoc,
        lookup_cons_eq_if, List.lookup_nil]
      split <;> rfl
  rw [ofList, hfold]
  exact Option.or_none

/-! ### Tables with the same lookups -/

theorem Increasing.eq_of_mem_iff {entries' : List (String × α)} (h : Increasing entries)
    (h' : Increasing entries') (hmem : ∀ e, e ∈ entries ↔ e ∈ entries') : entries = entries' := by
  have : Std.Irrefl fun a b : String × α => a.1 < b.1 := ⟨fun a => String.lt_irrefl a.1⟩
  have : Std.Antisymm fun a b : String × α => a.1 < b.1 :=
    ⟨fun a _ hlt hgt => absurd (String.lt_trans hlt hgt) (String.lt_irrefl a.1)⟩
  exact List.Pairwise.eq_of_mem_iff h h' hmem

theorem eq_of_find? (h : ∀ name, s.find? name = t.find? name) : s = t := by
  have hentries : s.entries = t.entries := by
    refine Increasing.eq_of_mem_iff s.increasing t.increasing fun e => ?_
    rw [← find?_eq_some_iff, ← find?_eq_some_iff, h]
  cases s
  cases t
  subst hentries
  rfl

theorem ofList_of_increasing (h : Increasing entries) : ofList entries = ⟨entries, h⟩ := by
  refine eq_of_find? fun name => Option.ext fun value => ?_
  have hreversed : (entries.reverse.map Prod.fst).Nodup := by
    rw [List.map_reverse, List.nodup_reverse]
    exact h.nodup_names
  rw [find?_ofList, lookup_eq_some_iff_mem hreversed, List.mem_reverse, find?_eq_some_iff]

theorem mem_of_mem_ofList {e : String × α} (h : e ∈ (ofList entries).entries) : e ∈ entries := by
  have hfind : (ofList entries).find? e.1 = some e.2 := find?_eq_some_iff.2 h
  rw [find?_ofList, List.lookup_eq_some_iff] at hfind
  obtain ⟨before, after, heq, -⟩ := hfind
  rw [← List.mem_reverse, heq]
  simp

/-! ### First entries -/

/-- The entry with the least name of those that are so. -/
structure IsFirst (entries : List (String × α)) (P : String × α → Prop) (e : String × α) :
    Prop where
  mem : e ∈ entries
  holds : P e
  least : ∀ x ∈ entries, P x → ¬ x.1 < e.1

theorem Increasing.isFirst_cons_iff {e x : String × α} {rest : List (String × α)}
    {P : String × α → Prop} (h : Increasing (e :: rest)) :
    IsFirst (e :: rest) P x ↔ P e ∧ x = e ∨ ¬ P e ∧ IsFirst rest P x := by
  have hafter : ∀ y ∈ rest, e.1 < y.1 := (List.pairwise_cons.1 h).1
  constructor
  · rintro ⟨hmem, hholds, hleast⟩
    by_cases he : P e
    · refine .inl ⟨he, (List.mem_cons.1 hmem).resolve_right fun hx => ?_⟩
      exact hleast e List.mem_cons_self he (hafter x hx)
    · have hx := (List.mem_cons.1 hmem).resolve_left fun hx => he (hx ▸ hholds)
      exact .inr ⟨he, hx, hholds, fun y hy => hleast y (List.mem_cons_of_mem e hy)⟩
  · rintro (⟨he, rfl⟩ | ⟨he, hx, hholds, hleast⟩)
    · refine ⟨List.mem_cons_self, he, fun y hy _ hlt => ?_⟩
      rcases List.mem_cons.1 hy with rfl | hy
      · exact String.lt_irrefl _ hlt
      · exact String.lt_irrefl _ (String.lt_trans hlt (hafter y hy))
    · refine ⟨List.mem_cons_of_mem e hx, hholds, List.forall_mem_cons.2 ⟨?_, hleast⟩⟩
      exact fun hP => absurd hP he

theorem Increasing.find?_eq_some_iff (h : Increasing entries) {p : String × α → Bool}
    {x : String × α} : entries.find? p = some x ↔ IsFirst entries (p · = true) x := by
  induction entries with
  | nil => exact ⟨nofun, fun hx => absurd hx.mem List.not_mem_nil⟩
  | cons e rest ih =>
    rw [h.isFirst_cons_iff, ← ih (List.pairwise_cons.1 h).2, List.find?_cons]
    cases p e <;> simp [eq_comm]

/-! ### Entries with other values -/

section Map

variable (f : α → β)

theorem lookup_map_value (name : String) (entries : List (String × α)) :
    (entries.map fun e => (e.1, f e.2)).lookup name = (entries.lookup name).map f := by
  induction entries with
  | nil => rfl
  | cons e rest ih =>
    rw [List.map_cons, lookup_cons_eq_if, ih, lookup_cons_eq_if]
    split <;> rfl

theorem map_insertEntry (name : String) (value : α) (entries : List (String × α)) :
    (insertEntry name value entries).map (fun e => (e.1, f e.2)) =
      insertEntry name (f value) (entries.map fun e => (e.1, f e.2)) := by
  induction entries with
  | nil => rfl
  | cons e rest ih =>
    rw [List.map_cons, insertEntry, insertEntry]
    split
    · rfl
    · split
      · rfl
      · rw [List.map_cons, ih]

end Map

end Table

end TemplateMerge
