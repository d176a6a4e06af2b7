import TemplateMerge.Preference.Basic
import TemplateMerge.Preference.Typing
import TemplateMerge.Proofs.Preference.TypeName
import TemplateMerge.Proofs.Table.Lookup

/-! Which names of a table can answer for a type.

        md:Table-Row                         the type itself
           Table-Row                         its bare part
           Table_Row   table row   …         every name with the alias of the bare part

    A look-up reads these names and no others: tables that say the same of them answer alike.  So
    what is written under any other name is not seen, whatever its value and wherever it stands
    among the names.  And the ranks shadow each other in the order given: where the type or its
    bare part is a name of the table, not even a name with the same alias is seen. -/

open TemplateMerge.TypeName

namespace TemplateMerge

namespace Table

variable {α : Type} {s t : Table α} {name type spelling : String} {value : α}

/-! ### The three ranks of names -/

/-- The value under the first name with that alias. -/
def aliased? (t : Table α) (spelling : String) : Option α :=
  (t.entries.find? fun e => aliasOf e.1 = spelling).map Prod.snd

theorem lookup?_eq_or (t : Table α) (type : String) : t.lookup? type =
    ((t.find? type).or (t.find? (bare type))).or (t.aliased? (aliasOf (bare type))) := by
  simp only [lookup?, aliased?]
  cases t.find? type with
  | some value => rfl
  | none => cases t.find? (bare type) <;> rfl

theorem isSome_aliased?_iff :
    (t.aliased? spelling).isSome ↔ ∃ name ∈ t.names, aliasOf name = spelling := by
  simp [aliased?, names, List.find?_isSome]

/-- A look-up finds something just when the type is a name of the table, or some name has the alias
    of its bare part. -/
theorem isSome_lookup?_iff : (t.lookup? type).isSome ↔
    type ∈ t.names ∨ ∃ name ∈ t.names, aliasOf name = aliasOf (bare type) := by
  rw [lookup?_eq_or, Option.isSome_or, Option.isSome_or, Bool.or_eq_true, Bool.or_eq_true,
    isSome_find?_iff, isSome_find?_iff, isSome_aliased?_iff, or_assoc]
  -- the bare part is itself a name with its alias
  exact or_congr_right (or_iff_right_of_imp fun hbare => ⟨bare type, hbare, rfl⟩)

/-! ### What a look-up reads -/

/-- A name that can answer for a type. -/
def Answers (type name : String) : Prop := name = type ∨ aliasOf name = aliasOf (bare type)

theorem IsFirst.congr {entries entries' : List (String × α)} {P : String × α → Prop}
    {e : String × α} (h : ∀ x, P x → (x ∈ entries ↔ x ∈ entries')) :
    IsFirst entries P e ↔ IsFirst entries' P e := by
  constructor
  · rintro ⟨hmem, hholds, hleast⟩
    exact ⟨(h e hholds).1 hmem, hholds, fun x hx hP => hleast x ((h x hP).2 hx) hP⟩
  · rintro ⟨hmem, hholds, hleast⟩
    exact ⟨(h e hholds).2 hmem, hholds, fun x hx hP => hleast x ((h x hP).1 hx) hP⟩

theorem aliased?_congr (h : ∀ name, aliasOf name = spelling → s.find? name = t.find? name) :
    s.aliased? spelling = t.aliased? spelling := by
  have hmem : ∀ e : String × α, aliasOf e.1 = spelling → (e ∈ s.entries ↔ e ∈ t.entries) :=
    fun e he => by rw [← find?_eq_some_iff, ← find?_eq_some_iff, h e.1 he]
  refine congrArg (Option.map Prod.snd) (Option.ext fun e => ?_)
  rw [Increasing.find?_eq_some_iff s.increasing, Increasing.find?_eq_some_iff t.increasing]
  exact IsFirst.congr fun x hx => hmem x (of_decide_eq_true hx)

theorem lookup?_congr (h : ∀ name, Answers type name → s.find? name = t.find? name) :
    s.lookup? type = t.lookup? type := by
  rw [lookup?_eq_or, lookup?_eq_or, h type (.inl rfl), h (bare type) (.inr rfl),
    aliased?_congr fun name hname => h name (.inr hname)]

/-! ### What shadows what -/

theorem lookup?_of_find? (h : t.find? type = some value) : t.lookup? type = some value := by
  rw [lookup?_eq_or, h, Option.some_or, Option.some_or]

theorem lookup?_of_bare (h : bare type ∈ t.names) :
    t.lookup? type = (t.find? type).or (t.find? (bare type)) := by
  have hsome : ((t.find? type).or (t.find? (bare type))).isSome := by
    rw [Option.isSome_or, isSome_find?_iff.2 h, Bool.or_true]
  rw [lookup?_eq_or, Option.or_of_isSome hsome]

/-- Where neither the type nor its bare part is a name, only the alias is read. -/
theorem lookup?_of_aliased (h : type ∉ t.names) (hbare : bare type ∉ t.names) :
    t.lookup? type = t.aliased? (aliasOf (bare type)) := by
  rw [lookup?_eq_or, find?_eq_none_iff.2 h, find?_eq_none_iff.2 hbare, Option.none_or,
    Option.none_or]

end Table

namespace Preference

variable {α β γ : Type}

/-- Neither setting nor removing a name changes the answer for a type. -/
def Unseen (look : Table α → String → β) (t : Table α) (name type : String) : Prop :=
  (∀ value, look (t.insert name value) type = look t type) ∧
    look (t.erase name) type = look t type

/-- Answers for types out of tables, where a name is seen only by the types it can answer for, and
    only where nothing shadows it. -/
structure IsLocal (look : Table α → String → β) (said : α → β) : Prop where
  /-- What is set for a type is what is said of it. -/
  own (t : Table α) (type : String) (value : α) : look (t.insert type value) type = said value
  /-- A name with another alias than the bare part of a type is not seen. -/
  foreign (t : Table α) (name type : String) (other : name ≠ type)
    (otherAlias : aliasOf name ≠ aliasOf (bare type)) : Unseen look t name type
  /-- Behind the type itself no other name is seen. -/
  behindType (t : Table α) (name type : String) (present : type ∈ t.names) (other : name ≠ type) :
    Unseen look t name type
  /-- Behind the bare part of a type no other name is seen, whatever its alias. -/
  behindBare (t : Table α) (name type : String) (present : bare type ∈ t.names)
    (other : name ≠ type) (otherBare : name ≠ bare type) : Unseen look t name type
  /-- Types that only an alias can answer for are answered alike if it is the same. -/
  alike (t : Table α) (type type' : String) (absent : type ∉ t.names) (absent' : type' ∉ t.names)
    (bareAbsent : bare type ∉ t.names) (bareAbsent' : bare type' ∉ t.names)
    (sameAlias : aliasOf (bare type) = aliasOf (bare type')) : look t type = look t type'

/-- A local look-up that finds something just under the names that can answer. -/
structure IsLocalLookup (look : Table α → String → Option α) : Prop extends IsLocal look some where
  found_iff (t : Table α) (type : String) : (look t type).isSome ↔
    type ∈ t.names ∨ ∃ name ∈ t.names, aliasOf name = aliasOf (bare type)

theorem Unseen.map {look : Table α → String → β} {t : Table α} {name type : String}
    (h : Unseen look t name type) (f : β → γ) :
    Unseen (fun t type => f (look t type)) t name type :=
  ⟨fun value => congrArg f (h.1 value), congrArg f h.2⟩

theorem IsLocal.map {look : Table α → String → β} {said : α → β} (h : IsLocal look said)
    (f : β → γ) : IsLocal (fun t type => f (look t type)) (f ∘ said) where
  own t type value := congrArg f (h.own t type value)
  foreign t name type hother halias := (h.foreign t name type hother halias).map f
  behindType t name type hpresent hother := (h.behindType t name type hpresent hother).map f
  behindBare t name type hpresent hother hbare :=
    (h.behindBare t name type hpresent hother hbare).map f
  alike t type type' h₁ h₂ h₃ h₄ halias := congrArg f (h.alike t type type' h₁ h₂ h₃ h₄ halias)

/-- A name is not seen if the answer is the same in every table that differs in that name only. -/
theorem unseen_of_agree {look : Table α → String → β} {t : Table α} {name type : String}
    (h : ∀ s : Table α, (∀ other, other ≠ name → s.find? other = t.find? other) →
      look s type = look t type) : Unseen look t name type := by
  refine ⟨fun value => h _ fun other hother => ?_, h _ fun other hother => ?_⟩
  · rw [Table.find?_insert, if_neg hother]
  · rw [Table.find?_erase, if_neg hother]

theorem isLocalLookup_lookup? : IsLocalLookup (@Table.lookup? α) where
  own t type value := Table.lookup?_of_find? (by rw [Table.find?_insert, if_pos rfl])
  foreign t name type hother halias := unseen_of_agree fun s hs => by
    refine Table.lookup?_congr fun answer hanswer => hs answer ?_
    rintro rfl
    exact hanswer.elim hother halias
  behindType t name type hpresent hother := unseen_of_agree fun s hs => by
    obtain ⟨value, hvalue⟩ := Option.isSome_iff_exists.1 (Table.isSome_find?_iff.2 hpresent)
    have hsame : s.find? type = some value := (hs type hother.symm).trans hvalue
    rw [Table.lookup?_of_find? hsame, Table.lookup?_of_find? hvalue]
  behindBare t name type hpresent hother hbare := unseen_of_agree fun s hs => by
    have hsame : s.find? (bare type) = t.find? (bare type) := hs _ hbare.symm
    have hpresent' : bare type ∈ s.names :=
      Table.isSome_find?_iff.1 (hsame ▸ Table.isSome_find?_iff.2 hpresent)
    rw [Table.lookup?_of_bare hpresent', Table.lookup?_of_bare hpresent, hsame,
      hs type hother.symm]
  alike t type type' habsent habsent' hbare hbare' halias := by
    rw [Table.lookup?_of_aliased habsent hbare, Table.lookup?_of_aliased habsent' hbare', halias]
  found_iff _ _ := Table.isSome_lookup?_iff

/-- The bare part of a type is what comes after its last colon.  What a table says about types is
    local, and so are the merge types that rules give and the sides that overrides give. -/
theorem lookups_are_local :
    (∀ type part, bare type = part ↔ IsBarePart type.toList part.toList) ∧
      (∀ α, IsLocalLookup (@Table.lookup? α)) ∧
      IsLocalLookup (fun rules type => NodeTyping.mergeTypeFor ⟨rules⟩ type) ∧
      ∀ otherwise, IsLocal (fun overrides type => (perType otherwise overrides).sideFor type) id :=
  ⟨fun _ _ => bare_eq_iff, fun _ => isLocalLookup_lookup?, isLocalLookup_lookup?,
    fun otherwise => isLocalLookup_lookup?.toIsLocal.map (·.getD otherwise)⟩

/-- A table row is found under another spelling of its name, and items are no part of that; an item
    is found by its bare part, and not by another spelling of it. -/
theorem lookups_are_local_table_row :
    let t : Table Side := Table.ofList [("Table_Row", .template), ("item", .destination)]
    t.lookup? "md:table-row" = t.lookup? "html:TABLE ROW" ∧
      (t.lookup? "md:table-row").isSome ∧
      Unseen Table.lookup? t "item" "md:table-row" ∧
      Unseen Table.lookup? t "md:item" "item" ∧
      Unseen Table.lookup? t "ITEM" "md:item" := by
  intro t
  obtain ⟨-, hlookup, -, -⟩ := lookups_are_local
  have hlocal := hlookup Side
  refine ⟨hlocal.alike t _ _ ?_ ?_ ?_ ?_ ?_, (hlocal.found_iff t _).2 (.inr ⟨"Table_Row", ?_, ?_⟩),
    hlocal.foreign t _ _ ?_ ?_, hlocal.behindType t _ _ ?_ ?_, hlocal.behindBare t _ _ ?_ ?_ ?_⟩
  all_goals decide +kernel

end Preference

end TemplateMerge
