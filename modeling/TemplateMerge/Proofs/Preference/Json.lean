import TemplateMerge.Preference.Basic
import TemplateMerge.Proofs.Preference.TypeName
import TemplateMerge.Proofs.Stages
import TemplateMerge.Proofs.Table.Lookup

/-! Preferences in JSON: which values are read, and that what is written is read again.

    The fields of an object are gone through twice, first for their values and then for their keys:

        { "1st": "mine", "2nd": "template", "3rd": 3 }
                 ──▲──                              the first bad value, if there is one
          ──▲──                                     else the first bad key

    What is read is kept as a table of sides without the default, and written with it:

        fields                   default       overrides      written
        b ↦ t   default ↦ d      d             b ↦ t          b ↦ t   default ↦ d
        b ↦ t                    destination   b ↦ t          b ↦ t   default ↦ destination

    Taking the default out of a table and putting it back changes nothing else, so what was written
    is read as the same preference, and an object is written as it was, its default filled in. -/

namespace TemplateMerge

variable {v : Json} {e : ConfigError} {p : Preference} {fields : List (String × Json)}
  {entries : List (String × Side)}

theorem Side.named?_eq_some_iff {s : String} {side : Side} :
    Side.named? s = some side ↔ s = side.name := by
  constructor
  · intro h
    have hname := List.find?_some h
    exact (beq_iff_eq.1 hname).symm
  · rintro rfl
    exact Side.named?_name side

namespace Preference

/-! ### Values -/

/-- A JSON value that is the name of a side. -/
def NamesSide (v : Json) : Prop := v = .string "template" ∨ v = .string "destination"

theorem namesSide_iff : NamesSide v ↔ ∃ side : Side, v = .string side.name := by
  constructor
  · rintro (rfl | rfl)
    · exact ⟨.template, rfl⟩
    · exact ⟨.destination, rfl⟩
  · rintro ⟨side, rfl⟩
    cases side
    · exact .inl rfl
    · exact .inr rfl

theorem sideOfJson_eq_ok_iff {key : String} {side : Side} :
    sideOfJson key v = .ok side ↔ v = .string side.name := by
  unfold sideOfJson
  cases v with
  | string s =>
    dsimp only
    rw [Json.string.injEq, ← Side.named?_eq_some_iff]
    cases Side.named? s <;> simp
  | _ => simp

theorem sideOfJson_of_not {key : String} (h : ¬ NamesSide v) :
    sideOfJson key v = .error (.preferenceValue key v.compact) := by
  unfold sideOfJson
  split
  · split
    · next s side hside =>
      exact absurd (namesSide_iff.2 ⟨side, congrArg _ (Side.named?_eq_some_iff.1 hside)⟩) h
    · rfl
  · rfl

theorem sideOfJson_eq_error_iff {key : String} :
    sideOfJson key v = .error e ↔ ¬ NamesSide v ∧ e = .preferenceValue key v.compact := by
  by_cases h : NamesSide v
  · obtain ⟨side, hside⟩ := namesSide_iff.1 h
    simp [sideOfJson_eq_ok_iff.2 hside, h]
  · simp [sideOfJson_of_not h, h, eq_comm]

/-! ### Fields -/

/-- The field of an entry. -/
def field (entry : String × Side) : String × Json := (entry.1, .string entry.2.name)

theorem sidesOfFields_eq_ok_iff :
    sidesOfFields fields = .ok entries ↔ fields = entries.map field := by
  induction fields generalizing entries with
  | nil => cases entries <;> simp [sidesOfFields]
  | cons f rest ih =>
    obtain ⟨key, value⟩ := f
    rw [sidesOfFields, Except.bind_eq_ok_iff]
    simp only [sideOfJson_eq_ok_iff, Except.map_eq_ok_iff, ih]
    constructor
    · rintro ⟨side, rfl, more, rfl, rfl⟩
      rfl
    · intro h
      cases entries with
      | nil => cases h
      | cons entry more =>
        obtain ⟨key', side⟩ := entry
        cases h
        exact ⟨side, rfl, more, rfl, rfl⟩

theorem namesSide_field (entry : String × Side) : NamesSide (field entry).2 :=
  namesSide_iff.2 ⟨entry.2, rfl⟩

theorem exists_entries_iff : (∃ entries, sidesOfFields fields = .ok entries) ↔
    ∀ f ∈ fields, NamesSide f.2 := by
  simp only [sidesOfFields_eq_ok_iff]
  constructor
  · rintro ⟨entries, rfl⟩ f hf
    obtain ⟨entry, -, rfl⟩ := List.mem_map.1 hf
    exact namesSide_field entry
  · intro h
    induction fields with
    | nil => exact ⟨[], rfl⟩
    | cons f rest ih =>
      obtain ⟨hf, hrest⟩ := List.forall_mem_cons.1 h
      obtain ⟨side, hside⟩ := namesSide_iff.1 hf
      obtain ⟨entries, rfl⟩ := ih hrest
      exact ⟨(f.1, side) :: entries, by rw [List.map_cons, field, ← hside]⟩

theorem sidesOfFields_eq_error_iff (h : Table.Increasing fields) :
    sidesOfFields fields = .error e ↔
      ∃ f, Table.IsFirst fields (fun f => ¬ NamesSide f.2) f ∧
        e = .preferenceValue f.1 f.2.compact := by
  induction fields with
  | nil => exact ⟨nofun, fun ⟨f, hf, _⟩ => absurd hf.mem List.not_mem_nil⟩
  | cons f rest ih =>
    obtain ⟨key, value⟩ := f
    rw [sidesOfFields, Except.bind_eq_error_iff, sideOfJson_eq_error_iff]
    simp only [h.isFirst_cons_iff, Except.map_eq_error_iff, ih (List.pairwise_cons.1 h).2,
      sideOfJson_eq_ok_iff, Classical.not_not]
    constructor
    · rintro (⟨hbad, rfl⟩ | ⟨side, hside, f, hf, rfl⟩)
      · exact ⟨(key, value), .inl ⟨hbad, rfl⟩, rfl⟩
      · exact ⟨f, .inr ⟨namesSide_iff.2 ⟨side, hside⟩, hf⟩, rfl⟩
    · rintro ⟨f, ⟨hbad, rfl⟩ | ⟨hgood, hf⟩, rfl⟩
      · exact .inl ⟨hbad, rfl⟩
      · obtain ⟨side, hside⟩ := namesSide_iff.1 hgood
        exact .inr ⟨side, hside, f, hf, rfl⟩

/-! ### Keys -/

theorem ofEntries_eq_ok_iff {otherwise : Option Side} : ofEntries entries otherwise = .ok p ↔
    (∀ x ∈ entries, TypeName.Symbol x.1.toList) ∧
      p = .perType ((((Table.ofList entries).find? defaultKey) <|> otherwise).getD .destination)
        ((Table.ofList entries).erase defaultKey) := by
  have hnone : firstBadKey? entries = none ↔ ∀ x ∈ entries, TypeName.Symbol x.1.toList := by
    simp [firstBadKey?, List.find?_eq_none, TypeName.isSymbol_iff]
  rw [← hnone, ofEntries]
  cases firstBadKey? entries <;> simp [eq_comm]

theorem ofEntries_eq_error_iff (h : Table.Increasing entries) {otherwise : Option Side} :
    ofEntries entries otherwise = .error e ↔
      ∃ x, Table.IsFirst entries (fun x => ¬ TypeName.Symbol x.1.toList) x ∧ e = .typeKey x.1 := by
  have hfault : ofEntries entries otherwise = .error e ↔
      ∃ key, firstBadKey? entries = some key ∧ e = .typeKey key := by
    rw [ofEntries]
    cases firstBadKey? entries <;> simp [eq_comm]
  have hfirst : ∀ x, entries.find? (fun e => !TypeName.isSymbol e.1) = some x ↔
      Table.IsFirst entries (fun x => ¬ TypeName.Symbol x.1.toList) x := fun x => by
    simp only [h.find?_eq_some_iff, Bool.not_eq_true', ← Bool.not_eq_true, TypeName.isSymbol_iff]
  rw [hfault]
  simp only [firstBadKey?, Option.map_eq_some_iff, hfirst]
  constructor
  · rintro ⟨_, ⟨x, hx, rfl⟩, rfl⟩
    exact ⟨x, hx, rfl⟩
  · rintro ⟨x, hx, rfl⟩
    exact ⟨x.1, ⟨x, hx, rfl⟩, rfl⟩

/-! ### What is read -/

/-- A JSON value that denotes a preference: a side, or sides under keys that are symbols. -/
inductive Denotes : Json → Prop where
  | side {v : Json} (named : NamesSide v) : Denotes v
  | sides {fields : List (String × Json)} (values : ∀ f ∈ fields, NamesSide f.2)
    (keys : ∀ f ∈ fields, TypeName.Symbol f.1.toList) : Denotes (.object fields)

/-- Why a JSON value denotes no preference, and what is said then. -/
inductive Refused : Json → ConfigError → Prop where
  /-- A string is no side. -/
  | side {s : String} (bad : ¬ NamesSide (.string s)) :
    Refused (.string s) (.preferenceValue defaultKey (Json.string s).compact)
  /-- A value of an object is no side; the first such is named. -/
  | value {fields : List (String × Json)} {f : String × Json}
    (first : Table.IsFirst fields (fun f => ¬ NamesSide f.2) f) :
    Refused (.object fields) (.preferenceValue f.1 f.2.compact)
  /-- All values are sides and a key is no symbol; the first such is named. -/
  | key {fields : List (String × Json)} {f : String × Json} (values : ∀ f ∈ fields, NamesSide f.2)
    (first : Table.IsFirst fields (fun f => ¬ TypeName.Symbol f.1.toList) f) :
    Refused (.object fields) (.typeKey f.1)
  /-- The value is neither a string nor an object. -/
  | shape {v : Json} (noString : ∀ s, v ≠ .string s) (noObject : ∀ fields, v ≠ .object fields) :
    Refused v (.preferenceShape v.compact)

theorem ofJson_object_eq_ok_iff : ofJson (.object fields) = .ok p ↔
    ∃ entries, fields = entries.map field ∧ ofEntries entries none = .ok p := by
  rw [ofJson, Except.bind_eq_ok_iff]
  simp only [sidesOfFields_eq_ok_iff]

theorem exists_ofJson_iff : (∃ p, ofJson v = .ok p) ↔ Denotes v := by
  constructor
  · rintro ⟨p, h⟩
    cases v with
    | string s =>
      obtain ⟨side, hside, -⟩ := Except.map_eq_ok_iff.1 h
      exact .side (namesSide_iff.2 ⟨side, sideOfJson_eq_ok_iff.1 hside⟩)
    | object fields =>
      obtain ⟨entries, rfl, hmade⟩ := ofJson_object_eq_ok_iff.1 h
      have hkeys := (ofEntries_eq_ok_iff.1 hmade).1
      exact .sides (List.forall_mem_map.2 fun x _ => namesSide_field x)
        (List.forall_mem_map.2 hkeys)
    | _ => cases h
  · rintro (hside | ⟨hvalues, hkeys⟩)
    · obtain ⟨side, rfl⟩ := namesSide_iff.1 hside
      exact ⟨.everywhere side, Except.map_eq_ok_iff.2 ⟨side, sideOfJson_eq_ok_iff.2 rfl, rfl⟩⟩
    · obtain ⟨entries, hentries⟩ := exists_entries_iff.2 hvalues
      obtain rfl := sidesOfFields_eq_ok_iff.1 hentries
      refine ⟨_, ofJson_object_eq_ok_iff.2 ⟨entries, rfl, ofEntries_eq_ok_iff.2 ⟨?_, rfl⟩⟩⟩
      exact fun x hx => hkeys (field x) (List.mem_map_of_mem hx)

theorem increasing_map_field_iff :
    Table.Increasing (entries.map field) ↔ Table.Increasing entries := List.pairwise_map

/-- The first key at fault is the same among fields and among their entries. -/
theorem isFirst_map_field_iff {f : String × Json} :
    Table.IsFirst (entries.map field) (fun f => ¬ TypeName.Symbol f.1.toList) f ↔
      ∃ x, Table.IsFirst entries (fun x => ¬ TypeName.Symbol x.1.toList) x ∧ field x = f := by
  constructor
  · rintro ⟨hmem, hholds, hleast⟩
    obtain ⟨x, hx, rfl⟩ := List.mem_map.1 hmem
    exact ⟨x, ⟨hx, hholds, List.forall_mem_map.1 hleast⟩, rfl⟩
  · rintro ⟨x, ⟨hmem, hholds, hleast⟩, rfl⟩
    exact ⟨List.mem_map_of_mem hmem, hholds, List.forall_mem_map.2 hleast⟩

/-- An object is refused for a value that is no side, else for a key that is no symbol. -/
theorem ofJson_object_eq_error_iff (h : Table.Increasing fields) :
    ofJson (.object fields) = .error e ↔ Refused (.object fields) e := by
  rw [ofJson, Except.bind_eq_error_iff, sidesOfFields_eq_error_iff h]
  constructor
  · rintro (⟨f, hf, rfl⟩ | ⟨entries, hentries, hkey⟩)
    · exact .value hf
    · obtain rfl := sidesOfFields_eq_ok_iff.1 hentries
      obtain ⟨x, hx, rfl⟩ := (ofEntries_eq_error_iff (increasing_map_field_iff.1 h)).1 hkey
      exact .key (List.forall_mem_map.2 fun x _ => namesSide_field x)
        (isFirst_map_field_iff.2 ⟨x, hx, rfl⟩)
  · intro hrefused
    cases hrefused with
    | value hf => exact .inl ⟨_, hf, rfl⟩
    | key hvalues hf =>
      obtain ⟨entries, hentries⟩ := exists_entries_iff.2 hvalues
      obtain rfl := sidesOfFields_eq_ok_iff.1 hentries
      obtain ⟨x, hx, rfl⟩ := isFirst_map_field_iff.1 hf
      exact .inr ⟨entries, hentries,
        (ofEntries_eq_error_iff (increasing_map_field_iff.1 h)).2 ⟨x, hx, rfl⟩⟩
    | shape _ hobject => exact absurd rfl (hobject _)

/-- A value is refused just for the reasons there are. -/
theorem ofJson_eq_error_iff (h : ∀ fields, v = .object fields → Table.Increasing fields) :
    ofJson v = .error e ↔ Refused v e := by
  cases v with
  | object fields => exact ofJson_object_eq_error_iff (h fields rfl)
  | string s =>
    rw [ofJson, Except.map_eq_error_iff, sideOfJson_eq_error_iff]
    constructor
    · rintro ⟨hbad, rfl⟩
      exact .side hbad
    · intro hrefused
      cases hrefused with
      | side hbad => exact ⟨hbad, rfl⟩
      | shape hstring _ => exact absurd rfl (hstring s)
  | _ =>
    constructor
    · intro he
      cases he
      exact .shape nofun nofun
    · intro hrefused
      cases hrefused
      rfl

/-! ### What is written -/

/-- A preference that was read or made: its keys are symbols, and the default is none of them. -/
inductive Made : Preference → Prop where
  | everywhere (side : Side) : Made (.everywhere side)
  | perType (otherwise : Side) (overrides : Table Side)
    (symbols : ∀ x ∈ overrides.entries, TypeName.Symbol x.1.toList)
    (noDefault : overrides.find? defaultKey = none) : Made (.perType otherwise overrides)

theorem made_of_ofEntries {otherwise : Option Side} (h : ofEntries entries otherwise = .ok p) :
    Made p := by
  obtain ⟨hsymbols, rfl⟩ := ofEntries_eq_ok_iff.1 h
  refine .perType _ _ (fun x hx => ?_) ?_
  · exact hsymbols x (Table.mem_of_mem_ofList (List.mem_of_mem_filter hx))
  · rw [Table.find?_erase, if_pos rfl]

theorem made_of_ofJson (h : ofJson v = .ok p) : Made p := by
  cases v with
  | string s =>
    obtain ⟨side, -, rfl⟩ := Except.map_eq_ok_iff.1 h
    exact .everywhere side
  | object fields =>
    obtain ⟨entries, -, hmade⟩ := ofJson_object_eq_ok_iff.1 h
    exact made_of_ofEntries hmade
  | _ => cases h

/-- The entries of a table give its sides, without the default. -/
theorem ofEntries_entries_eq_ok_iff (sides : Table Side) : ofEntries sides.entries none = .ok p ↔
    (∀ x ∈ sides.entries, TypeName.Symbol x.1.toList) ∧
      p = .perType ((sides.find? defaultKey).getD .destination) (sides.erase defaultKey) := by
  rw [ofEntries_eq_ok_iff, Table.ofList_of_increasing sides.increasing]
  simp

theorem symbol_defaultKey : TypeName.Symbol defaultKey.toList :=
  TypeName.isSymbol_iff.1 (by decide +kernel)

/-- What is written is read as the same preference. -/
theorem ofJson_toJson (h : Made p) : ofJson p.toJson = .ok p := by
  cases h with
  | everywhere side => cases side <;> rfl
  | perType otherwise overrides hsymbols hnone =>
    have hall : ∀ x ∈ (overrides.insert defaultKey otherwise).entries,
        TypeName.Symbol x.1.toList := by
      intro x hx
      rcases Table.mem_insertEntry hx with rfl | hx
      · exact symbol_defaultKey
      · exact hsymbols x hx
    have hback : (overrides.insert defaultKey otherwise).erase defaultKey = overrides := by
      refine Table.eq_of_find? fun name => ?_
      rw [Table.find?_erase, Table.find?_insert]
      split
      · next heq => rw [heq, hnone]
      · rfl
    refine ofJson_object_eq_ok_iff.2 ⟨(overrides.insert defaultKey otherwise).entries, rfl, ?_⟩
    rw [ofEntries_entries_eq_ok_iff, hback, Table.find?_insert, if_pos rfl]
    exact ⟨hall, rfl⟩

/-- An object that is read is written with its default filled in, and else as it was. -/
theorem toJson_of_ofJson_object (h : Table.Increasing fields)
    (hread : ofJson (.object fields) = .ok p) :
    p.toJson = .object (Table.insertEntry defaultKey
      ((fields.lookup defaultKey).getD (.string Side.destination.name)) fields) := by
  obtain ⟨entries, rfl, hmade⟩ := ofJson_object_eq_ok_iff.1 hread
  obtain ⟨sides, rfl⟩ : ∃ sides : Table Side, sides.entries = entries :=
    ⟨⟨entries, increasing_map_field_iff.1 h⟩, rfl⟩
  obtain ⟨-, rfl⟩ := (ofEntries_entries_eq_ok_iff sides).1 hmade
  have hback : ∀ side : Side, (sides.erase defaultKey).insert defaultKey side =
      sides.insert defaultKey side := fun side => by
    refine Table.eq_of_find? fun name => ?_
    rw [Table.find?_insert, Table.find?_insert, Table.find?_erase]
    split <;> rfl
  have hvalue : ((sides.entries.map field).lookup defaultKey).getD (.string Side.destination.name) =
      .string ((sides.find? defaultKey).getD .destination).name := by
    have hlookup : (sides.entries.map field).lookup defaultKey =
        (sides.find? defaultKey).map fun side => .string side.name :=
      Table.lookup_map_value (fun side : Side => Json.string side.name) defaultKey sides.entries
    rw [hlookup]
    cases sides.find? defaultKey <;> rfl
  rw [toJson, hback, hvalue]
  exact congrArg _ (Table.map_insertEntry (fun side : Side => Json.string side.name) _ _ _)

/-- How a preference comes about. -/
inductive Obtained : Preference → Prop where
  /-- It is one side for everything. -/
  | everywhere (side : Side) : Obtained (.everywhere side)
  /-- It is made of entries. -/
  | made {entries : List (String × Side)} {otherwise : Option Side} {p : Preference}
    (h : ofEntries entries otherwise = .ok p) : Obtained p
  /-- It is read. -/
  | read {v : Json} {p : Preference} (h : ofJson v = .ok p) : Obtained p

theorem made_of_obtained (h : Obtained p) : Made p := by
  cases h with
  | everywhere side => exact .everywhere side
  | made h => exact made_of_ofEntries h
  | read h => exact made_of_ofJson h

/-- A value is read just when it denotes a preference, and refused just for the reasons there are;
    of an object, whose fields stand in order, the first fault of the first kind is told.
    What is written is read as the same preference, so it gives every type the same side; and an
    object that was read is written with its default filled in, and else as it was. -/
theorem preferences_in_json :
    (∀ v, (∃ p, ofJson v = .ok p) ↔ Denotes v) ∧
      (∀ v, (∀ fields, v = .object fields → Table.Increasing fields) →
        ∀ e, ofJson v = .error e ↔ Refused v e) ∧
      (∀ p, Obtained p → ofJson p.toJson = .ok p) ∧
      (∀ v p, ofJson v = .ok p →
        ∃ q, ofJson p.toJson = .ok q ∧ ∀ type, q.sideFor type = p.sideFor type) ∧
      ∀ fields p, Table.Increasing fields → ofJson (.object fields) = .ok p →
        p.toJson = .object (Table.insertEntry defaultKey
          ((fields.lookup defaultKey).getD (.string Side.destination.name)) fields) :=
  ⟨fun _ => exists_ofJson_iff, fun _ h _ => ofJson_eq_error_iff h,
    fun _ h => ofJson_toJson (made_of_obtained h),
    fun _ p h => ⟨p, ofJson_toJson (made_of_ofJson h), fun _ => rfl⟩,
    fun _ _ h => toJson_of_ofJson_object h⟩

/-- Of three faults the first bad value is named, and without it the first bad key; and an object
    without a default is written with one. -/
theorem preferences_in_json_several_faults :
    let key : String × Json := ("1st", .string "template")
    let value : String × Json := ("a::b", .string "mine")
    let other : String × Json := ("b", .null)
    let good : String × Json := ("heading", .string "template")
    ofJson (.object [key, value, other]) = .error (.preferenceValue "a::b" "\"mine\"") ∧
      ofJson (.object [key, good]) = .error (.typeKey "1st") ∧
      ∃ p, ofJson (.object [good]) = .ok p ∧ ofJson p.toJson = .ok p ∧
        p.toJson = .object [("default", .string "destination"), good] := by
  intro key value other good
  obtain ⟨hread, hrefused, hagain, -, hwritten⟩ := preferences_in_json
  have hincreasing : Table.Increasing [key, value, other] ∧ Table.Increasing [key, good] ∧
      Table.Increasing [good] := by
    unfold Table.Increasing
    decide +kernel
  obtain ⟨hthree, htwo, hone⟩ := hincreasing
  have hobject : ∀ {fields : List (String × Json)}, Table.Increasing fields →
      ∀ fields', Json.object fields = .object fields' → Table.Increasing fields' := by
    rintro _ h _ ⟨⟩
    exact h
  have hvalue : Refused (.object [key, value, other])
      (.preferenceValue value.1 value.2.compact) := by
    refine .value ⟨by simp, by simp [NamesSide, value], fun x hx hbad hlt => ?_⟩
    have hx : x = key ∨ x = value ∨ x = other := by simpa using hx
    rcases hx with rfl | rfl | rfl
    · exact hbad (.inl rfl)
    · exact String.lt_irrefl _ hlt
    · exact absurd hlt (by decide +kernel)
  have hkey : Refused (.object [key, good]) (.typeKey key.1) := by
    refine .key (fun x hx => ?_) ⟨by simp, ?_, fun x hx hbad hlt => ?_⟩
    · have hx : x = key ∨ x = good := by simpa using hx
      rcases hx with rfl | rfl
      · exact .inl rfl
      · exact .inl rfl
    · rw [← TypeName.isSymbol_iff]
      decide +kernel
    · have hx : x = key ∨ x = good := by simpa using hx
      rcases hx with rfl | rfl
      · exact String.lt_irrefl _ hlt
      · exact absurd hlt (by decide +kernel)
  have hgood : Denotes (.object [good]) := by
    refine .sides (fun x hx => ?_) fun x hx => ?_
    · exact List.mem_singleton.1 hx ▸ .inl rfl
    · obtain rfl := List.mem_singleton.1 hx
      exact TypeName.isSymbol_iff.1 (by decide +kernel)
  have hcompact : value.2.compact = "\"mine\"" := by decide +kernel
  obtain ⟨p, hp⟩ := (hread _).2 hgood
  refine ⟨?_, (hrefused _ (hobject htwo) _).2 hkey, p, hp, hagain p (.read hp), ?_⟩
  · rw [← hcompact]
    exact (hrefused _ (hobject hthree) _).2 hvalue
  · have hbefore : defaultKey < good.1 := by decide +kernel
    have hnone : [good].lookup defaultKey = none := by
      rw [List.lookup_cons, beq_false_of_ne (by decide +kernel), List.lookup_nil]
    rw [hwritten _ p hone hp, hnone, Table.insertEntry, if_pos hbefore]
    rfl

end Preference

end TemplateMerge
