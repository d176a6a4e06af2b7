import TemplateMerge.Preference.Lookup

/-! The grammar of type names.

        md:table_row
        ──┬───────┬─
          │       └── bare part: what comes after the last colon, or everything
          └── space

    Any text has a bare part; a symbol is made of names that are joined by single colons.  Both are
    read off the segments between colons, which the library's splitting of lists describes. -/

namespace TemplateMerge

namespace TypeName

variable {t : Text} {name part : String}

theorem segments_eq_splitOn (separator : Char) (t : Text) :
    segments separator t = t.splitOn separator := by
  induction t with
  | nil => rfl
  | cons c rest ih =>
    rw [segments, ih, List.splitOn_cons_eq_if_modifyHead]
    by_cases h : c = separator
    · rw [if_pos h, if_pos (beq_iff_eq.2 h)]
    · rw [if_neg h, if_neg (mt beq_iff_eq.1 h)]
      cases hparts : rest.splitOn separator with
      | nil => exact absurd hparts (List.splitOn_ne_nil separator rest)
      | cons part more => rfl

/-! ### Symbols -/

/-- A letter of the ASCII alphabet, or the underscore. -/
def IsLetter (c : Char) : Prop := 'A' ≤ c ∧ c ≤ 'Z' ∨ 'a' ≤ c ∧ c ≤ 'z' ∨ c = '_'

/-- A digit of ASCII. -/
def IsDigit (c : Char) : Prop := '0' ≤ c ∧ c ≤ '9'

/-- A letter, and after it letters and digits. -/
inductive IsName : Text → Prop where
  | of (c : Char) (rest : Text) (first : IsLetter c) (others : ∀ d ∈ rest, IsLetter d ∨ IsDigit d) :
    IsName (c :: rest)

/-- Names that are joined by single colons. -/
inductive Symbol : Text → Prop where
  | name {t : Text} (single : IsName t) : Symbol t
  | join {t rest : Text} (first : IsName t) (others : Symbol rest) : Symbol (t ++ ':' :: rest)

theorem isSymbolStart_iff {c : Char} : isSymbolStart c = true ↔ IsLetter c := by
  have halpha : c.isAlpha = true ↔ c.isUpper = true ∨ c.isLower = true := Bool.or_eq_true_iff
  have hupper : c.isUpper = true ↔ 'A' ≤ c ∧ c ≤ 'Z' := decide_eq_true_iff
  have hlower : c.isLower = true ↔ 'a' ≤ c ∧ c ≤ 'z' :=
    Bool.and_eq_true_iff.trans (and_congr decide_eq_true_iff decide_eq_true_iff)
  rw [isSymbolStart, Bool.or_eq_true, halpha, hupper, hlower, beq_iff_eq, or_assoc]
  rfl

theorem isSymbolRest_iff {c : Char} : isSymbolRest c = true ↔ IsLetter c ∨ IsDigit c := by
  have hrest : isSymbolRest c = (isSymbolStart c || c.isDigit) := Bool.or_right_comm _ _ _
  have hdigit : c.isDigit = true ↔ IsDigit c :=
    Bool.and_eq_true_iff.trans (and_congr decide_eq_true_iff decide_eq_true_iff)
  rw [hrest, Bool.or_eq_true, isSymbolStart_iff, hdigit]

theorem isIdentifier_iff : isIdentifier t = true ↔ IsName t := by
  constructor
  · intro h
    cases t with
    | nil => cases h
    | cons c rest =>
      obtain ⟨hfirst, hothers⟩ := Bool.and_eq_true_iff.1 h
      exact .of c rest (isSymbolStart_iff.1 hfirst) fun d hd =>
        isSymbolRest_iff.1 (List.all_eq_true.1 hothers d hd)
  · rintro ⟨c, rest, hfirst, hothers⟩
    exact Bool.and_eq_true_iff.2 ⟨isSymbolStart_iff.2 hfirst,
      List.all_eq_true.2 fun d hd => isSymbolRest_iff.2 (hothers d hd)⟩

theorem IsName.no_colon (h : IsName t) : ':' ∉ t := by
  have hletter : ¬ IsLetter ':' := by unfold IsLetter; decide
  have hdigit : ¬ IsDigit ':' := by unfold IsDigit; decide
  obtain ⟨c, rest, hfirst, hothers⟩ := h
  intro hmem
  rcases List.mem_cons.1 hmem with rfl | hmem
  · exact hletter hfirst
  · exact (hothers ':' hmem).elim hletter hdigit

theorem symbol_intercalate {names : List Text} (hne : names ≠ []) (h : ∀ n ∈ names, IsName n) :
    Symbol ([':'].intercalate names) := by
  induction names with
  | nil => exact absurd rfl hne
  | cons n names ih =>
    obtain ⟨hfirst, hothers⟩ := List.forall_mem_cons.1 h
    cases names with
    | nil => exact List.intercalate_singleton ▸ .name hfirst
    | cons m names =>
      rw [List.intercalate_cons_cons, List.append_assoc, List.singleton_append]
      exact .join hfirst (ih (List.cons_ne_nil m names) hothers)

theorem isSymbol_iff : isSymbol name = true ↔ Symbol name.toList := by
  rw [isSymbol, segments_eq_splitOn, List.all_eq_true]
  constructor
  · intro h
    have hsymbol := symbol_intercalate (List.splitOn_ne_nil ':' name.toList) fun n hn =>
      isIdentifier_iff.1 (h n hn)
    rwa [List.intercalate_splitOn] at hsymbol
  · intro h
    generalize name.toList = t at h
    induction h with
    | name hname =>
      rw [List.splitOn_eq_singleton hname.no_colon]
      exact List.forall_mem_singleton.2 (isIdentifier_iff.2 hname)
    | join hname _ ih =>
      rw [List.splitOn_append_cons_self_of_not_mem hname.no_colon]
      exact List.forall_mem_cons.2 ⟨isIdentifier_iff.2 hname, ih⟩

/-! ### Bare parts -/

/-- What comes after the last colon of a name; all of it, if it has none. -/
def IsBarePart (name part : Text) : Prop :=
  ':' ∉ part ∧ (name = part ∨ ∃ space, name = space ++ ':' :: part)

theorem exists_isBarePart (t : Text) : ∃ part, IsBarePart t part := by
  induction t with
  | nil => exact ⟨[], List.not_mem_nil, .inl rfl⟩
  | cons c t ih =>
    obtain ⟨part, hcolon, rfl | ⟨space, rfl⟩⟩ := ih
    · by_cases hc : c = ':'
      · exact ⟨t, hcolon, .inr ⟨[], hc ▸ rfl⟩⟩
      · refine ⟨c :: t, fun hmem => ?_, .inl rfl⟩
        exact (List.mem_cons.1 hmem).elim (fun h => hc h.symm) hcolon
    · exact ⟨part, hcolon, .inr ⟨c :: space, rfl⟩⟩

theorem last_of_isBarePart {part : Text} (h : IsBarePart t part) :
    (segments ':' t).getLastD [] = part := by
  rw [segments_eq_splitOn]
  obtain ⟨hcolon, rfl | ⟨space, rfl⟩⟩ := h
  · rw [List.splitOn_eq_singleton hcolon]
    rfl
  · rw [List.splitOn_append_cons_self, List.splitOn_eq_singleton hcolon, List.getLastD_concat]

theorem bare_eq_iff : bare name = part ↔ IsBarePart name.toList part.toList := by
  obtain ⟨own, hown⟩ := exists_isBarePart name.toList
  have hbare : bare name = String.ofList own := by rw [bare, last_of_isBarePart hown]
  constructor
  · rintro rfl
    rwa [hbare, String.toList_ofList]
  · intro h
    rw [bare, last_of_isBarePart h, String.ofList_toList]

end TypeName

end TemplateMerge
