import Mathlib.Logic.Relation
import TemplateMerge.Proofs.FileTree.Paths

/-! Making directories and files leaves everything as it stands.

    A directory is made where nothing stands, and so are those above it that are missing.  Nothing
    is put in place of anything else, so what stood before stands afterwards, and paths that led
    somewhere lead there still.

        before   work                     after   work
                 └── a.md                         ├── a.md
                                                  └── log          made
                                                      └── today    made -/

namespace TemplateMerge

namespace FileTree

variable {t t' : FileTree} {start l location : Location} {names : List String}

/-! ### Trees that have grown -/

/-- A tree has become another in which all that stood in it stands. -/
structure Extends (t t' : FileTree) : Prop where
  /-- Commands work in the same directory. -/
  workingDirectory : t'.workingDirectory = t.workingDirectory
  /-- What stood somewhere stands there. -/
  keeps : ∀ l e, t.find? l = some e → t'.find? l = some e

theorem Extends.refl (t : FileTree) : Extends t t := ⟨rfl, fun _ _ => id⟩

theorem Extends.trans {t'' : FileTree} (h : Extends t t') (h' : Extends t' t'') : Extends t t'' :=
  ⟨h'.workingDirectory.trans h.workingDirectory, fun l e he => h'.keeps l e (h.keeps l e he)⟩

theorem extends_put {e : Entry} (h : t.find? l = none) : Extends t (t.put l e) := by
  refine ⟨rfl, fun other e' he => ?_⟩
  rw [find?_put_of_ne, he]
  rintro rfl
  rw [h] at he
  cases he

theorem Extends.resolve? (h : Extends t t') {path : String} (hpath : t.resolve? path = some l) :
    t'.resolve? path = some l := by
  have hstep : ∀ {here next : Location} {name : String}, t.stepFrom? here name = some next →
      t'.stepFrom? here name = some next := by
    intro here next name hnext
    unfold stepFrom? at hnext ⊢
    split at hnext
    next hok => rwa [if_pos ⟨h.keeps _ _ hok.1, hok.2⟩]
    next => cases hnext
  have hfollow : ∀ (names : List String) (here : Location),
      names.foldlM t.stepFrom? here = some l → names.foldlM t'.stepFrom? here = some l := by
    intro names
    induction names with
    | nil => exact fun _ => id
    | cons name rest ih =>
      intro here hl
      rw [List.foldlM_cons] at hl ⊢
      obtain ⟨next, hnext, hrest⟩ := Option.bind_eq_some_iff.1 hl
      exact Option.bind_eq_some_iff.2 ⟨next, hstep hnext, ih next hrest⟩
  have hshort := le_of_resolve? hpath
  rw [resolve?_of_le hshort] at hpath ⊢
  rw [show t'.origin path = t.origin path by rw [origin, origin, h.workingDirectory]]
  exact hfollow _ _ hpath

/-! ### Ways -/

theorem mem_passed_self (start : Location) (names : List String) : start ∈ passed start names := by
  cases names <;> exact List.mem_cons_self

/-- The first names of a way lead through locations of the way, and dots lead nowhere. -/
theorem passed_take_filter (k : Nat) : ∀ {names : List String} {start : Location},
    passed start ((names.filter (· ≠ ".")).take k) ⊆ passed start names := by
  intro names
  induction names generalizing k with
  | nil => intro start; simp [passed]
  | cons name rest ih =>
    intro start
    by_cases hdot : name = "."
    · rw [List.filter_cons_of_neg (by simpa using hdot)]
      have hstay : step start name = start := if_pos (.inr hdot)
      refine List.Subset.trans (ih k) ?_
      rw [passed, hstay]
      exact List.subset_cons_self ..
    · rw [List.filter_cons_of_pos (by simpa using hdot)]
      cases k with
      | zero =>
        intro l hl
        rw [List.take_zero] at hl
        rw [List.mem_singleton.1 hl]
        exact mem_passed_self ..
      | succ k =>
        rw [List.take_succ_cons, passed, passed]
        exact List.cons_subset_cons _ (ih k)

theorem passed_subset_of_mem_above {next : List String} (h : next ∈ above names) :
    passed start next ⊆ passed start names := by
  obtain ⟨k, -, rfl⟩ := List.mem_map.1 h
  exact passed_take_filter _

theorem mem_of_mem_passed {name : String} : ∀ {names : List String} {start : Location},
    l ∈ passed start names → name ∈ l →
      name ∈ start ∨ name ∈ names ∧ name ≠ "" ∧ name ≠ "." ∧ name ≠ ".."
  | [], start, hl, hname => .inl (List.mem_singleton.1 hl ▸ hname)
  | first :: rest, start, hl, hname => by
    rcases List.mem_cons.1 hl with rfl | hrest
    · exact .inl hname
    · rcases mem_of_mem_passed hrest hname with hstep | ⟨hmem, hproper⟩
      · refine (mem_step hstep).imp_right ?_
        rintro ⟨rfl, hproper⟩
        exact ⟨List.mem_cons_self, hproper⟩
      · exact .inr ⟨List.mem_cons_of_mem _ hmem, hproper⟩

/-! ### Making directories -/

/-- A directory is made where nothing stands, on the way along names, none of which is too long. -/
def MakesOne (start : Location) (names : List String) (t t' : FileTree) : Prop :=
  ∃ l ∈ passed start names, t.find? l = none ∧ t' = t.put l .directory ∧
    ∀ name ∈ l, name ∈ start ∨ fits name = true

/-- Directories are made on the way along names, one after another. -/
def Makes (start : Location) (names : List String) : FileTree → FileTree → Prop :=
  Relation.ReflTransGen (MakesOne start names)

theorem Makes.kept_or_made (h : Makes start names t t') (l : Location) :
    t'.find? l = t.find? l ∨
      t.find? l = none ∧ t'.find? l = some .directory ∧ l ∈ passed start names := by
  induction h with
  | refl => exact .inl rfl
  | tail _ hone ih =>
    obtain ⟨made, hway, hfree, rfl, -⟩ := hone
    by_cases hl : l = made
    · rw [hl] at ih ⊢
      have hmade : made ≠ [] := by
        rintro rfl
        cases hfree
      rcases ih with hkept | ⟨-, hnew, -⟩
      · exact .inr ⟨hkept ▸ hfree, find?_put_self _ _ hmade, hway⟩
      · rw [hfree] at hnew
        cases hnew
    · rwa [find?_put_of_ne _ _ hl]

theorem Makes.extended (h : Makes start names t t') : Extends t t' := by
  induction h with
  | refl => exact .refl _
  | tail _ hone ih =>
    obtain ⟨_, -, hfree, rfl, -⟩ := hone
    exact ih.trans (extends_put hfree)

theorem Makes.proper (h : Makes start names t t') (ht : t.Proper)
    (hstart : ∀ name ∈ start, ProperName name) (hnames : ∀ name ∈ names, '/' ∉ name.toList) :
    t'.Proper := by
  induction h with
  | refl => exact ht
  | tail _ hone ih =>
    obtain ⟨l, hway, hfree, rfl, hfits⟩ := hone
    refine ih.put hfree fun name hname => ?_
    rcases mem_of_mem_passed hway hname with hold | ⟨hmem, hne, hdot, hdots⟩
    · exact hstart name hold
    · rcases hfits name hname with hold | hfit
      · exact hstart name hold
      · exact ⟨hne, hdot, hdots, hnames name hmem, hfit⟩

theorem makesOne_makeOne : ∀ {names : List String} {location : Location},
    (∀ name ∈ location, name ∈ start ∨ fits name = true) →
      t.makeOne location names = .ok t' →
        ∃ l ∈ passed location names, t.find? l = none ∧ t' = t.put l .directory ∧
          ∀ name ∈ l, name ∈ start ∨ fits name = true := by
  intro names
  induction names with
  | nil => exact nofun
  | cons name rest ih =>
    intro location hlocation h
    rw [makeOne.eq_def] at h
    dsimp only at h
    split at h
    next => cases h
    next hshort =>
      have hnext : ∀ other ∈ step location name, other ∈ start ∨ fits other = true := by
        intro other hother
        rcases mem_step hother with hold | ⟨rfl, -⟩
        · exact hlocation other hold
        · exact .inr (by simpa using hshort)
      split at h
      next =>
        split at h
        next => cases h
        next hfree =>
          refine ⟨step location name, List.mem_cons_of_mem _ (mem_passed_self ..), ?_,
            (Except.ok.inj h).symm, hnext⟩
          exact Option.not_isSome_iff_eq_none.1 fun hsome => hfree (.inr (.inr hsome))
      next =>
        split at h
        next => cases h
        next =>
          obtain ⟨l, hl, hmade⟩ := ih hnext h
          exact ⟨l, List.mem_cons_of_mem _ hl, hmade⟩
        next => cases h

variable {way : List String}

theorem makes_makeUnlessThere (t : FileTree) (hway : passed start names ⊆ passed start way) :
    Makes start way t (t.makeUnlessThere start names).1 := by
  unfold makeUnlessThere
  split
  next hmade =>
    obtain ⟨l, hl, hone⟩ := makesOne_makeOne (fun _ => .inl) hmade
    exact .single ⟨l, hway hl, hone⟩
  next => exact .refl
  next => exact .refl

theorem makes_makeAll (t : FileTree) {above : List (List String)} :
    ∀ {names : List String}, (∀ next ∈ names :: above, passed start next ⊆ passed start way) →
      Makes start way t (t.makeAll start names above).1 := by
  induction above with
  | nil => exact fun hway => makes_makeUnlessThere t (hway _ List.mem_cons_self)
  | cons next above ih =>
    intro names hway
    have hnames := hway names List.mem_cons_self
    have habove := ih fun other hother => hway other (List.mem_cons_of_mem _ hother)
    unfold makeAll
    split
    next =>
      split
      next hmade =>
        rw [hmade] at habove
        exact habove.trans (makes_makeUnlessThere _ hnames)
      next => exact habove
    next => exact makes_makeUnlessThere t hnames

/-- Making a directory makes directories on the way to it. -/
theorem makes_makeDirectory (t : FileTree) (path : String) :
    Makes (t.origin path) (FileTree.names path) t (t.makeDirectory path).1 := by
  unfold makeDirectory
  dsimp only
  split
  next => exact .refl
  next =>
    split
    next => exact .refl
    next =>
      split
      next => exact .refl
      next =>
        refine makes_makeAll t fun next hnext => ?_
        rcases List.mem_cons.1 hnext with rfl | habove
        · exact List.Subset.refl _
        · exact passed_subset_of_mem_above habove

theorem Proper.makeDirectory (h : t.Proper) (path : String) : (t.makeDirectory path).1.Proper :=
  (makes_makeDirectory t path).proper h (h.origin path) fun _ hname =>
    noSlash_of_mem_components (List.mem_of_mem_filter hname)

/-! ### Files -/

/-- An empty file is made where nothing stands, if at all. -/
theorem ensureFile_cases (t : FileTree) (path : String) :
    t.ensureFile path = t ∨ ∃ l, l ≠ [] ∧ t.resolve? path = some l ∧ t.find? l = none ∧
      t.ensureFile path = t.put l (.text []) := by
  unfold ensureFile
  cases hpath : t.resolve? path with
  | none => exact .inl rfl
  | some l =>
    dsimp only
    split
    next => exact .inl rfl
    next hfree =>
      have hnone : t.find? l = none := Option.not_isSome_iff_eq_none.1 hfree
      refine .inr ⟨l, ?_, rfl, hnone, rfl⟩
      rintro rfl
      cases hnone

theorem extends_ensureFile (t : FileTree) (path : String) : Extends t (t.ensureFile path) := by
  rcases t.ensureFile_cases path with hsame | ⟨l, -, -, hnone, hput⟩
  · rw [hsame]
    exact .refl t
  · rw [hput]
    exact extends_put hnone

theorem find?_ensureFile_of_ne {path : String} (hpath : (t.ensureFile path).resolve? path = some l)
    (h : location ≠ l) : (t.ensureFile path).find? location = t.find? location := by
  rcases t.ensureFile_cases path with hsame | ⟨made, -, hmade, hnone, hput⟩
  · rw [hsame]
  · rw [(t.extends_ensureFile path).resolve? hmade] at hpath
    rw [hput, find?_put_of_ne]
    exact Option.some.inj hpath ▸ h

theorem find?_ensureFile_self {path : String} (hpath : (t.ensureFile path).resolve? path = some l) :
    (t.ensureFile path).find? l = t.find? l ∨
      t.find? l = none ∧ (t.ensureFile path).find? l = some (.text []) := by
  rcases t.ensureFile_cases path with hsame | ⟨made, hne, hmade, hnone, hput⟩
  · exact .inl (by rw [hsame])
  · rw [(t.extends_ensureFile path).resolve? hmade] at hpath
    obtain rfl := Option.some.inj hpath
    exact .inr ⟨hnone, by rw [hput, find?_put_self _ _ hne]⟩

theorem Proper.ensureFile (h : t.Proper) (path : String) : (t.ensureFile path).Proper := by
  rcases t.ensureFile_cases path with hsame | ⟨l, -, hpath, hnone, hput⟩
  · rwa [hsame]
  · rw [hput]
    exact h.put hnone (h.of_resolve? hpath)

end FileTree

end TemplateMerge
