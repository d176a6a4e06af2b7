import Mathlib.Data.List.Nodup
import Mathlib.Tactic.Common
import TemplateMerge.FileTree
import TemplateMerge.Proofs.Table.Lookup

/-! Paths into a directory, and what writing a file does to them.

    A path is followed name by name, so the path of a name within a directory leads one step further
    than that of the directory, however it is written:

        notes        ──▶   work · notes            notes/a.md     ──▶   work · notes · a.md
        notes/       ──▶   work · notes            notes/a.md     ──▶   work · notes · a.md
        (empty)      ──▶   work                    a.md           ──▶   work · a.md

    Where a path leads depends on the directories alone.  Writing a file leaves them as they are, so
    every path leads where it led. -/

namespace TemplateMerge

namespace FileTree

/-- A name that may stand in a directory. -/
structure ProperName (name : String) : Prop where
  /-- It is not empty. -/
  nonempty : name ≠ ""
  /-- It is not the directory itself. -/
  notDot : name ≠ "."
  /-- It is not the directory above. -/
  notDots : name ≠ ".."
  /-- It is one name, not a path. -/
  noSlash : '/' ∉ name.toList
  /-- It is not too long. -/
  fits : FileTree.fits name = true

instance : DecidablePred ProperName := fun name =>
  decidable_of_iff (name ≠ "" ∧ name ≠ "." ∧ name ≠ ".." ∧ '/' ∉ name.toList ∧
      FileTree.fits name = true)
    ⟨fun ⟨h₁, h₂, h₃, h₄, h₅⟩ => ⟨h₁, h₂, h₃, h₄, h₅⟩, fun ⟨h₁, h₂, h₃, h₄, h₅⟩ =>
      ⟨h₁, h₂, h₃, h₄, h₅⟩⟩

/-- A tree as a file system has it. -/
structure Proper (t : FileTree) : Prop where
  /-- At a location stands one thing at most. -/
  distinct : (t.entries.map Prod.fst).Nodup
  /-- All names may stand in a directory. -/
  named : ∀ x ∈ t.entries, ∀ name ∈ x.1, ProperName name
  /-- Commands work in a directory. -/
  working : t.find? t.workingDirectory = some .directory

instance : DecidablePred Proper := fun t =>
  decidable_of_iff ((t.entries.map Prod.fst).Nodup ∧
      (∀ x ∈ t.entries, ∀ name ∈ x.1, ProperName name) ∧
      t.find? t.workingDirectory = some .directory)
    ⟨fun ⟨hdistinct, hnamed, hworking⟩ => ⟨hdistinct, hnamed, hworking⟩,
      fun ⟨hdistinct, hnamed, hworking⟩ => ⟨hdistinct, hnamed, hworking⟩⟩

variable {t t' : FileTree} {path directory name : String} {l location : Location}

/-! ### The names of a path -/

/-- A slash parts the names before it from those after it. -/
theorem components_slash (path rest : String) :
    components (path ++ "/" ++ rest) = components path ++ components rest := by
  have hchars : (path ++ "/" ++ rest).toList = path.toList ++ '/' :: rest.toList := by
    simp
  rw [components, hchars, List.splitOn, List.splitOnP_append_cons _ _ (by simp), List.map_append]
  rfl

theorem components_of_noSlash (h : '/' ∉ name.toList) : components name = [name] := by
  rw [components, List.splitOn, List.splitOnP_eq_singleton]
  · simp
  · intro c hc
    have hne : c ≠ '/' := by
      rintro rfl
      exact h hc
    simpa using hne

theorem noSlash_of_mem_components {path name : String} (h : name ∈ components path) :
    '/' ∉ name.toList := by
  have hpieces : ∀ (chars : Text), ∀ piece ∈ chars.splitOn '/', '/' ∉ piece := by
    intro chars
    induction chars with
    | nil => simp [List.splitOn_nil]
    | cons c rest ih =>
      intro piece hpiece
      rw [List.splitOn_cons_eq_if_modifyHead] at hpiece
      split at hpiece
      next =>
        rcases List.mem_cons.1 hpiece with rfl | hrest
        · exact List.not_mem_nil
        · exact ih piece hrest
      next hc =>
        cases hsplit : rest.splitOn '/' with
        | nil => exact absurd hsplit (List.splitOn_ne_nil _ _)
        | cons first others =>
          rw [hsplit] at hpiece ih
          rcases List.mem_cons.1 hpiece with rfl | hother
          · rw [List.mem_cons, not_or]
            exact ⟨fun hslash => hc (beq_iff_eq.2 hslash.symm), ih first List.mem_cons_self⟩
          · exact ih piece (List.mem_cons_of_mem _ hother)
  obtain ⟨piece, hpiece, rfl⟩ := List.mem_map.1 h
  rw [String.toList_ofList]
  exact hpieces _ piece hpiece

/-- The path of a name in a directory has that name after those of the directory, of which the last
    may be empty. -/
theorem components_join (directory : String) (h : '/' ∉ name.toList) :
    ∃ names, (components directory = names ∨ components directory = names ++ [""]) ∧
      components (join directory name) = names ++ [name] := by
  have hhead : name.toList.head? ≠ some '/' := fun hhead => h (List.mem_of_head? hhead)
  by_cases hempty : directory = ""
  · refine ⟨[], .inr (by rw [hempty]; rfl), ?_⟩
    rw [join, if_pos (.inr (by simp [hempty])), components_of_noSlash h]
    rfl
  · have hnot : ¬ (name.toList.head? = some '/' ∨ directory.isEmpty = true) := by
      rintro (hslash | hnone)
      · exact hhead hslash
      · exact hempty (by simpa using hnone)
    rw [join, if_neg hnot]
    split
    next hlast =>
      obtain ⟨front, hfront⟩ := List.getLast?_eq_some_iff.1 hlast
      have hdirectory : directory = String.ofList front ++ "/" ++ "" := by
        rw [← String.toList_inj]
        simp [hfront]
      have hjoin : directory ++ name = String.ofList front ++ "/" ++ name := by
        rw [← String.toList_inj]
        simp [hfront]
      refine ⟨components (.ofList front), .inr ?_, ?_⟩
      · exact (congrArg components hdirectory).trans (components_slash _ _)
      · rw [hjoin, components_slash, components_of_noSlash h]
    next => exact ⟨_, .inl rfl, by rw [components_slash, components_of_noSlash h]⟩

theorem origin_join (h : '/' ∉ name.toList) :
    t.origin (join directory name) = t.origin directory := by
  have hhead : name.toList.head? ≠ some '/' := fun hhead => h (List.mem_of_head? hhead)
  by_cases hempty : directory = ""
  · rw [join, if_pos (.inr (by simp [hempty])), origin, origin, if_neg hhead,
      if_neg (by simp [hempty])]
  · have hne : directory.toList ≠ [] := by simpa using hempty
    have hstart : ∀ s : String, (directory ++ s).toList.head? = directory.toList.head? := by
      intro s
      rw [String.toList_append, List.head?_append, List.head?_eq_some_head hne, Option.some_or]
    unfold origin
    congr 2
    unfold join
    split
    next hcase =>
      rcases hcase with hslash | hnone
      · exact absurd hslash hhead
      · exact absurd (by simpa using hnone) hempty
    next =>
      split
      · exact hstart _
      · rw [String.append_assoc]
        exact hstart _

/-- The path of a name in a directory is longer by the name and a slash at most. -/
theorem utf8ByteSize_join_le (directory name : String) :
    (join directory name).utf8ByteSize ≤ directory.utf8ByteSize + 1 + name.utf8ByteSize := by
  have hslash : "/".utf8ByteSize = 1 := rfl
  unfold join
  split
  · omega
  · split
    · rw [String.utf8ByteSize_append]
      omega
    · rw [String.utf8ByteSize_append, String.utf8ByteSize_append]
      omega

/-- In a directory whose path is not too long itself, the paths of all names are short enough. -/
theorem ProperName.join_le (h : ProperName name)
    (hdirectory : directory.utf8ByteSize + 1 + nameLimit ≤ pathLimit) :
    (join directory name).utf8ByteSize ≤ pathLimit := by
  have hname : name.utf8ByteSize ≤ nameLimit := of_decide_eq_true h.fits
  have hjoin := utf8ByteSize_join_le directory name
  omega

/-! ### Where a path leads -/

/-- The step from a directory along a name, if that can be gone. -/
def stepFrom? (t : FileTree) (location : Location) (name : String) : Option Location :=
  if t.find? location = some .directory ∧ fits name then some (step location name) else none

theorem resolve?_of_le (h : path.utf8ByteSize ≤ pathLimit) :
    t.resolve? path = (components path).foldlM t.stepFrom? (t.origin path) :=
  if_neg (Nat.not_lt.2 h)

theorem le_of_resolve? (h : t.resolve? path = some location) : path.utf8ByteSize ≤ pathLimit := by
  by_contra hlong
  rw [resolve?, if_pos (Nat.not_le.1 hlong)] at h
  cases h

theorem stepFrom?_of_proper (hdirectory : t.find? location = some .directory)
    (hname : ProperName name) : t.stepFrom? location name = some (location ++ [name]) := by
  rw [stepFrom?, if_pos ⟨hdirectory, hname.fits⟩, step,
    if_neg (by simp [hname.nonempty, hname.notDot]), if_neg hname.notDots]

/-- The path of a name in a directory leads to the entry of that name there. -/
theorem resolve?_join (hdirectory : t.resolve? directory = some location)
    (hlocation : t.find? location = some .directory) (hname : ProperName name)
    (hshort : (join directory name).utf8ByteSize ≤ pathLimit) :
    t.resolve? (join directory name) = some (location ++ [name]) := by
  obtain ⟨names, hnames, hjoin⟩ := components_join directory hname.noSlash
  rw [resolve?_of_le (le_of_resolve? hdirectory)] at hdirectory
  have hfollow : names.foldlM t.stepFrom? (t.origin directory) = some location := by
    rcases hnames with hnames | hnames
    · rwa [hnames] at hdirectory
    · rw [hnames, List.foldlM_append] at hdirectory
      obtain ⟨before, hbefore, hlast⟩ := Option.bind_eq_some_iff.1 hdirectory
      -- an empty name leads nowhere else
      have hsame : t.stepFrom? before "" = some location := by simpa using hlast
      rw [stepFrom?] at hsame
      split at hsame
      next => exact hbefore.trans hsame
      next => cases hsame
  rw [resolve?_of_le hshort, hjoin, origin_join hname.noSlash, List.foldlM_append, hfollow]
  show (t.stepFrom? location name).bind _ = _
  rw [stepFrom?_of_proper hlocation hname]
  rfl

theorem mem_step {name other : String} (h : other ∈ step location name) :
    other ∈ location ∨ other = name ∧ name ≠ "" ∧ name ≠ "." ∧ name ≠ ".." := by
  unfold step at h
  split at h
  next => exact .inl h
  next hstay =>
    split at h
    next => exact .inl (location.dropLast_subset h)
    next hup =>
      refine (List.mem_append.1 h).imp_right fun hname => ⟨List.mem_singleton.1 hname, ?_⟩
      exact ⟨fun h => hstay (.inl h), fun h => hstay (.inr h), hup⟩

/-- What stands in a tree has names that may stand there. -/
theorem Proper.of_find? (h : t.Proper) {e : Entry} (hl : t.find? l = some e) :
    ∀ name ∈ l, ProperName name := by
  unfold FileTree.find? at hl
  split at hl
  next hroot =>
    rw [hroot]
    exact nofun
  next => exact h.named _ ((lookup_eq_some_iff_mem h.distinct).1 hl)

theorem Proper.origin (h : t.Proper) (path : String) :
    ∀ name ∈ t.origin path, ProperName name := by
  unfold FileTree.origin
  split
  · exact nofun
  · exact h.of_find? h.working

theorem Proper.of_resolve? (h : t.Proper) (hpath : t.resolve? path = some l) :
    ∀ name ∈ l, ProperName name := by
  have hfollow : ∀ (names : List String) (here : Location),
      (∀ name ∈ names, '/' ∉ name.toList) → (∀ name ∈ here, ProperName name) →
        names.foldlM t.stepFrom? here = some l → ∀ name ∈ l, ProperName name := by
    intro names
    induction names with
    | nil =>
      intro here _ hhere hl
      exact Option.some.inj hl ▸ hhere
    | cons name rest ih =>
      intro here hnames hhere hl
      rw [List.foldlM_cons] at hl
      obtain ⟨next, hnext, hrest⟩ := Option.bind_eq_some_iff.1 hl
      refine ih next (fun other hother => hnames other (List.mem_cons_of_mem _ hother)) ?_ hrest
      intro other hother
      unfold stepFrom? at hnext
      split at hnext
      next hok =>
        rw [← Option.some.inj hnext] at hother
        rcases mem_step hother with hold | ⟨rfl, hne, hdot, hdots⟩
        · exact hhere other hold
        · exact ⟨hne, hdot, hdots, hnames _ List.mem_cons_self, hok.2⟩
      next => cases hnext
  rw [resolve?_of_le (le_of_resolve? hpath)] at hpath
  exact hfollow _ _ (fun _ => noSlash_of_mem_components) (h.origin path) hpath

/-- A tree to which something is added is one that a file system has, too. -/
theorem Proper.put (h : t.Proper) {e : Entry} (hfree : t.find? l = none)
    (hnames : ∀ name ∈ l, ProperName name) : (t.put l e).Proper := by
  refine ⟨?_, fun x hx => ?_, ?_⟩
  · show ((t.entries.filter (·.1 ≠ l) ++ [(l, e)]).map Prod.fst).Nodup
    rw [List.map_append, List.nodup_append]
    refine ⟨(h.distinct.sublist (List.filter_sublist.map _)), by simp, ?_⟩
    rintro other hother last hlast rfl
    obtain ⟨x, hx, rfl⟩ := List.mem_map.1 hother
    exact of_decide_eq_true (List.mem_filter.1 hx).2 (by simpa using hlast)
  · rcases List.mem_append.1 hx with hold | hnew
    · exact h.named x (List.mem_filter.1 hold).1
    · rw [List.mem_singleton.1 hnew]
      exact hnames
  · rw [find?_put_of_ne]
    · exact h.working
    · intro (hl : t.workingDirectory = l)
      have hworking := h.working
      rw [hl, hfree] at hworking
      cases hworking

/-! ### Trees with the same directories -/

/-- Two trees have the same directories, and the same working directory. -/
structure SameDirectories (t t' : FileTree) : Prop where
  /-- Commands work in the same directory. -/
  workingDirectory : t'.workingDirectory = t.workingDirectory
  /-- What is a directory in one is a directory in the other. -/
  directory_iff : ∀ l, t'.find? l = some .directory ↔ t.find? l = some .directory

namespace SameDirectories

theorem refl (t : FileTree) : SameDirectories t t := ⟨rfl, fun _ => Iff.rfl⟩

theorem trans {t'' : FileTree} (h : SameDirectories t t') (h' : SameDirectories t' t'') :
    SameDirectories t t'' :=
  ⟨h'.workingDirectory.trans h.workingDirectory, fun l =>
    (h'.directory_iff l).trans (h.directory_iff l)⟩

/-- Where the directories are the same, paths lead to the same places. -/
theorem resolve? (h : SameDirectories t t') (path : String) :
    t'.resolve? path = t.resolve? path := by
  have hstep : t'.stepFrom? = t.stepFrom? := by
    funext l name
    simp only [stepFrom?, h.directory_iff]
  have horigin : t'.origin path = t.origin path := by rw [origin, origin, h.workingDirectory]
  unfold FileTree.resolve?
  split
  · rfl
  · exact congrArg₂ (fun f start => (components path).foldlM f start) hstep horigin

end SameDirectories

/-- A text does not change directories where there was none. -/
theorem sameDirectories_put (h : t.find? l ≠ some .directory) (content : Text) :
    SameDirectories t (t.put l (.text content)) := by
  refine ⟨rfl, fun other => ?_⟩
  have hl : l ≠ [] := fun hnil => h (by rw [hnil]; rfl)
  by_cases hother : other = l
  · rw [hother, find?_put_self t _ hl]
    exact ⟨nofun, fun hdirectory => absurd hdirectory h⟩
  · rw [find?_put_of_ne t _ hother]

theorem writeText?_of_resolve (hpath : t.resolve? path = some l)
    (h : t.find? l ≠ some .directory) (content : Text) :
    t.writeText? path content = some (t.put l (.text content)) := by
  rw [writeText?, hpath]
  exact if_neg h

/-! ### The files of a directory -/

/-- There is a file of that name in the directory at a location. -/
def HasFile (t : FileTree) (location : Location) (name : String) : Prop :=
  (t.find? (location ++ [name])).any Entry.isFile = true

instance (t : FileTree) (location : Location) (name : String) :
    Decidable (t.HasFile location name) :=
  inferInstanceAs (Decidable (_ = _))

theorem HasFile.not_directory (h : t.HasFile location name) :
    t.find? (location ++ [name]) ≠ some .directory := by
  intro hdirectory
  rw [HasFile, hdirectory] at h
  cases h

theorem find?_append (t : FileTree) (location : Location) (name : String) :
    t.find? (location ++ [name]) = t.entries.lookup (location ++ [name]) :=
  if_neg (by simp)

/-- What stands in a tree is listed. -/
theorem Proper.find?_append_iff (h : t.Proper) {e : Entry} :
    t.find? (location ++ [name]) = some e ↔ (location ++ [name], e) ∈ t.entries := by
  rw [find?_append, lookup_eq_some_iff_mem h.distinct]

theorem Proper.properName (h : t.Proper) (hfile : t.HasFile location name) : ProperName name := by
  obtain ⟨e, he, -⟩ := (Option.any_eq_true ..).1 hfile
  exact h.named _ (h.find?_append_iff.1 he) name (by simp)

/-- The name of an entry that is a file directly at a location. -/
def fileName? (location : Location) (x : Location × Entry) : Option String :=
  if x.1.dropLast = location ∧ x.2.isFile then x.1.getLast? else none

theorem fileName?_eq_some_iff {x : Location × Entry} :
    fileName? location x = some name ↔ x.1 = location ++ [name] ∧ x.2.isFile = true := by
  unfold fileName?
  constructor
  · intro h
    split at h
    next hfile =>
      obtain ⟨front, hfront⟩ := List.getLast?_eq_some_iff.1 h
      rw [hfront, List.dropLast_concat] at hfile
      exact ⟨by rw [hfront, hfile.1], hfile.2⟩
    next => cases h
  · rintro ⟨hlocation, hfile⟩
    simp [hlocation, hfile]

/-- The files of a directory are listed once each, in increasing order. -/
theorem Proper.filesIn? (h : t.Proper) (hpath : t.resolve? path = some location)
    (hlocation : t.find? location = some .directory) :
    ∃ names, t.filesIn? path = some names ∧ names.Pairwise (· < ·) ∧
      ∀ name, name ∈ names ↔ t.HasFile location name := by
  have hlist : t.filesIn? path =
      some ((t.entries.filterMap (fileName? location)).mergeSort (· ≤ ·)) := by
    rw [FileTree.filesIn?, hpath]
    exact if_neg (not_not.2 hlocation)
  refine ⟨_, hlist, ?_, fun name => ?_⟩
  · have hdistinct : (t.entries.filterMap (fileName? location)).Nodup := by
      refine List.pairwise_filterMap.2 ((List.pairwise_map.1 h.distinct).imp ?_)
      rintro x y hne name hx _ hy rfl
      exact hne ((fileName?_eq_some_iff.1 hx).1.trans (fileName?_eq_some_iff.1 hy).1.symm)
    have hsorted : ((t.entries.filterMap (fileName? location)).mergeSort (· ≤ ·)).Pairwise
        fun a b => decide (a ≤ b) = true := by
      refine List.pairwise_mergeSort (fun a b c hab hbc => decide_eq_true ?_) (fun a b => ?_) _
      · exact String.le_trans (of_decide_eq_true hab) (of_decide_eq_true hbc)
      · simpa using String.le_total a b
    refine (hsorted.and ((List.mergeSort_perm _ _).nodup_iff.2 hdistinct)).imp ?_
    rintro a b ⟨hle, hne⟩
    exact String.not_le.1 fun hge => hne (String.le_antisymm (of_decide_eq_true hle) hge)
  · rw [List.mem_mergeSort, List.mem_filterMap, HasFile, Option.any_eq_true]
    constructor
    · rintro ⟨x, hx, hname⟩
      obtain ⟨hlocation, hfile⟩ := fileName?_eq_some_iff.1 hname
      exact ⟨x.2, h.find?_append_iff.2 (by rwa [← hlocation]), hfile⟩
    · rintro ⟨e, he, hfile⟩
      exact ⟨_, h.find?_append_iff.1 he, fileName?_eq_some_iff.2 ⟨rfl, hfile⟩⟩

end FileTree

end TemplateMerge
