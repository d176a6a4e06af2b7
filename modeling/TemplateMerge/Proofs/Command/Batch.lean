import TemplateMerge.Pattern.Engine
import TemplateMerge.Proofs.Command.Log
import TemplateMerge.Proofs.Merge.Pieces

/-! Batches treat every file on its own, and dry runs tell what runs do.

    What a batch makes of a file depends on two files alone, that of the template directory and that
    of the destination directory.  As long as these are two directories, no file that is written is
    read for another, so it does not matter which files come first, nor which of them fail.

        templates      a.md   b.md   c.md                        a.md   b.md   c.md
        destinations   a.md   b.md   c.md   z.md     ──▶   new   a.md          c.md
                                                           old          b.md          z.md
                              (b.md fails)

    A dry run makes the same of every file, but says `would update` where a run says `updated`, and
    leaves the files alone.

    Both enter lines in a log.  That may change a batch: if the log goes to one of the directories
    and the other has a file of its name, the log is a file of the batch itself. -/

namespace TemplateMerge

open FileTree

namespace Command

/-! ### Pairs of files -/

variable {m : Merger Outline.Node} {files t : FileTree} {templates destinations : String}
  {a b : Location} {name : String}

/-- What the files of a name in two directories are merged to, if they can be. -/
def mergedText? (m : Merger Outline.Node) (files : FileTree) (a b : Location) (name : String) :
    Option Text :=
  match files.find? (a ++ [name]), files.find? (b ++ [name]) with
  | some (.text template), some (.text destination) =>
    (m.merge template destination).toOption.map (·.content)
  | _, _ => none

/-- What is to stand in the destination directory under a name: the merged text, or what stands
    there already. -/
def written (m : Merger Outline.Node) (files : FileTree) (a b : Location) (name : String) :
    Option Entry :=
  ((mergedText? m files a b name).map .text).or (files.find? (b ++ [name]))

theorem written_of_some {text : Text} (h : mergedText? m files a b name = some text) :
    written m files a b name = some (.text text) := by
  rw [written, h]
  rfl

theorem written_of_none (h : mergedText? m files a b name = none) :
    written m files a b name = files.find? (b ++ [name]) := by
  rw [written, h]
  rfl

/-- What is printed of a file, with a word for files that are to change. -/
def verdict (word : String) (m : Merger Outline.Node) (files : FileTree) (destinations : String)
    (a b : Location) (name : String) : Text :=
  match mergedText? m files a b name with
  | none => []
  | some text =>
    ((if files.find? (b ++ [name]) = some (.text text) then "unchanged" else word) ++ " " ++
      join destinations name ++ "\n").toList

/-- Files in two directories are to be merged. -/
structure Considered (files : FileTree) (a b : Location) (name : String) : Prop where
  /-- There is a template of the name. -/
  template : files.HasFile a name
  /-- There is a destination of the name. -/
  destination : files.HasFile b name

/-- The state in which a batch finds the files: two directories, whose files can be reached. -/
structure BatchState (files : FileTree) (templates destinations : String) (a b : Location) :
    Prop where
  /-- The tree is one that a file system has. -/
  proper : files.Proper
  /-- The template path leads to a directory. -/
  source : files.resolve? templates = some a ∧ files.find? a = some .directory
  /-- So does the destination path. -/
  target : files.resolve? destinations = some b ∧ files.find? b = some .directory
  /-- These are two directories. -/
  separate : a ≠ b
  /-- The paths of the files that are in both are not too long. -/
  short : ∀ name, Considered files a b name →
    (join templates name).utf8ByteSize ≤ pathLimit ∧
      (join destinations name).utf8ByteSize ≤ pathLimit

/-- What comes of the file of a name, in the tree as it stands. -/
def fileResult (m : Merger Outline.Node) (files : FileTree) (templates destinations : String)
    (name : String) : FileResult :=
  ⟨join destinations name,
    mergeFile m files (join templates name) (join destinations name)⟩

/-! ### One file -/

namespace BatchState

/-- The paths of the files of a name lead to them, in every tree with the same directories. -/
theorem at? (h : BatchState files templates destinations a b) (hname : Considered files a b name)
    (hsame : SameDirectories files t) :
    t.at? (join templates name) = t.find? (a ++ [name]) ∧
      t.at? (join destinations name) = t.find? (b ++ [name]) := by
  have hproper := h.proper.properName hname.template
  obtain ⟨hshort, hshort'⟩ := h.short name hname
  constructor
  · rw [FileTree.at?, hsame.resolve?, resolve?_join h.source.1 h.source.2 hproper hshort]
    rfl
  · rw [FileTree.at?, hsame.resolve?, resolve?_join h.target.1 h.target.2 hproper hshort']
    rfl

theorem fileResult_congr (h : BatchState files templates destinations a b)
    (hname : Considered files a b name) (hsame : SameDirectories files t)
    (htemplate : t.find? (a ++ [name]) = files.find? (a ++ [name]))
    (hdestination : t.find? (b ++ [name]) = files.find? (b ++ [name])) :
    fileResult m t templates destinations name =
      fileResult m files templates destinations name := by
  obtain ⟨ht, ht'⟩ := h.at? hname hsame
  obtain ⟨hfiles, hfiles'⟩ := h.at? hname (.refl files)
  unfold fileResult mergeFile readText
  rw [ht, ht', hfiles, hfiles', htemplate, hdestination]

/-- Either two files cannot be merged, or what comes of them is the text they are merged to; and
    that is a change when it is not what stands in the destination. -/
theorem result_cases (h : BatchState files templates destinations a b)
    (hname : Considered files a b name) :
    (mergedText? m files a b name = none ∧
      ∃ fault, (fileResult m files templates destinations name).result = .error fault) ∨
    ∃ o, (fileResult m files templates destinations name).result = .ok o ∧
      mergedText? m files a b name = some o.content ∧
      o.changed = decide (files.find? (b ++ [name]) ≠ some (.text o.content)) := by
  obtain ⟨hsource, htarget⟩ := h.at? hname (.refl files)
  unfold mergedText? fileResult mergeFile readText
  rw [hsource, htarget]
  rcases files.find? (a ++ [name]) with _ | (source | _ | _)
  · exact .inl ⟨rfl, _, rfl⟩
  · rcases files.find? (b ++ [name]) with _ | (target | _ | _)
    · exact .inl ⟨rfl, _, rfl⟩
    · dsimp only [bind, Except.bind, Except.mapError]
      cases hmerge : m.merge source target with
      | error e => exact .inl ⟨rfl, _, rfl⟩
      | ok o =>
        refine .inr ⟨o, rfl, rfl, (Merger.changed_of_merge hmerge).trans ?_⟩
        simp [eq_comm]
    · exact .inl ⟨rfl, _, rfl⟩
    · exact .inl ⟨rfl, _, rfl⟩
  · exact .inl ⟨rfl, _, rfl⟩
  · exact .inl ⟨rfl, _, rfl⟩

theorem failed_eq (h : BatchState files templates destinations a b)
    (hname : Considered files a b name) :
    (fileResult m files templates destinations name).failed =
      (mergedText? m files a b name).isNone := by
  rcases h.result_cases (m := m) hname with ⟨hnone, fault, hfault⟩ | ⟨o, ho, hsome, -⟩
  · rw [FileResult.failed, hfault, hnone]
    rfl
  · rw [FileResult.failed, ho, hsome]
    rfl

theorem line_eq (h : BatchState files templates destinations a b)
    (hname : Considered files a b name) (dryRun : Bool) :
    ((fileResult m files templates destinations name).line dryRun).toList =
      verdict (if dryRun then "would update" else "updated") m files destinations a b name := by
  rcases h.result_cases (m := m) hname with ⟨hnone, fault, hfault⟩ | ⟨o, ho, hsome, hchanged⟩
  · rw [FileResult.line, hfault, verdict, hnone]
    rfl
  · rw [FileResult.line, ho, verdict, hsome]
    dsimp only
    rw [hchanged]
    by_cases hsame : files.find? (b ++ [name]) = some (.text o.content) <;>
      simp [hsame, fileResult]

/-- Writing a file writes what is to be written, and nothing else, whether or not it was written
    before. -/
theorem apply_spec (h : BatchState files templates destinations a b)
    (hname : Considered files a b name) (hsame : SameDirectories files t)
    (hcurrent : t.find? (b ++ [name]) = files.find? (b ++ [name]) ∨
      t.find? (b ++ [name]) = written m files a b name) :
    let t' := FileResult.apply t (fileResult m files templates destinations name)
    SameDirectories files t' ∧ t'.find? (b ++ [name]) = written m files a b name ∧
      ∀ l, l ≠ b ++ [name] → t'.find? l = t.find? l := by
  intro t'
  rcases h.result_cases (m := m) hname with ⟨hnone, fault, hfault⟩ | ⟨o, ho, hsome, hchanged⟩
  · have hkept := written_of_none hnone
    have ht' : t' = t := by
      show FileResult.apply t _ = t
      rw [FileResult.apply, hfault]
    rw [ht']
    exact ⟨hsame, by rcases hcurrent with hl | hl <;> rw [hl, hkept], fun _ _ => rfl⟩
  · have hnew := written_of_some hsome
    by_cases hold : files.find? (b ++ [name]) = some (.text o.content)
    · have ht' : t' = t := by
        show FileResult.apply t _ = t
        rw [FileResult.apply, ho]
        exact if_neg (by simp [hchanged, hold])
      rw [ht']
      exact ⟨hsame, by rcases hcurrent with hl | hl <;> rw [hl, hnew]; exact hold, fun _ _ => rfl⟩
    · have hfree : t.find? (b ++ [name]) ≠ some .directory := fun hdirectory =>
        hname.destination.not_directory ((hsame.directory_iff _).1 hdirectory)
      have hpath : t.resolve? (join destinations name) = some (b ++ [name]) := by
        rw [hsame.resolve?]
        exact resolve?_join h.target.1 h.target.2 (h.proper.properName hname.template)
          (h.short name hname).2
      have ht' : t' = t.put (b ++ [name]) (.text o.content) := by
        show FileResult.apply t _ = _
        rw [FileResult.apply, ho]
        dsimp only
        rw [if_pos (by simp [hchanged, hold]), fileResult,
          writeText?_of_resolve hpath hfree, Option.getD_some]
      rw [ht', find?_put_self t _ (by simp), hnew]
      exact ⟨hsame.trans (sameDirectories_put hfree _), rfl, fun l hl => find?_put_of_ne t _ hl⟩

end BatchState

/-! ### Many files -/

/-- A tree in which the files of some names have been written, and nothing else. -/
structure Progress (m : Merger Outline.Node) (files : FileTree) (a b : Location)
    (done : List String) (t : FileTree) : Prop where
  /-- Paths lead where they led. -/
  same : SameDirectories files t
  /-- These files are as they are to be. -/
  merged : ∀ name ∈ done, t.find? (b ++ [name]) = written m files a b name
  /-- All others are as they were. -/
  rest : ∀ l, (∀ name ∈ done, l ≠ b ++ [name]) → t.find? l = files.find? l

namespace Progress

variable {done names : List String}

theorem start (m : Merger Outline.Node) (files : FileTree) (a b : Location) :
    Progress m files a b [] files :=
  ⟨.refl files, nofun, fun _ _ => rfl⟩

/-- A file has been written, or is as it was. -/
theorem current (hp : Progress m files a b done t) (name : String) :
    t.find? (b ++ [name]) = files.find? (b ++ [name]) ∨
      t.find? (b ++ [name]) = written m files a b name := by
  by_cases hdone : name ∈ done
  · exact .inr (hp.merged name hdone)
  · refine .inl (hp.rest _ fun other hother hl => hdone ?_)
    obtain rfl : name = other := by simpa using hl
    exact hother

theorem step (hp : Progress m files a b done t) (h : BatchState files templates destinations a b)
    (hname : Considered files a b name) :
    Progress m files a b (done ++ [name])
      (FileResult.apply t (fileResult m files templates destinations name)) := by
  obtain ⟨hsame, hnew, hother⟩ := h.apply_spec hname hp.same (hp.current name)
  refine ⟨hsame, fun other hmem => ?_, fun l hl => ?_⟩
  · by_cases heq : other = name
    · rw [heq, hnew]
    · have hmem : other ∈ done := by simpa [heq] using hmem
      rw [hother _ (by simpa using heq), hp.merged other hmem]
  · have hl' : ∀ other ∈ done ++ [name], l ≠ b ++ [other] := hl
    rw [hother l (hl' name (by simp)), hp.rest l fun other hmem => hl' other (by simp [hmem])]

theorem run (h : BatchState files templates destinations a b) :
    ∀ {names done : List String} {t : FileTree}, (∀ name ∈ names, Considered files a b name) →
      Progress m files a b done t →
      Progress m files a b (done ++ names)
        ((names.map (fileResult m files templates destinations)).foldl FileResult.apply t) := by
  intro names
  induction names with
  | nil =>
    intro done t _ hp
    rwa [List.append_nil]
  | cons name rest ih =>
    intro done t hnames hp
    rw [List.map_cons, List.foldl_cons, List.append_cons]
    exact ih (fun other hother => hnames other (List.mem_cons_of_mem name hother))
      (hp.step h (hnames name List.mem_cons_self))

end Progress

/-- The file of a name is merged in the tree as it stands, and written. -/
def mergeInPlace (m : Merger Outline.Node) (templates destinations : String) (t : FileTree)
    (name : String) : FileTree :=
  FileResult.apply t (fileResult m t templates destinations name)

/-- Files that are read only when their turn comes are read as they were. -/
theorem foldl_mergeInPlace (h : BatchState files templates destinations a b) :
    ∀ {names done : List String} {t : FileTree}, (∀ name ∈ names, Considered files a b name) →
      (done ++ names).Nodup → Progress m files a b done t →
      names.foldl (mergeInPlace m templates destinations) t =
        (names.map (fileResult m files templates destinations)).foldl FileResult.apply t := by
  intro names
  induction names with
  | nil => intro _ _ _ _ _; rfl
  | cons name rest ih =>
    intro done t hnames hnodup hp
    have hname := hnames name List.mem_cons_self
    have hnew : ∀ other ∈ done, b ++ [name] ≠ b ++ [other] := by
      intro other hother heq
      obtain rfl : name = other := by simpa using heq
      exact (List.nodup_append.1 hnodup).2.2 name hother name List.mem_cons_self rfl
    have hfar : ∀ other ∈ done, a ++ [name] ≠ b ++ [other] := fun other _ heq =>
      h.separate (List.append_inj' heq rfl).1
    have hread : fileResult m t templates destinations name =
        fileResult m files templates destinations name :=
      h.fileResult_congr hname hp.same (hp.rest _ hfar) (hp.rest _ hnew)
    rw [List.foldl_cons, List.map_cons, List.foldl_cons, mergeInPlace, hread]
    refine ih (fun other hother => hnames other
      (List.mem_cons_of_mem name hother)) (by rwa [← List.append_cons]) (hp.step h hname)

/-! ### Runs -/

/-- The names that a batch goes through are those of the files in both directories. -/
theorem BatchState.pairedNames (h : BatchState files templates destinations a b) :
    ∃ names, pairedNames files templates destinations = .ok names ∧ names.Pairwise (· < ·) ∧
      ∀ name, name ∈ names ↔ Considered files a b name := by
  obtain ⟨names, hnames, hsorted, hmem⟩ := h.proper.filesIn? h.source.1 h.source.2
  refine ⟨names.filter fun name => files.isFile (join destinations name), ?_, hsorted.filter _,
    fun name => ?_⟩
  · rw [Command.pairedNames, hnames]
  rw [List.mem_filter, hmem]
  constructor
  · rintro ⟨htemplate, hfile⟩
    -- a path that leads somewhere is short enough to lead where it should
    obtain ⟨e, he, hisFile⟩ := (Option.any_eq_true ..).1 hfile
    obtain ⟨l, hl, hentry⟩ := Option.bind_eq_some_iff.1 he
    have hpath := resolve?_join h.target.1 h.target.2 (h.proper.properName htemplate)
      (le_of_resolve? hl)
    obtain rfl := Option.some.inj (hl.symm.trans hpath)
    exact ⟨htemplate, (Option.any_eq_true ..).2 ⟨e, hentry, hisFile⟩⟩
  · intro hname
    have hat : files.at? (join destinations name) = files.find? (b ++ [name]) :=
      (h.at? hname (.refl files)).2
    exact ⟨hname.template, by rw [FileTree.isFile, hat]; exact hname.destination⟩

/-- How many of the files cannot be merged. -/
def failures (m : Merger Outline.Node) (files : FileTree) (a b : Location) (names : List String) :
    Nat :=
  names.countP fun name => (mergedText? m files a b name).isNone

/-- What a batch says when files have failed. -/
def failuresMessage (count : Nat) : Text :=
  if count = 0 then []
  else ("Error: " ++ (toString count ++ " file(s) failed to merge") ++ "\n").toList

/-- A run says what has become of each file, and at last how many have failed. -/
theorem runBatch_eq (h : BatchState files templates destinations a b) {names : List String}
    (hnames : ∀ name ∈ names, Considered files a b name) (dryRun : Bool) :
    let results := names.map (fileResult m files templates destinations)
    let count := failures m files a b names
    let word := if dryRun then "would update" else "updated"
    runBatch files dryRun results =
      ⟨if count = 0 then 0 else 1, names.flatMap (verdict word m files destinations a b),
        results.flatMap (fun r => r.remark.toList) ++ failuresMessage count,
        if dryRun then files else results.foldl FileResult.apply files⟩ := by
  intro results count word
  have hcount : results.countP FileResult.failed = count := by
    rw [List.countP_map]
    exact List.countP_congr fun name hname => by
      rw [Function.comp_apply, h.failed_eq (hnames name hname)]
  have houtput : (results.flatMap fun r => (r.line dryRun).toList) =
      names.flatMap (verdict word m files destinations a b) := by
    rw [List.flatMap_map]
    exact List.flatMap_congr fun name hname => h.line_eq (hnames name hname) dryRun
  unfold runBatch
  dsimp only
  rw [hcount, houtput, failuresMessage]
  split
  next => rw [List.append_nil]
  next => rfl

/-! ### The log -/

/-- The log is none of the files of a batch: if it goes to one of the directories, the other has no
    file of its name. -/
structure LogApart (before : FileTree) (a b log : Location) : Prop where
  templates : ∀ name, log = a ++ [name] → ¬ before.HasFile b name
  destinations : ∀ name, log = b ++ [name] → ¬ before.HasFile a name

section Log

variable {u : Surroundings} {before : FileTree} {directory : String} {s : Settings} {site : LogSite}

theorem Opened.hasFile_iff {l : Location} (ho : Opened before directory s files site)
    (hl : l ++ [name] ≠ site.file) : files.HasFile l name ↔ before.HasFile l name := by
  unfold HasFile
  rcases ho.logged.rest _ hl with hkept | ⟨hnone, hdirectory, -⟩
  · rw [hkept]
  · rw [hnone, hdirectory]
    exact ⟨nofun, nofun⟩

theorem LogApart.ne (h : LogApart before a b site.file) (hname : Considered before a b name) :
    a ++ [name] ≠ site.file ∧ b ++ [name] ≠ site.file :=
  ⟨fun hlog => h.templates name hlog.symm hname.destination,
    fun hlog => h.destinations name hlog.symm hname.template⟩

/-- Opening the log brings no file to a batch, and takes none from it. -/
theorem LogApart.considered_iff (h : LogApart before a b site.file)
    (ho : Opened before directory s files site) (hab : a ≠ b) :
    Considered files a b name ↔ Considered before a b name := by
  have hother : a ++ [name] ≠ b ++ [name] := fun heq => hab (List.append_inj' heq rfl).1
  constructor
  · rintro ⟨ht, hd⟩
    have hta : a ++ [name] ≠ site.file := by
      intro hlog
      exact h.templates name hlog.symm ((ho.hasFile_iff (hlog ▸ hother.symm)).1 hd)
    have hdb : b ++ [name] ≠ site.file := by
      intro hlog
      exact h.destinations name hlog.symm ((ho.hasFile_iff (hlog ▸ hother)).1 ht)
    exact ⟨(ho.hasFile_iff hta).1 ht, (ho.hasFile_iff hdb).1 hd⟩
  · intro hname
    obtain ⟨hta, hdb⟩ := h.ne hname
    exact ⟨(ho.hasFile_iff hta).2 hname.template, (ho.hasFile_iff hdb).2 hname.destination⟩

/-- The files of a batch are what they were before the log was opened. -/
theorem Opened.find?_eq (ho : Opened before directory s files site)
    (hname : Considered before a b name) :
    files.find? (a ++ [name]) = before.find? (a ++ [name]) ∧
      files.find? (b ++ [name]) = before.find? (b ++ [name]) := by
  have hkeeps : ∀ l, before.HasFile l name →
      files.find? (l ++ [name]) = before.find? (l ++ [name]) := by
    intro l hl
    obtain ⟨e, he, -⟩ := (Option.any_eq_true ..).1 hl
    rw [he, ho.extended.keeps _ _ he]
  exact ⟨hkeeps a hname.template, hkeeps b hname.destination⟩

/-- Once the log has been opened there are still two directories whose files can be reached. -/
theorem BatchState.opened (h : BatchState before templates destinations a b)
    (ho : Opened before directory s files site) (hapart : LogApart before a b site.file) :
    BatchState files templates destinations a b where
  proper := ho.proper h.proper
  source := ⟨ho.extended.resolve? h.source.1, ho.extended.keeps _ _ h.source.2⟩
  target := ⟨ho.extended.resolve? h.target.1, ho.extended.keeps _ _ h.target.2⟩
  separate := h.separate
  short name hname := h.short name ((hapart.considered_iff ho h.separate).1 hname)

/-- Under settings that build a merger, a batch is run. -/
theorem runWith_batch (hm : outlineMerger s id = .ok m)
    {names : List String} (hnames : pairedNames files templates destinations = .ok names)
    (dryRun : Bool) :
    runWith u files s (.batch templates destinations dryRun) =
      runBatch files dryRun (names.map (fileResult m files templates destinations)) := by
  rw [runWith, hm, hnames]
  rfl

end Log

/-! ### Batches -/

/-- A batch that is run, and the same batch run dry, treat every file on its own.  The names are
    those of the files, and the lines those that the runs enter in the log. -/
structure Isolates (m : Merger Outline.Node) (before : FileTree) (templates destinations : String)
    (a b : Location) (site : LogSite) (lines dryLines : Text) (names : List String)
    (run dry : Run) : Prop where
  /-- The names are in order, and none comes twice. -/
  sorted : names.Pairwise (· < ·)
  /-- They are the names of the files that are in both directories. -/
  considered : ∀ name, name ∈ names ↔ Considered before a b name
  /-- Files that can be merged are left with the merged text. -/
  merged : ∀ name ∈ names, ∀ text, mergedText? m before a b name = some text →
    run.files.find? (b ++ [name]) = some (.text text)
  /-- Files that cannot be merged are left as they were. -/
  kept : ∀ name ∈ names, mergedText? m before a b name = none →
    run.files.find? (b ++ [name]) = before.find? (b ++ [name])
  /-- So is everything else, but for the log and directories on the way to it. -/
  rest : ∀ l, l ≠ site.file → (∀ name ∈ names, l ≠ b ++ [name]) →
    KeptOrMade site.way before run.files l
  /-- If files are read only when they are written, in whatever order, the same is left, but for the
      lines in the log. -/
  anyOrder : ∀ order : List String, order.Perm names →
    Logged (order.foldl (mergeInPlace m templates destinations) before) site lines run.files
  /-- The dry run leaves all files as they were, but for the lines in the log. -/
  dryFiles : Logged before site dryLines dry.files
  /-- Both fail if a file does. -/
  codes : run.code = (if failures m before a b names = 0 then 0 else 1) ∧ dry.code = run.code
  /-- Both say how many files failed, and why they did. -/
  remarks : (∃ reasons, run.remarks = reasons ++ failuresMessage (failures m before a b names)) ∧
    dry.remarks = run.remarks
  /-- Both tell in the same way which files change. -/
  output : run.output = names.flatMap (verdict "updated" m before destinations a b) ∧
    dry.output = names.flatMap (verdict "would update" m before destinations a b)

section Isolation

variable {before : FileTree} {directory : String} {s : Settings} {site : LogSite}
  {names : List String}

theorem Opened.mergedText?_eq (ho : Opened before directory s files site)
    (hname : Considered before a b name) :
    mergedText? m files a b name = mergedText? m before a b name := by
  obtain ⟨hsource, htarget⟩ := ho.find?_eq hname
  rw [mergedText?, mergedText?, hsource, htarget]

theorem Opened.failures_eq (ho : Opened before directory s files site)
    (hnames : ∀ name ∈ names, Considered before a b name) :
    failures m files a b names = failures m before a b names :=
  List.countP_congr fun name hname => by rw [ho.mergedText?_eq (hnames name hname)]

theorem Opened.verdicts_eq (ho : Opened before directory s files site)
    (hnames : ∀ name ∈ names, Considered before a b name) (word : String) :
    names.flatMap (verdict word m files destinations a b) =
      names.flatMap (verdict word m before destinations a b) :=
  List.flatMap_congr fun name hname => by
    rw [verdict, verdict, ho.mergedText?_eq (hnames name hname),
      (ho.find?_eq (hnames name hname)).2]

/-- Files that are written in the tree with the log and in the tree without leave what stands
    elsewhere. -/
theorem Progress.logged {done done' : List String} {t t' : FileTree}
    (hapart : LogApart before a b site.file) (ho : Opened before directory s files site)
    (hnames : ∀ name ∈ names, Considered before a b name)
    (hp : Progress m before a b done t) (hp' : Progress m files a b done' t')
    (hdone : ∀ name, name ∈ done ↔ name ∈ names) (hdone' : ∀ name, name ∈ done' ↔ name ∈ names) :
    Logged t site [] t' := by
  have hrest : ∀ l, (∀ name ∈ names, l ≠ b ++ [name]) →
      t.find? l = before.find? l ∧ t'.find? l = files.find? l := fun l hl =>
    ⟨hp.rest l fun name hname => hl name ((hdone name).1 hname),
      hp'.rest l fun name hname => hl name ((hdone' name).1 hname)⟩
  constructor
  · obtain ⟨hlog, hlog'⟩ := hrest site.file fun name hname heq =>
      (hapart.ne (hnames name hname)).2 heq.symm
    rw [hlog, hlog']
    exact ho.logged.file
  · intro l hl
    by_cases hmem : ∃ name ∈ names, l = b ++ [name]
    · obtain ⟨name, hname, rfl⟩ := hmem
      have hconsidered := hnames name hname
      refine .inl ?_
      rw [hp.merged name ((hdone name).2 hname), hp'.merged name ((hdone' name).2 hname), written,
        written, ho.mergedText?_eq hconsidered, (ho.find?_eq hconsidered).2]
    · obtain ⟨hfind, hfind'⟩ := hrest l fun name hname heq => hmem ⟨name, hname, heq⟩
      rw [KeptOrMade, hfind, hfind']
      exact ho.logged.rest l hl

end Isolation

end Command

open Command in
/-- Whenever settings build a merger and the log, once it is opened, is none of the files, batches
    treat every file on its own, and dry runs tell what runs do. -/
theorem batch_isolates_files (u u' : Surroundings) {before files : FileTree} {directory : String}
    {s : Settings} {site : LogSite} {m : Merger Outline.Node} {templates destinations : String}
    {a b : Location} (ho : Opened before directory s files site) (hm : outlineMerger s id = .ok m)
    (h : BatchState before templates destinations a b) (hapart : LogApart before a b site.file) :
    ∃ names, Isolates m before templates destinations a b site u.logged u'.logged names
      (Invocation.run u before ⟨directory, .batch templates destinations false⟩)
      (Invocation.run u' before ⟨directory, .batch templates destinations true⟩) := by
  have hopened := h.opened ho hapart
  obtain ⟨names, hnames, hsorted, hmem⟩ := hopened.pairedNames
  have hconsidered : ∀ name ∈ names, Considered files a b name := fun name => (hmem name).1
  have hbefore : ∀ name ∈ names, Considered before a b name := fun name hname =>
    (hapart.considered_iff ho h.separate).1 (hconsidered name hname)
  have hwritten := Progress.run (m := m) hopened hconsidered (.start m files a b)
  rw [List.nil_append] at hwritten
  have hanyOrder : ∀ order : List String, order.Perm names →
      Logged (order.foldl (mergeInPlace m templates destinations) before) site []
        ((names.map (fileResult m files templates destinations)).foldl FileResult.apply files) := by
    intro order horder
    have horder' : ∀ name ∈ order, Considered before a b name := fun name hname =>
      hbefore name (horder.mem_iff.1 hname)
    have hdistinct : names.Nodup := by
      refine hsorted.imp ?_
      rintro name _ hlt rfl
      exact String.lt_irrefl name hlt
    have hnodup : ([] ++ order).Nodup := horder.nodup_iff.2 hdistinct
    rw [foldl_mergeInPlace h horder' hnodup (.start m before a b)]
    have hother := Progress.run (m := m) h horder' (.start m before a b)
    rw [List.nil_append] at hother
    exact Progress.logged hapart ho hbefore hother hwritten (fun _ => horder.mem_iff)
      fun _ => Iff.rfl
  refine ⟨names, ?_⟩
  rw [ho.run_eq rfl, ho.run_eq rfl, runWith_batch hm hnames, runWith_batch hm hnames,
    runBatch_eq hopened hconsidered, runBatch_eq hopened hconsidered,
    ho.failures_eq hbefore, ho.verdicts_eq hbefore, ho.verdicts_eq hbefore]
  simp only [Run.entering, Bool.false_eq_true, if_false, if_true]
  have hpath := (hwritten.same.resolve? (logPath directory s)).trans ho.file
  have hentered := fun l (hl : l ≠ site.file) => find?_appendText_of_ne u.logged hpath hl
  have hlogged := fun order horder =>
    ho.entering hwritten.same (hanyOrder order horder) u.logged
  have hdry := ho.entering (.refl files) ho.logged u'.logged
  -- all that is known of what the two runs leave
  generalize FileTree.appendText _ _ u.logged = after at hentered hlogged ⊢
  generalize FileTree.appendText _ _ u'.logged = dryAfter at hdry ⊢
  exact {
    sorted := hsorted
    considered := fun name => (hmem name).trans (hapart.considered_iff ho h.separate)
    merged := fun name hname text htext => by
      have hconsidered := hbefore name hname
      refine (hentered _ (hapart.ne hconsidered).2).trans ((hwritten.merged name hname).trans ?_)
      exact written_of_some ((ho.mergedText?_eq hconsidered).trans htext)
    kept := fun name hname hnone => by
      have hconsidered := hbefore name hname
      refine (hentered _ (hapart.ne hconsidered).2).trans ((hwritten.merged name hname).trans ?_)
      rw [written_of_none ((ho.mergedText?_eq hconsidered).trans hnone)]
      exact (ho.find?_eq hconsidered).2
    rest := fun l hl hnames =>
      (ho.logged.rest l hl).of_eq ((hentered l hl).trans (hwritten.rest l hnames))
    anyOrder := hlogged
    dryFiles := hdry
    codes := ⟨rfl, rfl⟩
    remarks := ⟨⟨_, rfl⟩, rfl⟩
    output := ⟨rfl, rfl⟩ }

theorem Except.ok_of_toOption {ε α : Type} {x : Except ε α} {y : α} (h : x.toOption = some y) :
    x = .ok y := by
  cases x <;> cases h
  rfl

open Command in
/-- One file of three is changed, one cannot be merged, and one is as it should be. -/
theorem batch_isolates_files_one_failing :
    let before : FileTree := ⟨["w"], [
      (["w"], .directory), (["w", "t"], .directory), (["w", "d"], .directory),
      (["w", ".structmerge"], .directory),
      (["w", ".structmerge", "settings.json"],
        .text "\x7b\"merge\":\x7b\"add_template_only_nodes\":true\x7d\x7d".toList),
      (["w", "t", "c.md"], .text "old".toList),
      (["w", "t", "b.md"], .text "# structmerge:freeze".toList),
      (["w", "t", "a.md"], .text "new".toList), (["w", "d", "a.md"], .text "old".toList),
      (["w", "d", "b.md"], .text "old".toList), (["w", "d", "c.md"], .text "old".toList),
      (["w", "d", "z.md"], .text "old".toList)]⟩
    let run (dryRun : Bool) := Invocation.run ⟨Pattern.engine, ⟨"", ""⟩, "line\n".toList⟩ before
      ⟨".structmerge", .batch "t" "d" dryRun⟩
    ∃ m site names,
      Isolates m before "t" "d" ["w", "t"] ["w", "d"] site "line\n".toList "line\n".toList names
        (run false) (run true) ∧
      (run false).files.find? ["w", "d", "a.md"] = some (.text "old\nnew".toList) ∧
      (run false).files.find? ["w", "d", "b.md"] = some (.text "old".toList) ∧
      (run true).files.find? ["w", ".structmerge", "logs", "structmerge.log"] =
        some (.text "line\n".toList) ∧
      (run true).code = 1 := by
  intro before run
  -- the settings, the place of the log, and what the files are merged to
  have hcomputed : ((loadSettings before ".structmerge").toOption.bind fun s =>
      (outlineMerger s id).toOption.map fun m =>
        (((openLog before ".structmerge" s).1.resolve? (logPath ".structmerge" s),
          (openLog before ".structmerge" s).2.isNone),
          ["a.md", "b.md"].map (mergedText? m before ["w", "t"] ["w", "d"]))) =
      some ((some ["w", ".structmerge", "logs", "structmerge.log"], true),
        [some "old\nnew".toList, none]) := by decide +kernel
  obtain ⟨s, hsettings, hcomputed⟩ := Option.bind_eq_some_iff.1 hcomputed
  obtain ⟨m, hm, hcomputed⟩ := Option.map_eq_some_iff.1 hcomputed
  simp only [Prod.mk.injEq, List.map_cons, List.map_nil, List.cons.injEq] at hcomputed
  obtain ⟨⟨hfile, hopen⟩, hmerged, hfailed, -⟩ := hcomputed
  obtain ⟨site, ho⟩ := exists_opened (Except.ok_of_toOption hsettings)
    (Prod.ext rfl (Option.isNone_iff_eq_none.1 hopen))
  have hsite : site.file = ["w", ".structmerge", "logs", "structmerge.log"] :=
    Option.some.inj (ho.file.symm.trans hfile)
  have hstate : BatchState before "t" "d" ["w", "t"] ["w", "d"] := by
    have hproper : Proper before := by decide +kernel
    refine ⟨hproper, by decide +kernel, by decide +kernel, by decide, fun name hname => ?_⟩
    have hname := hproper.properName hname.template
    exact ⟨hname.join_le (by decide +kernel), hname.join_le (by decide +kernel)⟩
  have hapart : LogApart before ["w", "t"] ["w", "d"] site.file := by
    rw [hsite]
    exact ⟨fun name h => absurd (congrArg List.length h) (by simp),
      fun name h => absurd (congrArg List.length h) (by simp)⟩
  obtain ⟨names, hisolates⟩ := batch_isolates_files ⟨Pattern.engine, ⟨"", ""⟩, "line\n".toList⟩
    ⟨Pattern.engine, ⟨"", ""⟩, "line\n".toList⟩ ho (Except.ok_of_toOption hm) hstate hapart
  have hconsidered : ∀ name ∈ ["a.md", "b.md"], name ∈ names := by
    intro name hname
    refine (hisolates.considered name).2 ⟨?_, ?_⟩ <;> revert name <;> decide +kernel
  refine ⟨m, site, names, hisolates, ?_, ?_, ?_, ?_⟩
  · exact hisolates.merged "a.md" (hconsidered _ (by simp)) _ hmerged
  · exact (hisolates.kept "b.md" (hconsidered _ (by simp)) hfailed).trans (by decide +kernel)
  · have hlines := hisolates.dryFiles.file
    rw [hsite] at hlines
    exact hlines.trans (by decide +kernel)
  · have hfails : failures m before ["w", "t"] ["w", "d"] names ≠ 0 :=
      Nat.ne_of_gt (List.countP_pos_iff.2 ⟨"b.md", hconsidered _ (by simp), by simp [hfailed]⟩)
    rw [hisolates.codes.2, hisolates.codes.1, if_neg hfails]

open Command in
/-- A dry run enters lines in the log.  Where the log goes to the directory of the destinations, a
    template of its name is merged into it; and where it cannot be opened, a run fails though all of
    its files can be merged. -/
theorem dry_run_enters_log :
    let here (more : List (Location × Entry)) : FileTree := ⟨["w"], [(["w"], .directory),
      (["w", "t"], .directory), (["w", "d"], .directory), (["w", ".structmerge"], .directory)] ++
        more⟩
    let dry (before : FileTree) := Invocation.run ⟨Pattern.engine, ⟨"", ""⟩, "line\n".toList⟩ before
      ⟨".structmerge", .batch "t" "d" true⟩
    let a : List (Location × Entry) := [(["w", "t", "a.md"], .text "old".toList),
      (["w", "d", "a.md"], .text "old".toList)]
    let plain := here a
    let blocked := here (a ++ [(["w", ".structmerge", "logs"], .text ['x'])])
    let among := here [(["w", "t", "structmerge.log"], .text []),
      (["w", ".structmerge", "settings.json"],
        .text "\x7b\"logging\":\x7b\"dir\":\"../d\"\x7d\x7d".toList)]
    (BatchState plain "t" "d" ["w", "t"] ["w", "d"] ∧ (dry plain).code = 0 ∧
      (dry plain).files.find? ["w", ".structmerge", "logs", "structmerge.log"] ≠
        plain.find? ["w", ".structmerge", "logs", "structmerge.log"]) ∧
    BatchState among "t" "d" ["w", "t"] ["w", "d"] ∧ (dry among).code = 0 ∧
      ¬ Considered among ["w", "t"] ["w", "d"] "structmerge.log" ∧
      (dry among).output = "unchanged d/structmerge.log\n".toList ∧
    BatchState blocked "t" "d" ["w", "t"] ["w", "d"] ∧ (dry blocked).code = 1 := by
  intro here dry a plain blocked among
  have hstate : ∀ before : FileTree, before.Proper →
      before.resolve? "t" = some ["w", "t"] ∧ before.find? ["w", "t"] = some .directory →
      before.resolve? "d" = some ["w", "d"] ∧ before.find? ["w", "d"] = some .directory →
      BatchState before "t" "d" ["w", "t"] ["w", "d"] := by
    intro before hproper hsource htarget
    refine ⟨hproper, hsource, htarget, by decide, fun name hname => ?_⟩
    have hname := hproper.properName hname.template
    exact ⟨hname.join_le (by decide +kernel), hname.join_le (by decide +kernel)⟩
  refine ⟨⟨hstate _ (by decide +kernel) (by decide +kernel) (by decide +kernel), by decide +kernel,
    by decide +kernel⟩, hstate _ (by decide +kernel) (by decide +kernel) (by decide +kernel),
    by decide +kernel, fun hconsidered => ?_, by decide +kernel,
    hstate _ (by decide +kernel) (by decide +kernel) (by decide +kernel), by decide +kernel⟩
  have hnone := hconsidered.destination
  revert hnone
  decide +kernel

end TemplateMerge
