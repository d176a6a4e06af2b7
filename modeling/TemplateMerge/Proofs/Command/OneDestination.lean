import TemplateMerge.Proofs.Command.Arguments
import TemplateMerge.Proofs.Command.Batch
import TemplateMerge.Proofs.FileTree.Writing
import TemplateMerge.Proofs.Merge.Failures

/-! Commands on one destination change files only when all has gone well, and only where told.

    A command goes through stages, and but for the log nothing is written before the last of them.
    If one fails, the files are as they were but for the log.

        place  ──▶  settings  ──▶  log  ──▶  options  ──▶  markers  ──▶  template  ──▶  destination
                                                                                            │
        done   ◀──  output   ◀──  report   ◀────────────────────────────  merge   ◀─────────┘

    The report and the output are written to where their paths lead, and everything else is left as
    it was.  That holds for the destination too, unless one of the two paths leads to it.

    What is a pattern, and where it is found, is up to the engine among the surroundings of the run;
    all that follows holds with any. -/

namespace TemplateMerge

open FileTree

namespace Command

/-- The template and the target of a command on one destination. -/
def aim? : Command → Option (String × Target)
  | .merge template target _ _ => some (template, target)
  | .mergeAt template target _ => some (template, target)
  | .batch _ _ _ => none

/-! ### Before the merge -/

/-- How loading the settings and opening the log fails. -/
inductive Unopened (before : FileTree) (directory : String) : CommandError → Prop
  /-- The settings cannot be loaded. -/
  | settings {e : CommandError} (h : loadSettings before directory = .error e) :
    Unopened before directory e
  /-- The log cannot be opened. -/
  | log {s : Settings} {files : FileTree} {e : CommandError}
    (hs : loadSettings before directory = .ok s)
    (h : openLog before directory s = (files, some e)) : Unopened before directory e

/-- The settings say how to merge and what markers there are, and both texts have been read. -/
structure Ready (files : FileTree) (s : Settings) (template destination : String)
    (configured : MergeOptions) (markers : MarkerRegistry) (t d : Text) : Prop where
  options : s.mergeOptions = .ok configured
  markers : s.markerRegistry = .ok markers
  template : files.readText template = .ok t
  destination : files.readText destination = .ok d

/-- How that fails. -/
inductive Unready (files : FileTree) (s : Settings) (template destination : String) :
    CommandError → Prop
  /-- The settings do not say how to merge. -/
  | options {c : ConfigError} (h : s.mergeOptions = .error c) :
    Unready files s template destination (.config c)
  /-- The markers of the settings cannot be used. -/
  | markers {configured : MergeOptions} {c : ConfigError} (ho : s.mergeOptions = .ok configured)
    (h : s.markerRegistry = .error c) : Unready files s template destination (.config c)
  /-- The template cannot be read. -/
  | template {configured : MergeOptions} {markers : MarkerRegistry} {fault : ReadFault}
    (ho : s.mergeOptions = .ok configured) (hm : s.markerRegistry = .ok markers)
    (h : files.readText template = .error fault) :
    Unready files s template destination (.unreadable template)
  /-- The template can be read and the destination cannot. -/
  | destination {configured : MergeOptions} {markers : MarkerRegistry} {t : Text}
    {fault : ReadFault} (ho : s.mergeOptions = .ok configured)
    (hm : s.markerRegistry = .ok markers) (ht : files.readText template = .ok t)
    (h : files.readText destination = .error fault) :
    Unready files s template destination (.unreadable destination)

/-! ### The merge -/

/-- The options of a whole merge: a preference on the command line replaces the configured one, the
    flag can only enable additions, and the rest is as configured. -/
structure Overrides (preference : Option Side) (add : Bool) (configured options : MergeOptions) :
    Prop where
  replaced : ∀ side, preference = some side → options.preference = .everywhere side
  kept : preference = none → options.preference = configured.preference
  added : options.addTemplateOnly = true ↔ configured.addTemplateOnly = true ∨ add = true
  rest : options.typing = configured.typing ∧ options.refiner = configured.refiner ∧
    options.strategy = configured.strategy

/-- What a command makes of two texts. -/
inductive Merges (engine : PatternEngine) (configured : MergeOptions) (markers : MarkerRegistry)
    (t d : Text) : Command → Outcome → Prop
  | whole {template : String} {target : Target} {preference : Option Side} {add : Bool}
    {options : MergeOptions} {o : Outcome} (ho : Overrides preference add configured options)
    (h : Merger.merge ⟨Outline.format markers, options⟩ t d = .ok o) :
    Merges engine configured markers t d (.merge template target preference add) o
  | part {template : String} {target : Target} {place : PlaceArguments}
    {request : Injection.Request Outline.Node} {o : Outcome}
    (hr : place.request engine = .ok request)
    (h : Merger.mergePartial ⟨Outline.format markers, configured⟩ t d request = .ok o) :
    Merges engine configured markers t d (.mergeAt template target place) o

/-- How a command fails on two texts: they cannot be parsed, the anchor is not there, or a hook
    fails. -/
inductive Unmerged (engine : PatternEngine) (configured : MergeOptions) (markers : MarkerRegistry)
    (t d : Text) : Command → MergeError → Prop
  | whole {template : String} {target : Target} {preference : Option Side} {add : Bool}
    {options : MergeOptions} {e : MergeError} (ho : Overrides preference add configured options)
    (h : Merger.WholeFails ⟨Outline.format markers, options⟩ (Outline.parse markers t)
      (Outline.parse markers d) e) :
    Unmerged engine configured markers t d (.merge template target preference add) e
  | part {template : String} {target : Target} {place : PlaceArguments}
    {request : Injection.Request Outline.Node} {e : MergeError}
    (hr : place.request engine = .ok request)
    (h : Merger.PartialFails ⟨Outline.format markers, configured⟩ (Outline.parse markers t)
      (Outline.parse markers d) request e) :
    Unmerged engine configured markers t d (.mergeAt template target place) e

variable {configured options : MergeOptions} {markers : MarkerRegistry} {t d : Text}

theorem overrides_override (preference : Option Side) (add : Bool) (configured : MergeOptions) :
    Overrides preference add configured (override preference add configured) where
  replaced := by rintro side rfl; rfl
  kept := by rintro rfl; rfl
  added := Bool.or_eq_true_iff
  rest := ⟨rfl, rfl, rfl⟩

theorem Overrides.eq {preference : Option Side} {add : Bool}
    (h : Overrides preference add configured options) :
    options = override preference add configured := by
  obtain ⟨hreplaced, hkept, hadded, htyping, hrefiner, hstrategy⟩ := h
  have hpreference : options.preference =
      (preference.map Preference.everywhere).getD configured.preference := by
    cases preference with
    | none => exact hkept rfl
    | some side => exact hreplaced side rfl
  have hadd : options.addTemplateOnly = (configured.addTemplateOnly || add) := by
    rw [Bool.eq_iff_iff, hadded, Bool.or_eq_true_iff]
  obtain ⟨_, _, _, _, _⟩ := options
  dsimp only at hpreference hadd htyping hrefiner hstrategy
  rw [hpreference, hadd, htyping, hrefiner, hstrategy]
  rfl

/-! ### Stages in a row -/

/-- The text of the destination, and the outcome of working on it with a merger that settings
    describe. -/
def produce (files : FileTree) (s : Settings) (template destination : String)
    (change : MergeOptions → MergeOptions)
    (work : Merger Outline.Node → Text → Text → Except MergeError Outcome) :
    Except CommandError (Text × Outcome) :=
  (outlineMerger s change).bind fun m => outcome files template destination (work m)

section Produce

variable {files : FileTree} {s : Settings} {template destination : String}
  {change : MergeOptions → MergeOptions}
  {work : Merger Outline.Node → Text → Text → Except MergeError Outcome}

theorem produce_eq_error_iff {e : CommandError} :
    produce files s template destination change work = .error e ↔
      Unready files s template destination e ∨ ∃ configured markers t d f,
        Ready files s template destination configured markers t d ∧
          work ⟨Outline.format markers, change configured⟩ t d = .error f ∧ .merge f = e := by
  unfold produce outlineMerger outcome source
  simp only [bind, Except.bind_eq_error_iff, Except.bind_eq_ok_iff, Except.mapError_eq_ok_iff,
    Except.mapError_eq_error_iff, pure, Except.pure, Except.ok.injEq, reduceCtorEq, and_false,
    exists_false, or_false]
  constructor
  · rintro ((⟨c, hc, rfl⟩ | ⟨configured, ho, c, hc, rfl⟩) |
      ⟨_, ⟨configured, ho, markers, hm, rfl⟩, ⟨fault, hf, rfl⟩ | ⟨t, ht, ⟨fault, hf, rfl⟩ |
        ⟨d, hd, f, hw, rfl⟩⟩⟩)
    · exact .inl (.options hc)
    · exact .inl (.markers ho hc)
    · exact .inl (.template ho hm hf)
    · exact .inl (.destination ho hm ht hf)
    · exact .inr ⟨configured, markers, t, d, f, ⟨ho, hm, ht, hd⟩, hw, rfl⟩
  · rintro ((hc | ⟨ho, hc⟩ | ⟨ho, hm, hf⟩ | ⟨ho, hm, ht, hf⟩) |
      ⟨configured, markers, t, d, f, ⟨ho, hm, ht, hd⟩, hw, rfl⟩)
    · exact .inl (.inl ⟨_, hc, rfl⟩)
    · exact .inl (.inr ⟨_, ho, _, hc, rfl⟩)
    · exact .inr ⟨_, ⟨_, ho, _, hm, rfl⟩, .inl ⟨_, hf, rfl⟩⟩
    · exact .inr ⟨_, ⟨_, ho, _, hm, rfl⟩, .inr ⟨_, ht, .inl ⟨_, hf, rfl⟩⟩⟩
    · exact .inr ⟨_, ⟨_, ho, _, hm, rfl⟩, .inr ⟨_, ht, .inr ⟨_, hd, _, hw, rfl⟩⟩⟩

end Produce

section Work

variable {engine : PatternEngine} {template : String} {target : Target} {o : Outcome}
  {e : MergeError}

theorem merges_whole_iff {preference : Option Side} {add : Bool} :
    Merges engine configured markers t d (.merge template target preference add) o ↔
      Merger.merge ⟨Outline.format markers, override preference add configured⟩ t d = .ok o := by
  constructor
  · rintro ⟨ho, h⟩
    rwa [← ho.eq]
  · exact fun h => .whole (overrides_override ..) h

theorem unmerged_whole_iff {preference : Option Side} {add : Bool} :
    Unmerged engine configured markers t d (.merge template target preference add) e ↔
      Merger.merge ⟨Outline.format markers, override preference add configured⟩ t d = .error e := by
  rw [Merger.merge_eq_error_iff]
  constructor
  · rintro ⟨ho, h⟩
    rwa [← ho.eq]
  · exact fun h => .whole (overrides_override ..) h

variable {place : PlaceArguments} {request : Injection.Request Outline.Node}

theorem merges_part_iff (hrequest : place.request engine = .ok request) :
    Merges engine configured markers t d (.mergeAt template target place) o ↔
      Merger.mergePartial ⟨Outline.format markers, configured⟩ t d request = .ok o := by
  constructor
  · rintro ⟨⟩
    next hr h =>
      obtain rfl := Except.ok.inj (hrequest.symm.trans hr)
      exact h
  · exact fun h => .part hrequest h

theorem unmerged_part_iff (hrequest : place.request engine = .ok request) :
    Unmerged engine configured markers t d (.mergeAt template target place) e ↔
      Merger.mergePartial ⟨Outline.format markers, configured⟩ t d request = .error e := by
  rw [Merger.mergePartial_eq_error_iff]
  constructor
  · rintro ⟨⟩
    next hr h =>
      obtain rfl := Except.ok.inj (hrequest.symm.trans hr)
      exact h
  · exact fun h => .part hrequest h

end Work

/-- Under settings, a command on one destination works on the two texts, and shows and writes the
    outcome. -/
theorem runWith_eq_produce {u : Surroundings} {files : FileTree} {s : Settings} {command : Command}
    {template : String} {target : Target} (haim : command.aim? = some (template, target))
    (hplace : checkArguments u.engine command = .ok ()) :
    ∃ change work,
      runWith u files s command =
        .ofExcept files (fun (d, o) => emit u.stamp files target d o)
          (produce files s template target.destination change work) ∧
      (∀ configured markers t d o, work ⟨Outline.format markers, change configured⟩ t d = .ok o ↔
        Merges u.engine configured markers t d command o) ∧
      ∀ configured markers t d e, work ⟨Outline.format markers, change configured⟩ t d = .error e ↔
        Unmerged u.engine configured markers t d command e := by
  cases command with
  | merge template target preference add =>
    cases haim
    exact ⟨override preference add, Merger.merge, rfl, fun _ _ _ _ _ => merges_whole_iff.symm,
      fun _ _ _ _ _ => unmerged_whole_iff.symm⟩
  | mergeAt template target place =>
    cases haim
    obtain ⟨request, hrequest, -⟩ :=
      Except.map_eq_ok_iff.1 (Except.mapError_eq_ok_iff.1 hplace)
    refine ⟨id, fun m t d => m.mergePartial t d request, ?_,
      fun _ _ _ _ _ => (merges_part_iff hrequest).symm,
      fun _ _ _ _ _ => (unmerged_part_iff hrequest).symm⟩
    rw [runWith, hrequest]
    rfl
  | batch => cases haim

/-! ### Writing -/

section Write

variable {files : FileTree} {target : Target}

end Write

/-- How a command on one destination fails before anything is written: in the order of its stages,
    which all those before have gone through. -/
inductive Fails (engine : PatternEngine) (before : FileTree) (directory : String)
    (command : Command) (template destination : String) : CommandError → Prop
  /-- The place is not described well. -/
  | place {e : CommandError} (h : checkArguments engine command = .error e) :
    Fails engine before directory command template destination e
  /-- The settings cannot be loaded, or the log cannot be opened. -/
  | opening {e : CommandError} (hplace : checkArguments engine command = .ok ())
    (h : Unopened before directory e) :
    Fails engine before directory command template destination e
  /-- The settings cannot be used, or one of the texts cannot be read. -/
  | readying {s : Settings} {files : FileTree} {site : LogSite} {e : CommandError}
    (hplace : checkArguments engine command = .ok ())
    (hopened : Opened before directory s files site)
    (h : Unready files s template destination e) :
    Fails engine before directory command template destination e
  /-- The texts cannot be merged. -/
  | merging {s : Settings} {files : FileTree} {site : LogSite} {configured : MergeOptions}
    {markers : MarkerRegistry} {t d : Text} {e : MergeError}
    (hplace : checkArguments engine command = .ok ())
    (hopened : Opened before directory s files site)
    (hready : Ready files s template destination configured markers t d)
    (h : Unmerged engine configured markers t d command e) :
    Fails engine before directory command template destination (.merge e)

/-- What a command on one destination makes of the text of the destination, in a tree in which the
    log has been opened. -/
inductive Makes (engine : PatternEngine) (before : FileTree) (directory : String)
    (command : Command) (template destination : String) (files : FileTree) (site : LogSite)
    (d : Text) (o : Outcome) : Prop
  | mk {s : Settings} {configured : MergeOptions} {markers : MarkerRegistry} {t : Text}
    (hplace : checkArguments engine command = .ok ())
    (hopened : Opened before directory s files site)
    (hready : Ready files s template destination configured markers t d)
    (h : Merges engine configured markers t d command o)

/-- The files are as they were but for the log. -/
inductive SameButLog (before : FileTree) (directory : String) (lines : Text) : FileTree → Prop
  /-- Nothing has been done to open it. -/
  | same : SameButLog before directory lines before
  /-- It could not be opened, and some of the directories have been made that it takes. -/
  | unopened {s : Settings} {after : FileTree} (hs : loadSettings before directory = .ok s)
    (h : ∀ l, KeptOrMade (logWay before directory s) before after l) :
    SameButLog before directory lines after
  /-- It has been opened, and lines have been entered. -/
  | opened {s : Settings} {files after : FileTree} {site : LogSite}
    (ho : Opened before directory s files site) (h : Logged before site lines after) :
    SameButLog before directory lines after

section Run

variable {u : Surroundings} {before files : FileTree} {directory template : String}
  {command : Command} {target : Target} {s : Settings} {site : LogSite}
  {configured : MergeOptions} {markers : MarkerRegistry} {t d : Text} {o : Outcome}

theorem runWith_of_unready (haim : command.aim? = some (template, target))
    (hplace : checkArguments u.engine command = .ok ()) {e : CommandError}
    (h : Unready files s template target.destination e) :
    runWith u files s command = .failed files [] [] e := by
  obtain ⟨change, work, hrun, -⟩ := runWith_eq_produce haim hplace
  rw [hrun, produce_eq_error_iff.2 (.inl h)]
  rfl

theorem runWith_of_unmerged (haim : command.aim? = some (template, target))
    (hplace : checkArguments u.engine command = .ok ())
    (hready : Ready files s template target.destination configured markers t d) {e : MergeError}
    (h : Unmerged u.engine configured markers t d command e) :
    runWith u files s command = .failed files [] [] (.merge e) := by
  obtain ⟨change, work, hrun, -, hfails⟩ := runWith_eq_produce haim hplace
  rw [hrun, produce_eq_error_iff.2 (.inr ⟨_, _, _, _, _, hready, (hfails ..).2 h, rfl⟩)]
  rfl

/-- A command that fails with an open log leaves the files as they were, but for the log. -/
theorem Opened.run_eq_failed {e : CommandError} (ho : Opened before directory s files site)
    (hplace : checkArguments u.engine command = .ok ())
    (h : runWith u files s command = .failed files [] [] e) :
    ∃ after, Invocation.run u before ⟨directory, command⟩ = .failed after [] [] e ∧
      SameButLog before directory u.logged after := by
  refine ⟨_, ?_, .opened ho (ho.entering (.refl files) ho.logged u.logged)⟩
  rw [ho.run_eq hplace, h]
  rfl

/-- If a stage fails, the command fails and no file is changed. -/
theorem Fails.run {e : CommandError}
    (h : Fails u.engine before directory command template target.destination e)
    (haim : command.aim? = some (template, target)) :
    ∃ after, Invocation.run u before ⟨directory, command⟩ = .failed after [] [] e ∧
      SameButLog before directory u.logged after := by
  cases h with
  | place h =>
    refine ⟨before, ?_, .same⟩
    unfold Invocation.run
    rw [h]
    rfl
  | opening hplace h =>
    cases h with
    | settings h =>
      refine ⟨before, ?_, .same⟩
      unfold Invocation.run
      rw [hplace, h]
      rfl
    | log hs h =>
      refine ⟨_, ?_, .unopened hs (keptOrMade_of_openLog h)⟩
      unfold Invocation.run
      rw [hplace, hs]
      simp only [bind, Except.bind, Run.ofExcept, h]
  | readying hplace hopened h =>
    exact hopened.run_eq_failed hplace (runWith_of_unready haim hplace h)
  | merging hplace hopened hready h =>
    exact hopened.run_eq_failed hplace (runWith_of_unmerged haim hplace hready h)

end Run

end Command

end TemplateMerge
