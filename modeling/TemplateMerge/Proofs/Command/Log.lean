import TemplateMerge.Command.Run
import TemplateMerge.Proofs.FileTree.Making
import TemplateMerge.Proofs.FileTree.Writing

/-! What a run does to its log.

    Before a command reads a file its log is opened: where there is no file for it, one is made, with
    the directories that it takes.  When the command has ended, the lines of the run are added.

        before   work                    after   work
                 ├── a.md                        ├── a.md
                 └── .structmerge                └── .structmerge
                                                     └── logs                     made
                                                         └── structmerge.log      the lines

    So whatever a command leaves behind, a run leaves the same, but for the file of the log and for
    directories on the way to it. -/

namespace TemplateMerge

open FileTree

namespace Command

/-- Where a log goes. -/
structure LogSite where
  /-- The location of its file. -/
  file : Location
  /-- The locations that lead to the directory of the file. -/
  way : List Location

/-- The locations that lead to the directory of the log. -/
def logWay (before : FileTree) (directory : String) (s : Settings) : List Location :=
  passed (before.origin (join directory s.logging.dir)) (names (join directory s.logging.dir))

/-- What stands in place of a log once lines have been entered.  Where nothing stood there is a file
    now, and what is no text stays so. -/
def entered (lines : Text) (e : Option Entry) : Entry := (e.getD (.text [])).continued lines

/-- At a location stands what stood there, or a directory on a way where nothing stood. -/
def KeptOrMade (way : List Location) (before after : FileTree) (l : Location) : Prop :=
  after.find? l = before.find? l ∨
    before.find? l = none ∧ after.find? l = some .directory ∧ l ∈ way

/-- A tree has become another by entering lines in a log. -/
structure Logged (before : FileTree) (site : LogSite) (lines : Text) (after : FileTree) : Prop where
  /-- The lines have been added to the log. -/
  file : after.find? site.file = some (entered lines (before.find? site.file))
  /-- Nothing else has changed, but for directories on the way to the log. -/
  rest : ∀ l, l ≠ site.file → KeptOrMade site.way before after l

/-- The settings have been loaded, and then the log has been opened. -/
structure Opened (before : FileTree) (directory : String) (s : Settings) (files : FileTree)
    (site : LogSite) : Prop where
  settings : loadSettings before directory = .ok s
  log : openLog before directory s = (files, none)
  file : files.resolve? (logPath directory s) = some site.file
  way : site.way = logWay before directory s

variable {u : Surroundings} {before files t ideal : FileTree} {directory : String} {s : Settings}
  {site : LogSite} {lines : Text}

theorem KeptOrMade.of_eq {way : List Location} {l : Location} (h : KeptOrMade way before files l)
    (ht : t.find? l = files.find? l) : KeptOrMade way before t l :=
  h.imp ht.trans fun ⟨hnone, hnew, hway⟩ => ⟨hnone, ht.trans hnew, hway⟩

/-! ### Opening -/

theorem openLog_eq_none_iff : openLog before directory s = (files, none) ↔
    ∃ made, before.makeDirectory (join directory s.logging.dir) = (made, none) ∧
      files = made.ensureFile (logPath directory s) ∧ files.isFile (logPath directory s) = true := by
  unfold openLog
  rcases before.makeDirectory (join directory s.logging.dir) with ⟨made, _ | fault⟩
  · dsimp only
    constructor
    · intro h
      obtain ⟨rfl, hnone⟩ := Prod.mk.inj h
      split at hnone
      next hfile => exact ⟨made, rfl, rfl, hfile⟩
      next => cases hnone
    · rintro ⟨_, ⟨rfl, -⟩, rfl, hfile⟩
      rw [if_pos hfile]
  · exact ⟨nofun, nofun⟩

/-- If the log cannot be opened, only directories on the way to it have been made. -/
theorem keptOrMade_of_openLog {e : CommandError} (h : openLog before directory s = (files, some e))
    (l : Location) : KeptOrMade (logWay before directory s) before files l := by
  have hmakes := makes_makeDirectory before (join directory s.logging.dir)
  unfold openLog at h
  rcases hmade : before.makeDirectory (join directory s.logging.dir) with ⟨made, _ | fault⟩ <;>
    rw [hmade] at h hmakes
  · obtain ⟨rfl, hfault⟩ := Prod.mk.inj h
    rcases made.ensureFile_cases (logPath directory s) with hsame | ⟨at', hne, hpath, hnone, hput⟩
    · rw [hsame]
      exact hmakes.kept_or_made l
    · -- a file that has been made can be opened
      have hfile : (made.ensureFile (logPath directory s)).isFile (logPath directory s) = true := by
        rw [FileTree.isFile, FileTree.at?, (extends_ensureFile ..).resolve? hpath, hput,
          Option.bind_some, find?_put_self _ _ hne]
        rfl
      rw [if_pos hfile] at hfault
      cases hfault
  · obtain ⟨rfl, -⟩ := Prod.mk.inj h
    exact hmakes.kept_or_made l

theorem exists_opened (hs : loadSettings before directory = .ok s)
    (hl : openLog before directory s = (files, none)) :
    ∃ site, Opened before directory s files site := by
  obtain ⟨-, -, -, hfile⟩ := openLog_eq_none_iff.1 hl
  obtain ⟨e, he, -⟩ := (Option.any_eq_true ..).1 hfile
  obtain ⟨l, hpath, -⟩ := Option.bind_eq_some_iff.1 he
  exact ⟨⟨l, _⟩, hs, hl, hpath, rfl⟩

namespace Opened

/-- The log has been opened in the tree with the directories that it takes. -/
theorem exists_made (h : Opened before directory s files site) : ∃ made,
    Makes (before.origin (join directory s.logging.dir)) (names (join directory s.logging.dir))
      before made ∧ (before.Proper → made.Proper) ∧
      files = made.ensureFile (logPath directory s) := by
  obtain ⟨made, hmade, hfiles, -⟩ := openLog_eq_none_iff.1 h.log
  have hmakes := makes_makeDirectory before (join directory s.logging.dir)
  have hproper := fun h : before.Proper => h.makeDirectory (join directory s.logging.dir)
  rw [hmade] at hmakes hproper
  exact ⟨made, hmakes, hproper, hfiles⟩

theorem extended (h : Opened before directory s files site) : Extends before files := by
  obtain ⟨made, hmakes, -, rfl⟩ := h.exists_made
  exact hmakes.extended.trans (extends_ensureFile ..)

theorem proper (h : Opened before directory s files site) (hproper : before.Proper) :
    files.Proper := by
  obtain ⟨made, -, hmade, rfl⟩ := h.exists_made
  exact (hmade hproper).ensureFile _

theorem isFile (h : Opened before directory s files site) :
    (files.find? site.file).any Entry.isFile = true := by
  obtain ⟨-, -, -, hfile⟩ := openLog_eq_none_iff.1 h.log
  rwa [FileTree.isFile, FileTree.at?, h.file] at hfile

theorem logged (h : Opened before directory s files site) : Logged before site [] files := by
  have hisFile := h.isFile
  have hfile := h.file
  obtain ⟨made, hmakes, -, rfl⟩ := h.exists_made
  refine ⟨?_, fun l hl => ?_⟩
  · obtain ⟨e, he, hentry⟩ := (Option.any_eq_true ..).1 hisFile
    -- the directories that were made leave the place of the file alone
    have hmade : made.find? site.file = before.find? site.file := by
      rcases hmakes.kept_or_made site.file with hkept | ⟨-, hdirectory, -⟩
      · exact hkept
      · rw [(extends_ensureFile ..).keeps _ _ hdirectory] at he
        obtain rfl := Option.some.inj he
        cases hentry
    have hempty : ∀ e : Entry, e.continued [] = e := by
      rintro (content | _ | _)
      · exact congrArg Entry.text (List.append_nil _)
      · rfl
      · rfl
    rw [he, entered, hempty, ← hmade]
    rcases find?_ensureFile_self hfile with hold | ⟨hnone, hnew⟩
    · rw [← hold, he]
      rfl
    · rw [hnone, ← he, hnew]
      rfl
  · rw [KeptOrMade, find?_ensureFile_of_ne hfile hl, h.way]
    exact hmakes.kept_or_made l

/-! ### Entering -/

/-- In a tree with an opened log, lines are entered at the end. -/
theorem entering (h : Opened before directory s files site) (hsame : SameDirectories files t)
    (hlogged : Logged ideal site [] t) (lines : Text) :
    Logged ideal site lines (t.appendText (logPath directory s) lines) := by
  have hpath : t.resolve? (logPath directory s) = some site.file := by rw [hsame.resolve?, h.file]
  refine ⟨?_, fun l hl => ?_⟩
  · rw [find?_appendText_self _ hpath, hlogged.file, Option.map_some, entered,
      Entry.continued_continued]
    rfl
  · exact (hlogged.rest l hl).of_eq (find?_appendText_of_ne _ hpath hl)

/-- When the log has been opened, the command is run in the tree with the log, and the lines are
    entered. -/
theorem run_eq {command : Command} (h : Opened before directory s files site)
    (hplace : checkArguments u.engine command = .ok ()) :
    Invocation.run u before ⟨directory, command⟩ =
      (runWith u files s command).entering (logPath directory s) u.logged := by
  unfold Invocation.run
  rw [hplace, h.settings]
  simp only [bind, Except.bind, Run.ofExcept, h.log]

end Opened

end Command

end TemplateMerge
