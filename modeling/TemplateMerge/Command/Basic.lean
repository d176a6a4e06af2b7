import TemplateMerge.Command.Arguments
import TemplateMerge.Injection.Basic
import TemplateMerge.Preference.Basic

/-! Commands: what a command line asks for.

        merge T D      merges the template T into the destination D
        partial T D    merges T at one place of D
        batch T D      merges every file of the directory T into the file of its name in D

    The option `--config-dir` may stand before or after the name of the command; the one after it
    counts.  The command `setup`, a dialogue that writes a settings file, is left out. -/

namespace TemplateMerge

/-- What is done with an outcome. -/
structure Target where
  /-- The file of the destination. -/
  destination : String
  /-- Where the merged text is written, if not to the standard output. -/
  output : Option String
  /-- Where a report is written. -/
  report : Option String
  /-- Whether the difference to the destination is shown. -/
  diff : Bool
  deriving DecidableEq, Repr

/-- How a place in the destination is named. -/
structure PlaceArguments where
  /-- The type of the anchor. -/
  anchorType : String
  /-- What is found in the text of the anchor. -/
  anchorText : Option String
  /-- The place relative to the anchor. -/
  placement : Placement
  /-- The type of the boundary. -/
  boundaryType : Option String
  /-- What is found in the text of the boundary. -/
  boundaryText : Option String
  /-- Whether statements deeper than the anchor are no boundary. -/
  sameOrShallower : Bool
  deriving DecidableEq, Repr

/-- What is to be done. -/
inductive Command where
  /-- A whole merge; a preference replaces that of the settings. -/
  | merge (template : String) (target : Target) (preference : Option Side) (addTemplateOnly : Bool)
  /-- A merge at one place. -/
  | mergeAt (template : String) (target : Target) (place : PlaceArguments)
  /-- Merges of all files of a directory; a dry run writes nothing. -/
  | batch (templates destinations : String) (dryRun : Bool)
  deriving DecidableEq, Repr

/-- A command and the directory of its settings. -/
structure Invocation where
  /-- The directory of the settings. -/
  configDirectory : String
  /-- The command. -/
  command : Command
  deriving DecidableEq, Repr

/-- The paths that a command names. -/
def Command.paths : Command → List String
  | merge template target _ _ | mergeAt template target _ =>
    [template, target.destination] ++ target.output.toList ++ target.report.toList
  | batch templates destinations _ => [templates, destinations]

namespace PlaceArguments

variable {N : Type}

/-- A matcher with a pattern, if one is given. -/
def withText (engine : PatternEngine) (m : Matcher N) :
    Option String → Except ConfigError (Matcher N)
  | none => .ok m
  | some source =>
    (engine.parse source.toList).map fun pattern => { m with text := some pattern }

/-- The request for a place: the anchor is checked first, then the boundary. -/
def request (engine : PatternEngine) (p : PlaceArguments) :
    Except ConfigError (Injection.Request N) := do
  let anchor ← withText engine (Matcher.ofType p.anchorType) p.anchorText
  let request := Injection.Request.make anchor p.placement
  if p.boundaryType.isNone ∧ p.boundaryText.isNone then return request
  let boundary ← withText engine { Matcher.any with nodeType := p.boundaryType } p.boundaryText
  request.withBoundary ⟨boundary, p.sameOrShallower⟩

end PlaceArguments

namespace Command

open Arguments

/-- The option for the directory of the settings, which every command has. -/
def configOption : String := "config-dir"

/-- The directory of the settings where none is named. -/
def standardConfigDirectory : String := ".structmerge"

/-- The grammar of what stands before the name of a command. -/
def outerGrammar : Grammar := ⟨[], [configOption], []⟩

/-- The grammar of whole merges. -/
def mergeGrammar : Grammar :=
  ⟨["diff", "add-template-only"], [configOption, "output", "report", "preference"],
    [('o', "output")]⟩

/-- The grammar of merges at one place. -/
def mergeAtGrammar : Grammar :=
  ⟨["diff", "same-or-shallower"],
    [configOption, "output", "anchor-type", "anchor-text", "position", "boundary-type",
      "boundary-text"],
    [('o', "output")]⟩

/-- The grammar of merges of directories. -/
def batchGrammar : Grammar := ⟨["dry-run"], [configOption], []⟩

/-- A path, which must not be empty. -/
def path? (s : String) : Option String := if s.isEmpty then none else some s

/-- The value of an option that may be missing and has to be read. -/
def optional? {α : Type} (items : List Item) (name : String) (read : String → Option α) :
    Option (Option α) :=
  match value? items name with
  | none => some none
  | some value => (read value).map some

/-- The two positional arguments, which are paths. -/
def twoPaths? (items : List Item) : Option (String × String) :=
  match positionals items with
  | [a, b] => (path? a).bind fun a => (path? b).map (a, ·)
  | _ => none

/-- What is done with an outcome. -/
def target? (items : List Item) (destination : String) : Option Target := do
  let output ← optional? items "output" path?
  let report ← optional? items "report" path?
  return ⟨destination, output, report, hasFlag items "diff"⟩

/-- The whole merge that arguments ask for. -/
def merge? (items : List Item) : Option Command := do
  let (template, destination) ← twoPaths? items
  let target ← target? items destination
  let preference ← optional? items "preference" Side.named?
  return .merge template target preference (hasFlag items "add-template-only")

/-- The merge at one place that arguments ask for. -/
def mergeAt? (items : List Item) : Option Command := do
  let (template, destination) ← twoPaths? items
  let target ← target? items destination
  let anchorType ← value? items "anchor-type"
  let placement ← (value? items "position").bind Placement.named?
  return .mergeAt template target
    ⟨anchorType, value? items "anchor-text", placement, value? items "boundary-type",
      value? items "boundary-text", hasFlag items "same-or-shallower"⟩

/-- The merges of a directory that arguments ask for. -/
def batch? (items : List Item) : Option Command := do
  let (templates, destinations) ← twoPaths? items
  return .batch templates destinations (hasFlag items "dry-run")

/-- The grammar of a command, and how its arguments are understood. -/
def named? : String → Option (Grammar × (List Item → Option Command))
  | "merge" => some (mergeGrammar, merge?)
  | "partial" => some (mergeAtGrammar, mergeAt?)
  | "batch" => some (batchGrammar, batch?)
  | _ => none

end Command

open Arguments Command in
/-- What a command line asks for; nothing if it is not well formed. -/
def Invocation.parse? (arguments : List String) : Option Invocation := do
  let (outer, name, rest) ← outerGrammar.readToCommand arguments
  let (grammar, command?) ← named? name
  let items ← grammar.read rest
  guard (areDistinct outer && areDistinct items)
  let command ← command? items
  let outerDirectory ← optional? outer configOption path?
  let directory ← optional? items configOption path?
  return ⟨(directory.or outerDirectory).getD standardConfigDirectory, command⟩

end TemplateMerge
