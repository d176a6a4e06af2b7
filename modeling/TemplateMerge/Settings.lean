import TemplateMerge.Json.Written
import TemplateMerge.Merge.Basic

/-! Settings: the configuration file.

    A settings file is a JSON document of four sections, all of whose fields may be missing:

        merge      preference, add_template_only_nodes, strategy, node_typing
        refiner    enabled, threshold, weights, node_types
        freeze     extra_markers
        logging    dir, filter

    A section may also be written as an array of its fields in this order.  Fields of other names do
    not count, but a field must not come twice.  The preference, the rules of node typing and the
    markers are only taken down when a file is read; they are checked when they are used. -/

namespace TemplateMerge

/-- A comment style as settings describe it. -/
structure MarkerSetting where
  /-- The name of the style. -/
  name : String
  /-- What comments begin with. -/
  opening : String
  /-- What comments end with. -/
  closing : Option String
  deriving DecidableEq, Repr

/-- The section on merging. -/
structure MergeSettings where
  /-- Which side wins, in JSON. -/
  preference : Json
  /-- Whether statements of the template alone are added. -/
  addTemplateOnly : Bool
  /-- Which hooks run. -/
  strategy : Strategy
  /-- Which types are merged as others. -/
  typing : Table String
  deriving Repr

/-- The section on statements that are alike. -/
structure RefinerSettings where
  /-- Whether they are paired. -/
  enabled : Bool
  /-- The least score of a pair. -/
  threshold : Float
  /-- How much each similarity counts. -/
  weights : Weights
  /-- The types to be paired. -/
  nodeTypes : List String
  deriving Repr

/-- The section on logging. -/
structure LoggingSettings where
  /-- The directory of the log. -/
  dir : String
  /-- What is logged. -/
  filter : String
  deriving DecidableEq, Repr

/-- The settings of a project. -/
structure Settings where
  /-- On merging. -/
  merge : MergeSettings
  /-- On statements that are alike. -/
  refiner : RefinerSettings
  /-- Comment styles besides those built in. -/
  extraMarkers : List MarkerSetting
  /-- On logging. -/
  logging : LoggingSettings
  deriving Repr

namespace Settings

/-- The section on merging of an empty file. -/
def standardMerge : MergeSettings := ⟨.string "destination", false, .nodePair, .empty⟩

/-- The section on statements that are alike of an empty file. -/
def standardRefiner : RefinerSettings := ⟨false, Refiner.standardThreshold, .standard, []⟩

/-- The section on logging of an empty file. -/
def standardLogging : LoggingSettings := ⟨"logs", "info"⟩

/-- The settings of an empty file. -/
def standard : Settings := ⟨standardMerge, standardRefiner, [], standardLogging⟩

instance : Inhabited Settings := ⟨standard⟩

/-! ### Reading -/

/-- Every field must have a name that is text, and the known ones must not come twice. -/
def namesAreGood (known : List String) : List (Option String × Written) → Bool
  | [] => true
  | (none, _) :: _ => false
  | (some name, _) :: rest =>
    !(known.contains name && rest.any (·.1 == some name)) && namesAreGood known rest

/-- The values of the known fields, in order, of a section that is nested in less than `room`. -/
def fieldsOf (known : List String) (room : Nat) (section_ : Written) :
    Option (List (Option Written)) :=
  if room ≤ 1 then none
  else
    match section_ with
    | .object fields =>
      if namesAreGood known fields then some (known.map fun name => fields.lookup (some name))
      else none
    | .array items =>
      if items.length ≤ known.length then
        some (items.map some ++ List.replicate (known.length - items.length) none)
      else none
    | _ => none

/-- The value of a field that may be missing. -/
def orElse {α : Type} (fallback : α) (read : Written → Option α) : Option Written → Option α
  | none => some fallback
  | some value => read value

/-- Reads a truth value. -/
def readBool : Written → Option Bool
  | .bool b => some b
  | _ => none

/-- Reads a string. -/
def readString : Written → Option String
  | .string s => s
  | _ => none

/-- Reads a string or nothing. -/
def readOptionalString : Written → Option (Option String)
  | .null => some none
  | .string s => s.map some
  | _ => none

/-- Reads a number as a double. -/
def readFloat : Written → Option Float
  | .number literal =>
    literal.toNumber?.map fun
      | .natural n => Float.ofNat n
      | .negative n => -Float.ofNat n
      | .real x => x
  | _ => none

/-- Reads an array. -/
def readArray {α : Type} (room : Nat) (read : Written → Option α) : Written → Option (List α)
  | .array items => if room ≤ 1 then none else items.mapM read
  | _ => none

/-- Reads an object whose values are strings; of two values under one name the later counts. -/
def readStringTable (room : Nat) : Written → Option (Table String)
  | .object fields =>
    if room ≤ 1 then none
    else
      let read (field : Option String × Written) : Option (String × String) :=
        field.1.bind fun name => (readString field.2).map (name, ·)
      (fields.mapM read).map Table.ofList
  | _ => none

/-- Reads the name of a strategy, or an object whose only field has that name and holds nothing. -/
def readStrategy (room : Nat) (value : Written) : Option Strategy :=
  let named (s : String) : Option Strategy := if s = "node-pair" then none else Strategy.named? s
  match value with
  | .string s => s.bind named
  | .object [(name, .null)] => if room ≤ 1 then none else name.bind named
  | _ => none

/-- Reads weights, none of which may be missing. -/
def readWeights (room : Nat) (value : Written) : Option Weights :=
  match fieldsOf ["content", "length", "position"] room value with
  | some [some content, some length, some position] => do
    return ⟨← readFloat content, ← readFloat length, ← readFloat position⟩
  | _ => none

/-- Reads a comment style, whose name and opening may not be missing. -/
def readMarker (room : Nat) (value : Written) : Option MarkerSetting :=
  match fieldsOf ["name", "open", "close"] room value with
  | some [some name, some opening, closing] => do
    return ⟨← readString name, ← readString opening, ← orElse none readOptionalString closing⟩
  | _ => none

/-- Reads the section on merging. -/
def readMerge (room : Nat) (value : Written) : Option MergeSettings :=
  match fieldsOf ["preference", "add_template_only_nodes", "strategy", "node_typing"] room value with
  | some [preference, add, strategy, typing] => do
    return ⟨
      ← orElse standardMerge.preference (Written.toJson? (room - 1)) preference,
      ← orElse standardMerge.addTemplateOnly readBool add,
      ← orElse standardMerge.strategy (readStrategy (room - 1)) strategy,
      ← orElse standardMerge.typing (readStringTable (room - 1)) typing⟩
  | _ => none

/-- Reads the section on statements that are alike. -/
def readRefiner (room : Nat) (value : Written) : Option RefinerSettings :=
  match fieldsOf ["enabled", "threshold", "weights", "node_types"] room value with
  | some [enabled, threshold, weights, nodeTypes] => do
    return ⟨
      ← orElse standardRefiner.enabled readBool enabled,
      ← orElse standardRefiner.threshold readFloat threshold,
      ← orElse standardRefiner.weights (readWeights (room - 1)) weights,
      ← orElse standardRefiner.nodeTypes (readArray (room - 1) readString) nodeTypes⟩
  | _ => none

/-- Reads the section on frozen regions. -/
def readFreeze (room : Nat) (value : Written) : Option (List MarkerSetting) :=
  match fieldsOf ["extra_markers"] room value with
  | some [markers] => orElse [] (readArray (room - 1) (readMarker (room - 2))) markers
  | _ => none

/-- Reads the section on logging. -/
def readLogging (room : Nat) (value : Written) : Option LoggingSettings :=
  match fieldsOf ["dir", "filter"] room value with
  | some [dir, filter] => do
    return ⟨← orElse standardLogging.dir readString dir,
      ← orElse standardLogging.filter readString filter⟩
  | _ => none

/-- The depth to which brackets may be nested. -/
def nestingLimit : Nat := 128

/-- The settings that a JSON document holds. -/
def ofWritten? (document : Written) : Option Settings :=
  let room := nestingLimit - 1
  match fieldsOf ["merge", "refiner", "freeze", "logging"] nestingLimit document with
  | some [merge, refiner, freeze, logging] => do
    return ⟨
      ← orElse standardMerge (readMerge room) merge,
      ← orElse standardRefiner (readRefiner room) refiner,
      ← orElse [] (readFreeze room) freeze,
      ← orElse standardLogging (readLogging room) logging⟩
  | _ => none

/-- The settings that a file holds. -/
def ofText? (content : Text) : Option Settings := (Written.ofText? content).bind ofWritten?

/-! ### Writing -/

/-- A comment style in JSON. -/
def markerJson (m : MarkerSetting) : Json :=
  .object [("name", .string m.name), ("open", .string m.opening),
    ("close", (m.closing.map Json.string).getD .null)]

/-- Settings in JSON, every field with its value. -/
def toJson (s : Settings) : Json :=
  let real (x : Float) : Json := .number (.real x)
  .object [
    ("merge", .object [
      ("preference", s.merge.preference),
      ("add_template_only_nodes", .bool s.merge.addTemplateOnly),
      ("strategy", .string s.merge.strategy.name),
      ("node_typing", .object (s.merge.typing.entries.map fun e => (e.1, .string e.2)))]),
    ("refiner", .object [
      ("enabled", .bool s.refiner.enabled),
      ("threshold", real s.refiner.threshold),
      ("weights", .object [
        ("content", real s.refiner.weights.content),
        ("length", real s.refiner.weights.length),
        ("position", real s.refiner.weights.position)]),
      ("node_types", .array (s.refiner.nodeTypes.map .string))]),
    ("freeze", .object [("extra_markers", .array (s.extraMarkers.map markerJson))]),
    ("logging", .object [
      ("dir", .string s.logging.dir),
      ("filter", .string s.logging.filter)])]

/-- The text of a settings file. -/
def toText (s : Settings) : String := s.toJson.pretty

/-! ### Use -/

/-- What merges are told.  The refiner is checked first, then the preference, then the typing. -/
def mergeOptions (s : Settings) : Except ConfigError MergeOptions := do
  let refiner ← if s.refiner.enabled then
      (Refiner.make s.refiner.threshold s.refiner.weights s.refiner.nodeTypes).map some
    else .ok none
  let preference ← Preference.ofJson s.merge.preference
  let typing ← NodeTyping.ofEntries s.merge.typing.entries
  return ⟨preference, s.merge.addTemplateOnly, typing, refiner, s.merge.strategy⟩

/-- The registry with more comment styles. -/
def registerAll : MarkerRegistry → List MarkerSetting → Except ConfigError MarkerRegistry
  | registry, [] => .ok registry
  | registry, m :: rest => do
    let style ← CommentStyle.make m.name m.opening.toList (m.closing.map String.toList)
    registerAll (← registry.register style) rest

/-- The comment styles that count: those built in and those of the settings. -/
def markerRegistry (s : Settings) : Except ConfigError MarkerRegistry :=
  registerAll .builtin s.extraMarkers

end Settings

end TemplateMerge
