import TemplateMerge.Preference.Lookup
import TemplateMerge.Error
import TemplateMerge.Json.Basic

/-! Preferences: which side wins where the two documents differ.

    A preference is one side for everything, or a side for each of some types and a side for all
    others.  In JSON the latter is an object whose key `default` holds the side for all others:

        "template"          { "default": "destination", "heading": "template" } -/

namespace TemplateMerge

/-- Which side wins. -/
inductive Preference where
  /-- The same side for every type. -/
  | everywhere (side : Side)
  /-- A side for some types, and one for all others. -/
  | perType (otherwise : Side) (overrides : Table Side)
  deriving DecidableEq, Repr

/-- The side of that name. -/
def Side.parse (s : String) : Except ConfigError Side :=
  match Side.named? s with
  | some side => .ok side
  | none => .error (.preferenceValue "default" (Text.quoteString s))

namespace Preference

instance : Inhabited Preference := ⟨everywhere .destination⟩

/-- The key of the side for all other types. -/
def defaultKey : String := "default"

/-- The first key that is no symbol. -/
def firstBadKey? (entries : List (String × Side)) : Option String :=
  (entries.find? fun e => !TypeName.isSymbol e.1).map Prod.fst

/-- A preference per type; of two sides for one type the later counts.  The side for all others is
    that under the default key, else the given one, else the destination. -/
def ofEntries (entries : List (String × Side)) (otherwise : Option Side) :
    Except ConfigError Preference :=
  match firstBadKey? entries with
  | some key => .error (.typeKey key)
  | none =>
    let sides := Table.ofList entries
    .ok (.perType (((sides.find? defaultKey) <|> otherwise).getD .destination)
      (sides.erase defaultKey))

/-- The side that a JSON value names. -/
def sideOfJson (key : String) (value : Json) : Except ConfigError Side :=
  let bad := ConfigError.preferenceValue key value.compact
  match value with
  | .string s =>
    match Side.named? s with
    | some side => .ok side
    | none => .error bad
  | _ => .error bad

/-- The sides of the fields of an object. -/
def sidesOfFields : List (String × Json) → Except ConfigError (List (String × Side))
  | [] => .ok []
  | (key, value) :: rest =>
    (sideOfJson key value).bind fun side =>
      (sidesOfFields rest).map ((key, side) :: ·)

/-- The preference that a JSON value denotes.  All values of an object are looked at before any of
    its keys. -/
def ofJson : Json → Except ConfigError Preference
  | .string s => (sideOfJson defaultKey (.string s)).map .everywhere
  | .object fields => (sidesOfFields fields).bind (ofEntries · none)
  | other => .error (.preferenceShape other.compact)

/-- The JSON value that denotes a preference. -/
def toJson : Preference → Json
  | .everywhere side => .string side.name
  | .perType otherwise overrides =>
    .object ((overrides.insert defaultKey otherwise).entries.map fun e => (e.1, .string e.2.name))

/-- The side that wins for a type. -/
def sideFor : Preference → String → Side
  | .everywhere side, _ => side
  | .perType otherwise overrides, type => (overrides.lookup? type).getD otherwise

end Preference

end TemplateMerge
