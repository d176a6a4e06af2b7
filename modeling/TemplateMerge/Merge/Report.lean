import TemplateMerge.Json.Basic
import TemplateMerge.Merge.Outcome

/-! Reports: what a merge has decided, as a JSON document.

    A report names the run, says whether anything has changed, counts the decisions by kind, lists
    them in order, and ends with the merged text.  What a decision does not name is left out. -/

namespace TemplateMerge

/-- What tells one run from another. -/
structure Stamp where
  /-- The name of the run. -/
  run : String
  /-- The time of the run. -/
  time : String
  deriving DecidableEq, Repr

namespace Stamp

/-- A decision in a report. -/
def decisionJson (s : Stamp) (d : Decision) : Json :=
  let whole (name : String) (n : Option Nat) : List (String × Json) :=
    (n.map fun n => (name, Json.number (.natural n))).toList
  .object ([("kind", .string d.kind.name), ("source", .string d.source.name)] ++
    whole "template_index" d.templateIndex ++ whole "destination_index" d.destinationIndex ++
    whole "line" d.line ++ (d.score.map fun x => ("score", Json.number (.real x))).toList ++
    [("timestamp", .string s.time)])

/-- The report on an outcome. -/
def reportJson (s : Stamp) (o : Outcome) : Json :=
  .object [
    ("run_id", .string s.run),
    ("changed", .bool o.changed),
    ("summary", .object ((Decision.summary o.decisions).map fun (kind, n) =>
      (kind.name, .number (.natural n)))),
    ("decisions", .array (o.decisions.map s.decisionJson)),
    ("content", .string (String.ofList o.content))]

/-- The text of a report. -/
def reportText (s : Stamp) (o : Outcome) : Text := (s.reportJson o).pretty.toList

end Stamp

namespace Outcome

/-- The decisions of an outcome in one line: their number, and the number of each kind. -/
def summaryLine (o : Outcome) : String :=
  let counts := (Decision.summary o.decisions).map fun (kind, n) => kind.name ++ "=" ++ toString n
  toString o.decisions.length ++ " decisions: " ++ ", ".intercalate counts ++ "\n"

end Outcome

end TemplateMerge
