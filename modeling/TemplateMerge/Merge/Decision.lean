import TemplateMerge.Side

/-! Decisions: the log of a merge.

    Every statement that a merge writes, and every range it replaces, leaves one decision. -/

namespace TemplateMerge

/-- What was decided. -/
inductive DecisionKind where
  /-- The two sides differ and the template was kept. -/
  | keptTemplate
  /-- The two sides differ and the destination was kept, or the statement was carried through. -/
  | keptDestination
  /-- A hook combined contents. -/
  | merged
  /-- A statement of the template alone was added. -/
  | added
  /-- A frozen statement was carried through. -/
  | freezeBlock
  /-- A range of the destination was replaced. -/
  | replaced
  /-- A statement of the destination alone was kept. -/
  | appended
  /-- The two sides agree. -/
  | identical
  deriving DecidableEq, Repr

namespace DecisionKind

/-- Every kind, in the order of summaries. -/
def all : List DecisionKind :=
  [keptTemplate, keptDestination, merged, added, freezeBlock, replaced, appended, identical]

/-- The name of a kind. -/
def name : DecisionKind → String
  | keptTemplate => "kept_template"
  | keptDestination => "kept_destination"
  | merged => "merged"
  | added => "added"
  | freezeBlock => "freeze_block"
  | replaced => "replaced"
  | appended => "appended"
  | identical => "identical"

/-- The kind of that name. -/
def named? (s : String) : Option DecisionKind := all.find? (·.name == s)

end DecisionKind

/-- Where the text that was written came from. -/
inductive DecisionSource where
  | template
  | destination
  | merged
  deriving DecidableEq, Repr

namespace DecisionSource

/-- The name of a source. -/
def name : DecisionSource → String
  | template => "template"
  | destination => "destination"
  | merged => "merged"

/-- The source of that name. -/
def named? (s : String) : Option DecisionSource :=
  [template, destination, merged].find? (·.name == s)

end DecisionSource

/-- One entry of the log.  Statements are named by their numbers. -/
structure Decision where
  /-- What was decided. -/
  kind : DecisionKind
  /-- Where the text came from. -/
  source : DecisionSource
  /-- The statement of the template. -/
  templateIndex : Option Nat
  /-- The statement of the destination. -/
  destinationIndex : Option Nat
  /-- The line of the statement. -/
  line : Option Nat
  /-- How alike the two sides are, when they were paired for being alike. -/
  score : Option Float
  deriving Repr

namespace Decision

/-- A decision that names no statement. -/
def make (kind : DecisionKind) (source : DecisionSource) : Decision :=
  ⟨kind, source, none, none, none, none⟩

/-- How many decisions of a log are of a kind. -/
def count (log : List Decision) (kind : DecisionKind) : Nat :=
  log.countP (·.kind = kind)

/-- The kinds that occur in a log, with the number of their decisions. -/
def summary (log : List Decision) : List (DecisionKind × Nat) :=
  (DecisionKind.all.map fun kind => (kind, count log kind)).filter (·.2 ≠ 0)

end Decision

end TemplateMerge
