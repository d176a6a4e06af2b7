import TemplateMerge.Preference.Basic
import TemplateMerge.Preference.Typing
import TemplateMerge.Merge.Decision
import TemplateMerge.Node.Basic

/-! Resolution: which of two corresponding nodes is written.

    Nodes with equal contents are no conflict and the destination stays as it is.  Otherwise the
    preference decides, by the merge type of the pair: that which the template's node carries, else
    that which the destination's node carries, else that which a typing rule gives to the type of
    the template's node, else that type itself. -/

namespace TemplateMerge

/-- The strategy of that name. -/
def Strategy.parse (s : String) : Except ConfigError Strategy :=
  match Strategy.named? s with
  | some strategy => .ok strategy
  | none => .error (.strategy s)

/-- What is decided about a pair of nodes. -/
structure Resolution where
  /-- What was decided. -/
  kind : DecisionKind
  /-- Whose text is written. -/
  source : DecisionSource
  deriving DecidableEq, Repr

namespace Resolution

/-- Whether the template's text is written. -/
def takesTemplate (r : Resolution) : Bool := r.source = .template

/-- The two nodes agree. -/
def agreement : Resolution := ⟨.identical, .destination⟩

/-- The given side wins. -/
def ofSide : Side → Resolution
  | .template => ⟨.keptTemplate, .template⟩
  | .destination => ⟨.keptDestination, .destination⟩

end Resolution

/-- What conflicts are resolved by. -/
structure Resolver where
  /-- Which side wins. -/
  preference : Preference
  /-- Which types are merged as others. -/
  typing : NodeTyping
  deriving DecidableEq, Repr

namespace Resolver

variable {N : Type} [NodeView N]

/-- The merge type of a pair of nodes. -/
def mergeType (r : Resolver) (template destination : N) : String :=
  match NodeView.mergeOverride template with
  | some type => type
  | none =>
    match NodeView.mergeOverride destination with
    | some type => type
    | none =>
      (r.typing.mergeTypeFor (NodeView.nodeType template)).getD (NodeView.nodeType template)

/-- The side that wins for a pair of nodes. -/
def preferredSide (r : Resolver) (template destination : N) : Side :=
  r.preference.sideFor (r.mergeType template destination)

/-- What is decided about a pair of nodes with the given contents. -/
def resolve (r : Resolver) (template : N) (templateContent : Text) (destination : N)
    (destinationContent : Text) : Resolution :=
  if templateContent = destinationContent then .agreement
  else .ofSide (r.preferredSide template destination)

end Resolver

end TemplateMerge
