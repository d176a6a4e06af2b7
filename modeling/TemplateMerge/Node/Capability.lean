import TemplateMerge.Error

/-! What can be asked of a node by name. -/

namespace TemplateMerge

/-- A question that every node understands, though not every node answers it. -/
inductive Capability where
  | nodeType
  | text
  | position
  | parent
  | children
  | firstChild
  | lastChild
  | nextSibling
  | previousSibling
  deriving DecidableEq, Repr

namespace Capability

/-- Every capability. -/
def all : List Capability :=
  [nodeType, text, position, parent, children, firstChild, lastChild, nextSibling, previousSibling]

/-- The name of a capability. -/
def name : Capability → String
  | nodeType => "type"
  | text => "text"
  | position => "position"
  | parent => "parent"
  | children => "children"
  | firstChild => "first_child"
  | lastChild => "last_child"
  | nextSibling => "next_sibling"
  | previousSibling => "previous_sibling"

/-- The capability of that name; the type may also be asked for as the node type. -/
def parse (s : String) : Except NodeError Capability :=
  if s = "node_type" then .ok nodeType
  else
    match all.find? (·.name == s) with
    | some capability => .ok capability
    | none => .error (.unknownCapability s)

end Capability

end TemplateMerge
