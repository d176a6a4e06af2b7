import TemplateMerge.Signature

/-! Nodes that are given outright, not found in a text.

    A given node says everything about itself, and names its parent by number.  Nothing is checked:
    parents may come after their children, or run in circles. -/

namespace TemplateMerge

namespace Given

/-- What is given of a node. -/
structure Entry where
  /-- Its type. -/
  nodeType : String
  /-- Its text. -/
  text : Text
  /-- Its lines. -/
  position : Position
  /-- The merge type it carries. -/
  mergeOverride : Option String
  /-- Whether it tells its parent and its children. -/
  navigable : Bool
  /-- Whether it tells its neighbours. -/
  hasSiblings : Bool
  /-- The number of its parent. -/
  parent : Option Nat
  /-- What makes it the same as another node. -/
  signature : Option Signature
  /-- What counts when it is compared, if not its text. -/
  normalized : Option Text
  /-- Whether it is carried through. -/
  carriesThrough : Bool
  deriving DecidableEq, Repr

/-- A node among others. -/
structure Node where
  /-- All nodes. -/
  entries : List Entry
  /-- The number of the node. -/
  index : Fin entries.length
  deriving DecidableEq, Repr

namespace Node

/-- What is given of the node. -/
def entry (n : Node) : Entry := n.entries[n.index]

/-- The node with another number, if there is one. -/
def at? (n : Node) (index : Nat) : Option Node :=
  if h : index < n.entries.length then some ⟨n.entries, ⟨index, h⟩⟩ else none

/-- All nodes. -/
def all (entries : List Entry) : List Node := (List.finRange entries.length).map (⟨entries, ·⟩)

/-- The nodes that name the given parent. -/
def under (n : Node) (parent : Option Nat) : List Node :=
  (all n.entries).filter (·.entry.parent = parent)

/-- An answer, unless the node does not offer the capability. -/
def offer {α : Type} (n : Node) (offered : Bool) (capability : Capability) (answer : α) :
    Except NodeError α :=
  if offered then .ok answer else .error (capability.unsupported n.entry.nodeType)

instance : NodeView Node where
  nodeType n := n.entry.nodeType
  text n := n.entry.text
  position n := n.entry.position
  mergeOverride n := n.entry.mergeOverride
  navigable n := n.entry.navigable
  parent n := n.offer n.entry.navigable .parent (n.entry.parent.bind n.at?)
  children n := n.offer n.entry.navigable .children (n.under (some n.index))
  nextSibling n := n.offer n.entry.hasSiblings .nextSibling
    ((n.under n.entry.parent).find? fun m => n.index.val < m.index.val)
  previousSibling n := n.offer n.entry.hasSiblings .previousSibling
    ((n.under n.entry.parent).filter fun m => m.index.val < n.index.val).getLast?

end Node

end Given

end TemplateMerge
