import TemplateMerge.Node.Capability

/-! Nodes: the parts a format divides a document into.

    Every node has a type, a text and a position.  A node of a tree also knows its parent, its
    children and its neighbours; a node of a flat document answers those questions with an error,
    never with an invented value.

    A node may carry a merge type, which stands for its own type when a preference is looked up.
    `Typed` puts such a merge type on any node, or leaves it as it is. -/

namespace TemplateMerge

/-- The error of a node of type `nodeType` that does not offer `capability`. -/
def Capability.unsupported (capability : Capability) (nodeType : String) : NodeError :=
  .unsupported capability.name nodeType

/-- What a merge asks of the nodes of a format. -/
class NodeView (N : Type) where
  /-- The type of the node, as its format names it. -/
  nodeType : N → String
  /-- The text of the node. -/
  text : N → Text
  /-- The lines of the node. -/
  position : N → Position
  /-- The merge type that the node itself carries. -/
  mergeOverride : N → Option String := fun _ => none
  /-- Whether the node is part of a tree. -/
  navigable : N → Bool := fun _ => false
  /-- The node above; a root has none. -/
  parent : N → Except NodeError (Option N) := fun n =>
    .error (Capability.parent.unsupported (nodeType n))
  /-- The nodes below, in order. -/
  children : N → Except NodeError (List N) := fun n =>
    .error (Capability.children.unsupported (nodeType n))
  /-- The next node under the same parent. -/
  nextSibling : N → Except NodeError (Option N) := fun n =>
    .error (Capability.nextSibling.unsupported (nodeType n))
  /-- The node before this one under the same parent. -/
  previousSibling : N → Except NodeError (Option N) := fun n =>
    .error (Capability.previousSibling.unsupported (nodeType n))

namespace NodeView

variable {N : Type} [NodeView N]

/-- The first of the children. -/
def firstChild (n : N) : Except NodeError (Option N) := (children n).map List.head?

/-- The last of the children. -/
def lastChild (n : N) : Except NodeError (Option N) := (children n).map List.getLast?

/-- The type a node is merged as: the one it carries, else its own. -/
def mergeType (n : N) : String := (mergeOverride n).getD (nodeType n)

/-- What a node answers to a question. -/
inductive Answer (N : Type) where
  | name (s : String)
  | text (t : Text)
  | position (p : Position)
  | node (n : Option N)
  | nodes (ns : List N)

/-- The answer of a node to a question. -/
def query (n : N) : Capability → Except NodeError (Answer N)
  | .nodeType => .ok (.name (nodeType n))
  | .text => .ok (.text (text n))
  | .position => .ok (.position (position n))
  | .parent => (parent n).map .node
  | .children => (children n).map .nodes
  | .firstChild => (firstChild n).map .node
  | .lastChild => (lastChild n).map .node
  | .nextSibling => (nextSibling n).map .node
  | .previousSibling => (previousSibling n).map .node

end NodeView

/-- A node that may carry a merge type of its own, on top of what it carries already. -/
structure Typed (N : Type) where
  /-- The node inside. -/
  inner : N
  /-- The merge type put on it. -/
  mergeOverride : Option String
  deriving Repr

namespace Typed

variable {N : Type}

/-- The node with a merge type. -/
def mark (inner : N) (mergeType : String) : Typed N := ⟨inner, some mergeType⟩

/-- The node as it is. -/
def plain (inner : N) : Typed N := ⟨inner, none⟩

/-- Whether a merge type was put on the node here. -/
def isTyped (n : Typed N) : Bool := n.mergeOverride.isSome

/-- The node with another merge type in place of the one put on it here. -/
def retype (n : Typed N) (mergeType : String) : Typed N := ⟨n.inner, some mergeType⟩

instance [NodeView N] : NodeView (Typed N) where
  nodeType n := NodeView.nodeType n.inner
  text n := NodeView.text n.inner
  position n := NodeView.position n.inner
  mergeOverride n := n.mergeOverride <|> NodeView.mergeOverride n.inner
  navigable n := NodeView.navigable n.inner
  parent n := (NodeView.parent n.inner).map (Option.map plain)
  children n := (NodeView.children n.inner).map (List.map plain)
  nextSibling n := (NodeView.nextSibling n.inner).map (Option.map plain)
  previousSibling n := (NodeView.previousSibling n.inner).map (Option.map plain)

end Typed

end TemplateMerge
