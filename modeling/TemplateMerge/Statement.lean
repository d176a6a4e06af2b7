import TemplateMerge.Node.Basic

/-! Statements: the nodes of a document with their numbers.

    The statements of a document are numbered from zero in document order, so a statement's
    neighbours are found by its number alone.

    The depth of a statement is the number of steps from its node up to a root.  A format may hand
    out a parent relation that never ends, so the walk stops after `depthLimit` steps. -/

namespace TemplateMerge

/-- A node with its number in its document. -/
structure Statement (N : Type) where
  /-- The number, from zero on. -/
  index : Nat
  /-- The node. -/
  node : N
  deriving Repr

/-- The statements of the nodes of a document. -/
def statements {N : Type} (nodes : List N) : List (Statement N) :=
  nodes.zipIdx.map fun (node, index) => ⟨index, node⟩

namespace Statement

variable {N : Type}

/-- The number of the statement before. -/
def prevIndex (s : Statement N) : Option Nat := if s.index = 0 then none else some (s.index - 1)

/-- The number of the statement after, among `count`. -/
def nextIndex (s : Statement N) (count : Nat) : Option Nat :=
  if s.index + 1 < count then some (s.index + 1) else none

/-- The statement before. -/
def prev? (s : Statement N) (list : List (Statement N)) : Option (Statement N) :=
  s.prevIndex.bind (list[·]?)

/-- The statement after. -/
def next? (s : Statement N) (list : List (Statement N)) : Option (Statement N) :=
  (s.nextIndex list.length).bind (list[·]?)

/-- The statements numbered from `first` to `last`, as far as there are any. -/
def range (list : List (Statement N)) (first last : Nat) : List (Statement N) :=
  (list.take (last + 1)).drop first

variable [NodeView N]

/-- The type of the statement's node. -/
def nodeType (s : Statement N) : String := NodeView.nodeType s.node

/-- The text of the statement's node. -/
def text (s : Statement N) : Text := NodeView.text s.node

/-- The lines of the statement's node. -/
def position (s : Statement N) : Position := NodeView.position s.node

/-- Whether the statement's node is part of a tree. -/
def navigable (s : Statement N) : Bool := NodeView.navigable s.node

/-- The number of steps after which a walk to the root gives up. -/
def depthLimit : Nat := 4096

/-- The number of steps from a node to a root, or to a node that does not tell its parent; at most
    `limit`. -/
def stepsUp : (limit : Nat) → N → Nat
  | 0, _ => 0
  | limit + 1, n =>
    match NodeView.parent n with
    | .ok (some above) => stepsUp limit above + 1
    | _ => 0

/-- The depth of the statement in its tree; zero outside trees. -/
def depth (s : Statement N) : Nat := if s.navigable then stepsUp depthLimit s.node else 0

/-- Whether the statement is no deeper than `depth`. -/
def noDeeperThan (s : Statement N) (depth : Nat) : Bool := s.depth ≤ depth

/-- The answer of the statement's node to a question put by name. -/
def queryNamed (s : Statement N) (name : String) : Except NodeError (NodeView.Answer N) :=
  (Capability.parse name).bind (NodeView.query s.node)

end Statement

end TemplateMerge
