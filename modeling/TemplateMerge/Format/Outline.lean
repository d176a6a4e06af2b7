import TemplateMerge.Format.Basic

/-! Outlines: documents that are divided by headings.

    Every line is a node, a heading, a blank or a plain line, but for frozen regions, each of which
    is one node.  A heading begins with one to six number signs and a white space.

    Nodes form a tree.  A heading hangs under the nearest heading before it that has fewer signs;
    everything else hangs under the nearest heading before it.

        # A            A
        text           ├── text
        ## B           ├── B
        more           │   └── more
        ## C           └── C -/

namespace TemplateMerge

namespace Outline

/-- What a node of an outline is. -/
inductive Kind where
  | heading (level : Nat)
  | blank
  | line
  | freezeBlock
  deriving DecidableEq, Repr

/-- The name of frozen regions. -/
def freezeBlockName : String := "freeze_block"

/-- The name of a kind. -/
def Kind.name : Kind → String
  | .heading _ => "heading"
  | .blank => "blank"
  | .line => "line"
  | .freezeBlock => freezeBlockName

/-- The level of a heading. -/
def Kind.level? : Kind → Option Nat
  | .heading level => some level
  | _ => none

/-- The level of the heading that a line is. -/
def headingLevel? (line : Text) : Option Nat :=
  let level := (line.takeWhile (· == '#')).length
  match line.dropWhile (· == '#') with
  | [] => none
  | c :: _ => if 1 ≤ level ∧ level ≤ 6 ∧ Text.isBlankChar c = true then some level else none

/-- What a line outside frozen regions is. -/
def classify (line : Text) : Kind :=
  if Text.isBlank line then .blank
  else
    match headingLevel? line with
    | some level => .heading level
    | none => .line

/-- A node before it has a place in the tree. -/
structure Block where
  /-- What it is. -/
  kind : Kind
  /-- Its text, without line endings at its end. -/
  text : Text
  /-- Its lines. -/
  position : Position
  deriving DecidableEq, Repr

/-- The blocks of the lines from line `number` on, of which the regions are frozen. -/
def blocks (number : Nat) (lines : List Text) (spans : List FreezeSpan) : List Block :=
  match lines with
  | [] => []
  | line :: rest =>
    match spans with
    | [] => ⟨classify line, line, Position.single number⟩ :: blocks (number + 1) rest []
    | span :: later =>
      if span.startLine = number then
        let position := span.position
        let inner := position.endLine - number
        ⟨.freezeBlock, Text.joinWith ['\n'] (line :: rest.take inner), position⟩ ::
          blocks (position.endLine + 1) (rest.drop inner) later
      else
        ⟨classify line, line, Position.single number⟩ :: blocks (number + 1) rest (span :: later)
termination_by lines.length
decreasing_by all_goals simp only [List.length_cons, List.length_drop]; omega

/-- A heading that nodes may still hang under. -/
structure OpenHeading where
  /-- Its level. -/
  level : Nat
  /-- Its number. -/
  index : Nat
  deriving DecidableEq, Repr

/-- The numbers of the parents of nodes that follow open headings, the innermost of which comes
    first; the first node has the number `index`. -/
def parents : (opened : List OpenHeading) → (index : Nat) → List Kind → List (Option Nat)
  | _, _, [] => []
  | opened, index, .heading level :: rest =>
    let above := opened.dropWhile (level ≤ ·.level)
    (above.head?.map (·.index)) :: parents (⟨level, index⟩ :: above) (index + 1) rest
  | opened, index, _ :: rest => (opened.head?.map (·.index)) :: parents opened (index + 1) rest

/-- A node with its place in the tree. -/
structure Entry extends Block where
  /-- The number of its parent. -/
  parent : Option Nat
  deriving DecidableEq, Repr

/-- The nodes of a document in document order. -/
abbrev Tree := List Entry

/-- The tree of blocks. -/
def tree (blocks : List Block) : Tree :=
  (blocks.zip (parents [] 0 (blocks.map (·.kind)))).map fun (block, parent) => ⟨block, parent⟩

/-- The numbers of nodes by what they hang under. -/
structure Branches where
  /-- Those that hang under no other. -/
  roots : Array Nat
  /-- Those that hang under each node. -/
  children : Array (Array Nat)
  deriving DecidableEq, Repr

namespace Branches

/-- The branches of no nodes. -/
def empty : Branches := ⟨#[], #[]⟩

/-- The nodes under a parent, or the roots. -/
def under (b : Branches) : Option Nat → Array Nat
  | some parent => b.children.getD parent #[]
  | none => b.roots

/-- The branches with one node more, under a parent or as a root. -/
def hang (b : Branches) (parent : Option Nat) : Branches :=
  let index := b.children.size
  match parent with
  | some parent => ⟨b.roots, (b.children.modify parent (·.push index)).push #[]⟩
  | none => ⟨b.roots.push index, b.children.push #[]⟩

end Branches

/-- The branches of a tree. -/
def branches (tree : Tree) : Branches := tree.foldl (fun b e => b.hang e.parent) .empty

/-- A node of a tree. -/
structure Node where
  /-- The tree. -/
  tree : Tree
  /-- The number of the node. -/
  index : Fin tree.length
  deriving DecidableEq, Repr

namespace Node

/-- What the tree holds of the node. -/
def entry (n : Node) : Entry := n.tree[n.index]

/-- The node of the same tree with another number, if there is one. -/
def at? (n : Node) (index : Nat) : Option Node :=
  if h : index < n.tree.length then some ⟨n.tree, ⟨index, h⟩⟩ else none

/-- All nodes of a tree. -/
def all (tree : Tree) : List Node := (List.finRange tree.length).map (⟨tree, ·⟩)

/-- The level of a heading. -/
def level? (n : Node) : Option Nat := n.entry.kind.level?

/-- The nodes of the same tree under a parent, or its roots. -/
def under (n : Node) (parent : Option Nat) : List Node :=
  ((branches n.tree).under parent).toList.filterMap n.at?

/-- The nodes that hang under this one. -/
def children (n : Node) : List Node := n.under (some n.index)

/-- The numbers of the nodes that hang under the same parent as this one, which is one of them. -/
def siblings (n : Node) : Array Nat := (branches n.tree).under n.entry.parent

/-- The node so many places after this one among the siblings, or before it. -/
def siblingAt? (n : Node) (offset : Int) : Option Node :=
  (n.siblings.idxOf? n.index.val).bind fun here =>
    ((here + offset : Int).toNat?.bind (n.siblings[·]?)).bind n.at?

instance : NodeView Node where
  nodeType n := n.entry.kind.name
  text n := n.entry.text
  position n := n.entry.position
  navigable _ := true
  parent n := .ok (n.entry.parent.bind n.at?)
  children n := .ok n.children
  nextSibling n := .ok (n.siblingAt? 1)
  previousSibling n := .ok (n.siblingAt? (-1))

end Node

/-- The lines of a text without their endings. -/
def linesOf (source : Text) : List Text := (Text.splitLines source).map Text.chomp

/-- Reads an outline. -/
def parse (markers : MarkerRegistry) (source : Text) : Except ParseError (Document Node) :=
  match markers.scan (linesOf source) with
  | .error error => .error (.unbalanced error)
  | .ok spans => .ok (.make source (Node.all (tree (blocks 1 (linesOf source) spans))) spans)

/-- Headings and lines are the same when their texts are, white space at the end aside; all blanks
    are the same, and frozen regions are the same when their lines are. -/
def signature (n : Node) : Option Signature :=
  let e := n.entry
  match e.kind with
  | .freezeBlock => some (.span freezeBlockName e.position.startLine e.position.endLine)
  | .blank => some (.content "blank" [])
  | kind => some (.content kind.name (Text.trimEnd e.text))

/-- The outline format; markers are those of the registry. -/
def format (markers : MarkerRegistry) : Format Node where
  parse := parse markers
  signature := signature
  carriesThrough n := n.entry.kind = .freezeBlock

end Outline

end TemplateMerge
