import TemplateMerge.Injection.Matcher
import TemplateMerge.Injection.Placement
import TemplateMerge.Table

/-! Injection: finding the place in a document where a partial template goes.

    The anchor is the first statement that the request asks for.  When a range is replaced it
    begins with the anchor; it ends before the first later statement that the boundary asks for,
    with the document if there is none, and with the anchor itself if no boundary is given.

        statements    0   1   2   3   4   5
                          ▲           ▲
                        anchor      boundary match         replaced:  1 · 2 · 3

    A boundary may be told to pass over statements that are deeper in the tree than the anchor. -/

namespace TemplateMerge

/-- The placement of that name. -/
def Placement.parse (s : String) : Except ConfigError Placement :=
  match Placement.named? s with
  | some placement => .ok placement
  | none => .error (.placement s)

namespace Injection

/-- How the end of a replaced range is found. -/
structure Boundary (N : Type) where
  /-- The statement that ends the range and is not part of it. -/
  matcher : Matcher N
  /-- Whether statements deeper than the anchor are passed over. -/
  sameOrShallower : Bool

/-- A request for a place. -/
structure Request (N : Type) where
  /-- The anchor. -/
  anchor : Matcher N
  /-- The place relative to the anchor. -/
  placement : Placement
  /-- How the end of the range is found. -/
  boundary : Option (Boundary N)
  /-- Only a replacement has a boundary. -/
  replaces : boundary.isSome = true → placement = .replace

namespace Request

variable {N : Type}

/-- A request without a boundary. -/
def make (anchor : Matcher N) (placement : Placement) : Request N :=
  ⟨anchor, placement, none, by simp⟩

/-- The request with a boundary. -/
def withBoundary (r : Request N) (boundary : Boundary N) : Except ConfigError (Request N) :=
  if h : r.placement = .replace then
    .ok { r with boundary := some boundary, replaces := fun _ => h }
  else .error (.boundaryWithoutReplace r.placement)

end Request

/-- A place in a document. -/
structure Point (N : Type) where
  /-- The statement it is relative to. -/
  anchor : Statement N
  /-- How it is relative to that statement. -/
  placement : Placement
  /-- The last statement of a replaced range of more than one. -/
  boundary : Option (Statement N)
  /-- The statement that ended the range. -/
  boundaryMatch : Option (Statement N)
  /-- What else is known of the place. -/
  metadata : Table String

namespace Point

variable {N : Type}

/-- The place relative to a statement; only a replacement may have a boundary. -/
def make (anchor : Statement N) (placement : Placement) (boundary : Option (Statement N)) :
    Except ConfigError (Point N) :=
  if boundary.isSome ∧ placement ≠ .replace then .error (.boundaryWithoutReplace placement)
  else .ok ⟨anchor, placement, boundary, none, .empty⟩

/-- The number of the last statement that is replaced. -/
def lastReplaced (p : Point N) : Nat :=
  match p.boundary with
  | none => p.anchor.index
  | some last => max last.index p.anchor.index

/-- The statements that are replaced. -/
def replaced (p : Point N) (list : List (Statement N)) : List (Statement N) :=
  Statement.range list p.anchor.index p.lastReplaced

end Point

variable {N : Type} [NodeView N]

/-- The first statement that is asked for. -/
def find (list : List (Statement N)) (m : Matcher N) : Option (Statement N) :=
  list.find? m.matches?

/-- All statements that are asked for. -/
def findAll (list : List (Statement N)) (m : Matcher N) : List (Statement N) :=
  list.filter m.matches?

/-- The first statement after the anchor that is asked for.  Statements deeper than the anchor are
    passed over, if so said and the anchor is in a tree. -/
def findBoundary (list : List (Statement N)) (anchor : Statement N) (b : Boundary N) :
    Option (Statement N) :=
  let filtered := b.sameOrShallower && anchor.navigable
  let depth := if filtered then anchor.depth else 0
  (list.drop (anchor.index + 1)).find? fun s =>
    (!filtered || s.noDeeperThan depth) && b.matcher.matches? s

/-- The last statement of the range that a boundary ends, if that is not the anchor. -/
def lastBefore (list : List (Statement N)) (anchor : Statement N) (found : Option (Statement N)) :
    Option (Statement N) :=
  let last := match found with
    | some next => next.prev? list
    | none => list.getLast?
  last.filter (anchor.index < ·.index)

/-- The place that a request asks for. -/
def locate (list : List (Statement N)) (r : Request N) : Option (Point N) :=
  (find list r.anchor).map fun anchor =>
    let notes := Table.empty.insert "anchor" r.anchor.describe
    match r.boundary with
    | none => ⟨anchor, r.placement, none, none, notes⟩
    | some b =>
      let found := findBoundary list anchor b
      ⟨anchor, r.placement, lastBefore list anchor found, found,
        match found with
        | none => notes
        | some stop => notes.insert "stopped_at" (toString stop.index)⟩

end Injection

end TemplateMerge
