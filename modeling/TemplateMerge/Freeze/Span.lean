import TemplateMerge.Freeze.Marker

/-! Frozen regions of a document.

    Regions do not nest: the markers of a document must alternate, beginning with a freeze and
    ending with an unfreeze.  The scan walks over the lines with the region that is open, if any.

        line          1        2         3         4        5
        marker        ·     freeze       ·     unfreeze     ·        ──▶   one region, lines 2–4 -/

namespace TemplateMerge

/-- A frozen region, its markers included. -/
structure FreezeSpan where
  /-- The line of the opening marker. -/
  startLine : Nat
  /-- The line of the closing marker. -/
  endLine : Nat
  /-- The opening marker, without the white space around it. -/
  startMarker : Text
  /-- The closing marker, without the white space around it. -/
  endMarker : Text
  /-- The reason given for the freeze. -/
  reason : Option Text
  deriving DecidableEq, Repr

namespace FreezeSpan

/-- The lines of the region. -/
def position (s : FreezeSpan) : Position := Position.ofLines s.startLine s.endLine

/-- Whether the region and the lines have a line in common. -/
def intersects (s : FreezeSpan) (p : Position) : Bool := s.position.intersects p

end FreezeSpan

namespace MarkerRegistry

/-- A region whose end has not been found. -/
structure OpenRegion where
  /-- The line of the opening marker. -/
  line : Nat
  /-- The opening marker. -/
  marker : Text
  /-- The reason given. -/
  reason : Option Text
  deriving DecidableEq, Repr

/-- The regions from line `number` on, the given one being open. -/
def scanFrom (r : MarkerRegistry) :
    Option OpenRegion → (number : Nat) → List Text → Except StructureError (List FreezeSpan)
  | none, _, [] => .ok []
  | some opened, number, [] =>
    .error (.unclosedFreeze opened.line (number - 1) [Position.ofLines opened.line (number - 1)])
  | opened?, number, line :: rest =>
    match r.classify line, opened? with
    | none, _ => scanFrom r opened? (number + 1) rest
    | some (.freeze reason), none =>
      scanFrom r (some ⟨number, Text.trim line, reason⟩) (number + 1) rest
    | some (.freeze _), some opened => .error (.nestedFreeze opened.line number)
    | some .unfreeze, none => .error (.unexpectedUnfreeze number)
    | some .unfreeze, some opened =>
      (scanFrom r none (number + 1) rest).map
        (⟨opened.line, number, opened.marker, Text.trim line, opened.reason⟩ :: ·)

/-- The frozen regions of a document, given its lines. -/
def scan (r : MarkerRegistry) (lines : List Text) : Except StructureError (List FreezeSpan) :=
  r.scanFrom none 1 lines

end MarkerRegistry

end TemplateMerge
