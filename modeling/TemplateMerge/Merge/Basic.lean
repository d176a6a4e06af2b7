import TemplateMerge.Merge.Pairing
import TemplateMerge.Resolution.Basic
import TemplateMerge.Injection.Basic

/-! Merges.

    A whole merge goes through the destination from its first line to its last.  Frozen statements,
    statements that are carried through, statements without a partner and the lines between
    statements are copied; of a pair that side is copied which the resolver says.  Statements of
    the template that found no partner follow at the end, if so asked.

    A partial merge works at one place of the destination: it inserts the statements of the
    template there, or merges them into a range.  Nothing outside is touched, and frozen regions
    are never cut in two.

        destination   line 1 … k            ──▶   copied
                      (the place)           ──▶   statements of the template
                      line k + 1 … end      ──▶   copied -/

namespace TemplateMerge

/-- What a merge is told. -/
structure MergeOptions where
  /-- Which side wins. -/
  preference : Preference
  /-- Whether statements of the template alone are added. -/
  addTemplateOnly : Bool
  /-- Which types are merged as others. -/
  typing : NodeTyping
  /-- How statements that are not the same are paired, if they are. -/
  refiner : Option Refiner
  /-- Which hooks run. -/
  strategy : Strategy
  deriving Repr

namespace MergeOptions

/-- The destination wins, nothing is added, and only what is the same is paired. -/
def standard : MergeOptions := ⟨.everywhere .destination, false, .none, none, .nodePair⟩

instance : Inhabited MergeOptions := ⟨standard⟩

/-- What conflicts are resolved by. -/
def resolver (o : MergeOptions) : Resolver := ⟨o.preference, o.typing⟩

end MergeOptions

/-- A part of the destination that a merge goes through. -/
structure Region (N : Type) where
  /-- Its statements. -/
  list : List (Statement N)
  /-- Its first line. -/
  firstLine : Nat
  /-- Its last line. -/
  lastLine : Nat

/-- A format together with what merges are told. -/
structure Merger (N : Type) [NodeView N] where
  /-- The format of both documents. -/
  format : Format N
  /-- What merges are told. -/
  options : MergeOptions

namespace Merger

variable {N : Type} [NodeView N]

/-! ### A region, piece by piece -/

/-- What is decided about a pair of statements. -/
def resolvePair (m : Merger N) (t s : Statement N) : Resolution :=
  m.options.resolver.resolve t.node (m.format.normalized t.node) s.node (m.format.normalized s.node)

/-- The piece of a statement of the destination. -/
def pieceOf (m : Merger N) (template destination : Prepared N) (s : Statement N) (slot : Slot N) :
    Piece :=
  let own := destination.document.slice s.position
  let log (kind : DecisionKind) (source : DecisionSource) (template : Option Nat)
      (score : Option Float) : Option Decision :=
    some ⟨kind, source, template, some s.index, some s.position.startLine, score⟩
  match slot with
  | .frozen => ⟨own, log .freezeBlock .destination none none⟩
  | .carried => ⟨own, log .keptDestination .destination none none⟩
  | .unmatched => ⟨own, log .appended .destination none none⟩
  | .paired t score =>
    let r := m.resolvePair t s
    ⟨if r.takesTemplate then template.document.slice t.position else own,
      log r.kind r.source (some t.index) score⟩

/-- The lines of the destination from `first` to `last`, without a decision. -/
def gap (destination : Prepared N) (first last : Nat) : List Piece :=
  if first ≤ last then [⟨destination.document.sourceRange first last, none⟩] else []

/-- The pieces of statements, from line `nextLine` to line `lastLine`, with the lines between. -/
def bodyPieces (m : Merger N) (template destination : Prepared N) (lastLine : Nat) :
    (nextLine : Nat) → List (Statement N × Slot N) → List Piece
  | nextLine, [] => gap destination nextLine lastLine
  | nextLine, (s, slot) :: rest =>
    let before :=
      if nextLine < s.position.startLine then gap destination nextLine (s.position.startLine - 1)
      else []
    before ++ m.pieceOf template destination s slot ::
      bodyPieces m template destination lastLine (max nextLine (s.position.endLine + 1)) rest

/-- The piece of a statement of the template that is added. -/
def addedPiece (template : Prepared N) (t : Statement N) : Piece :=
  ⟨template.document.slice t.position,
    some ⟨.added, .template, some t.index, none, some t.position.startLine, none⟩⟩

/-- The pieces of the statements of the template that are not in use. -/
def addedPieces (template : Prepared N) (used : List Bool) : List Piece :=
  (template.list.filter fun t => used[t.index]? == some false).map (addedPiece template)

/-- The pieces of a region. -/
def regionPieces (m : Merger N) (template destination : Prepared N) (region : Region N)
    (addTemplateOnly : Bool) : List Piece :=
  let (slots, used) := Pairing.pair m.format m.options.refiner template destination region.list
  m.bodyPieces template destination region.lastLine region.firstLine (region.list.zip slots) ++
    if addTemplateOnly then addedPieces template used else []

/-! ### Whole merges -/

/-- A document that was parsed, ready for a merge. -/
def prepare (m : Merger N) (side : Side) (parsed : Except ParseError (Document N)) :
    Except MergeError (Prepared N) :=
  match parsed with
  | .error error => .error (.ofParse side error)
  | .ok document => .ok (.make m.format document)

/-- The end of a merge: the batch hook, and whether anything has changed. -/
def finish (m : Merger N) (destination : Text) (outcome : Outcome) : Except MergeError Outcome :=
  let hooked :=
    if m.options.strategy = .batch then m.format.batchHook outcome else .ok outcome
  hooked.map fun outcome => { outcome with changed := outcome.content ≠ destination }

/-- The region of a whole document. -/
def wholeRegion (destination : Prepared N) : Region N :=
  ⟨destination.list, 1, destination.document.lineCount⟩

/-- Merges prepared documents. -/
def mergePrepared (m : Merger N) (template destination : Prepared N) (source : Text) :
    Except MergeError Outcome :=
  m.finish source (.ofPieces (m.regionPieces template destination (wholeRegion destination)
    m.options.addTemplateOnly))

/-- Merges documents as they were parsed, the destination having the given text. -/
def mergeParsed (m : Merger N) (template destination : Except ParseError (Document N))
    (source : Text) : Except MergeError Outcome := do
  let template ← m.prepare .template template
  let destination ← m.prepare .destination destination
  m.mergePrepared template destination source

/-- Merges a template into a destination. -/
def merge (m : Merger N) (template destination : Text) : Except MergeError Outcome :=
  m.mergeParsed (m.format.parse template) (m.format.parse destination) destination

/-! ### Partial merges -/

/-- The template's statements between line `line` of the destination and the next. -/
def insertAfterLine (template destination : Prepared N) (line : Nat) : Outcome :=
  let d := destination.document
  .ofPieces (⟨d.sourceRange 1 line, none⟩ :: template.unfrozen.map (addedPiece template) ++
    [⟨d.sourceRange (line + 1) d.lineCount, none⟩])

/-- The line of the destination after which a template is inserted. -/
def insertionLine (destination : Prepared N) (anchor : Statement N) : Placement → Nat
  | .before => destination.document.outsideFreeze (anchor.position.startLine - 1) false
  | .firstChild => destination.document.outsideFreeze anchor.position.endLine true
  | _ => destination.document.outsideFreeze (destination.subtreeEnd anchor) true

/-- The decision to replace a range. -/
def replacedDecision (anchor : Statement N) : Decision :=
  ⟨.replaced, .merged, none, some anchor.index, some anchor.position.startLine, none⟩

/-- The region that a point replaces. -/
def replacedRegion (destination : Prepared N) (point : Injection.Point N) : Region N :=
  let anchor := point.anchor
  let last := ((point.replaced destination.list).getLast?.map (·.index)).getD anchor.index
  let (lastIndex, lastLine) := destination.replacedTail last
  ⟨Statement.range destination.list anchor.index lastIndex, anchor.position.startLine, lastLine⟩

/-- Merges the template into the range that a point replaces. -/
def replaceRange (m : Merger N) (template destination : Prepared N) (point : Injection.Point N) :
    Except MergeError Outcome :=
  let d := destination.document
  let region := replacedRegion destination point
  let inner := Outcome.ofPieces (m.regionPieces template destination region true)
  let hooked :=
    if m.options.strategy = .boundary then
      m.format.boundaryHook (point.boundary.getD point.anchor) inner
    else .ok inner
  hooked.map fun inner =>
    (((Outcome.empty.push (d.sourceRange 1 (region.firstLine - 1))).record
      (replacedDecision point.anchor)).absorb inner).push
        (d.sourceRange (region.lastLine + 1) d.lineCount)

/-- Applies the template at a point. -/
def applyAt (m : Merger N) (template destination : Prepared N) (point : Injection.Point N) :
    Except MergeError Outcome :=
  match point.placement with
  | .replace => m.replaceRange template destination point
  | placement =>
    .ok (insertAfterLine template destination (insertionLine destination point.anchor placement))

/-- Merges prepared documents at the place that a request asks for. -/
def mergePartialPrepared (m : Merger N) (template destination : Prepared N)
    (request : Injection.Request N) (source : Text) : Except MergeError Outcome :=
  match Injection.locate destination.list request with
  | none => .error (.anchorNotFound request.anchor.describe)
  | some point => (m.applyAt template destination point).bind (m.finish source)

/-- Merges documents as they were parsed at the place that a request asks for. -/
def mergePartialParsed (m : Merger N) (template destination : Except ParseError (Document N))
    (request : Injection.Request N) (source : Text) : Except MergeError Outcome := do
  let template ← m.prepare .template template
  let destination ← m.prepare .destination destination
  m.mergePartialPrepared template destination request source

/-- Merges a template into a destination at the place that a request asks for. -/
def mergePartial (m : Merger N) (template destination : Text) (request : Injection.Request N) :
    Except MergeError Outcome :=
  m.mergePartialParsed (m.format.parse template) (m.format.parse destination) request destination

end Merger

end TemplateMerge
