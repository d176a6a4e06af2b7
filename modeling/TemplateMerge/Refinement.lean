import TemplateMerge.Similarity
import TemplateMerge.Statement
import TemplateMerge.Table

/-! Refinement: pairing statements that are alike but not the same.

    Every pair of candidates of one type gets a score, the weighted sum of three similarities:

        score  =  content · (contents alike)  +  length · (equally long)  +  position · (same place)

    Pairs below the threshold are out.  The others are taken from the best score down, a pair being
    passed over when one of its statements is taken already.  Of pairs with equal scores the one
    with the earlier destination statement comes first, then the one with the earlier template
    statement. -/

namespace TemplateMerge

/-- How much each similarity counts. -/
structure Weights where
  /-- The weight of the contents. -/
  content : Float
  /-- The weight of the lengths. -/
  length : Float
  /-- The weight of the places. -/
  position : Float
  deriving Repr

namespace Weights

/-- The weights used unless others are given. -/
def standard : Weights := ⟨0.7, 0.15, 0.15⟩

/-- Whether a weight is a number from zero on. -/
def isWeight (w : Float) : Bool := w.isFinite && 0.0 ≤ w

/-- Whether the weights are weights and sum to one, up to a billionth. -/
def isValid (w : Weights) : Bool :=
  isWeight w.content && isWeight w.length && isWeight w.position &&
    (0.0 + w.content + w.length + w.position - 1.0).abs ≤ 1e-9

/-- The weights, when they are valid. -/
def check (w : Weights) : Except ConfigError Weights :=
  if w.isValid then .ok w else .error (.weights w.content w.length w.position)

end Weights

/-- How statements that are not the same are paired. -/
structure Refiner where
  /-- The least score of a pair. -/
  threshold : Float
  /-- How much each similarity counts. -/
  weights : Weights
  /-- The types of statements to be paired, in increasing order; none means all. -/
  nodeTypes : List String
  deriving Repr

/-- A pair of statements with its score. -/
structure Match where
  /-- The number of the template's statement. -/
  templateIndex : Nat
  /-- The number of the destination's statement. -/
  destinationIndex : Nat
  /-- The weighted sum. -/
  score : Float
  /-- How alike the contents are. -/
  content : Float
  /-- How alike the lengths are. -/
  length : Float
  /-- How alike the places are. -/
  position : Float
  deriving Repr

/-- Statements to be paired, and the number of statements of the document they are from. -/
structure Candidates (N : Type) where
  /-- The statements. -/
  statements : List (Statement N)
  /-- The number of statements of the document. -/
  documentLength : Nat
  deriving Repr

namespace Match

/-- A whole number that orders all doubles: from minus infinity up, minus zero before zero, and
    what is not a number at the ends. -/
def rank (x : Float) : Int :=
  let bits := x.toBits.toNat
  if bits < Nat.pow 2 63 then bits else (Nat.pow 2 63 - 1 : Nat) - (bits : Int)

/-- The order in which pairs are taken: the better score first, then the earlier destination
    statement, then the earlier template statement. -/
def greedyOrder (a b : Match) : Ordering :=
  ((compare (rank b.score) (rank a.score)).then
    (compare a.destinationIndex b.destinationIndex)).then (compare a.templateIndex b.templateIndex)

/-- Whether `a` may be taken before `b`. -/
def precedes (a b : Match) : Bool := (greedyOrder a b).isLE

/-- The pairs that are taken, one by one, those being out whose statements are taken already. -/
def takeGreedily : (templates destinations : List Nat) → List Match → List Match
  | _, _, [] => []
  | templates, destinations, m :: rest =>
    if templates.contains m.templateIndex || destinations.contains m.destinationIndex then
      takeGreedily templates destinations rest
    else
      m :: takeGreedily (m.templateIndex :: templates) (m.destinationIndex :: destinations) rest

end Match

namespace Refiner

/-- A refiner with a threshold from zero to one and valid weights. -/
def make (threshold : Float) (weights : Weights) (nodeTypes : List String) :
    Except ConfigError Refiner :=
  if 0.0 ≤ threshold && threshold ≤ 1.0 then
    weights.check.map fun weights =>
      ⟨threshold, weights, (Table.ofList (nodeTypes.map fun type => (type, ()))).names⟩
  else .error (.threshold threshold)

/-- The threshold used unless another is given. -/
def standardThreshold : Float := 0.5

/-- Whether statements of a type are to be paired. -/
def acceptsType (r : Refiner) (type : String) : Bool :=
  r.nodeTypes.isEmpty || r.nodeTypes.contains type

variable {N : Type} [NodeView N]

/-- The score of a pair. -/
def score (r : Refiner) (template : Statement N) (templateLength : Nat)
    (destination : Statement N) (destinationLength : Nat) : Match :=
  let content := Similarity.content template.text destination.text
  let length := Similarity.length template.text destination.text
  let position :=
    Similarity.place template.index templateLength destination.index destinationLength
  { templateIndex := template.index
    destinationIndex := destination.index
    score := r.weights.content * content + r.weights.length * length +
      r.weights.position * position
    content, length, position }

/-- The pairs of one type that reach the threshold. -/
def eligible (r : Refiner) (template destination : Candidates N) : List Match :=
  destination.statements.flatMap fun d =>
    if r.acceptsType d.nodeType then
      (template.statements.filter (·.nodeType = d.nodeType)).filterMap fun t =>
        let m := r.score t template.documentLength d destination.documentLength
        if r.threshold ≤ m.score then some m else none
    else []

/-- The pairs that are made. -/
def refine (r : Refiner) (template destination : Candidates N) : List Match :=
  Match.takeGreedily [] [] ((r.eligible template destination).mergeSort Match.precedes)

end Refiner

end TemplateMerge
