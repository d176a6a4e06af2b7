import TemplateMerge.Merge.Prepared
import TemplateMerge.Refinement

/-! Pairing: which statements of the template belong to which statements of the destination.

    The statements of the destination are gone through in order, and each is paired with the first
    statement of the template that has its signature and is still free.

        template         a   b   a   a             used from the beginning: what is frozen
        destination      a   a   c
        paired           0   2   ·                 free afterwards: 1 and 3

    Frozen statements are never paired, nor are those that the format carries through.  What stays
    unpaired may then be paired by a refiner. -/

namespace TemplateMerge

/-- What becomes of a statement of the destination. -/
inductive Slot (N : Type) where
  /-- It is frozen. -/
  | frozen
  /-- The format carries it through. -/
  | carried
  /-- It is paired with a statement of the template, for being alike if there is a score. -/
  | paired (template : Statement N) (score : Option Float)
  /-- It is not paired. -/
  | unmatched

/-- Whether a statement is not paired though it could be. -/
def Slot.isUnmatched {N : Type} : Slot N → Bool
  | .unmatched => true
  | _ => false

namespace Pairing

variable {N : Type} [NodeView N]

/-- Which statements of a template cannot be paired from the beginning. -/
def usedAtFirst (template : Prepared N) : List Bool := template.list.map template.isFrozen

/-- The slot of a statement, given which statements of the template are in use. -/
def slotOf (format : Format N) (template destination : Prepared N) (used : List Bool)
    (s : Statement N) : Slot N :=
  if destination.isFrozen s then .frozen
  else if format.carriesThrough s.node then .carried
  else
    let partner := (destination.signatures.signatureOf s.index).bind fun signature =>
      (template.signatures.firstUnused signature used).bind (template.list[·]?)
    match partner with
    | some t => .paired t none
    | none => .unmatched

/-- The statements of the template in use, once a slot has been filled. -/
def markUsed (used : List Bool) : Slot N → List Bool
  | .paired t _ => used.set t.index true
  | _ => used

/-- The slots of statements, and the statements of the template in use afterwards. -/
def exact (format : Format N) (template destination : Prepared N) :
    (used : List Bool) → List (Statement N) → List (Slot N) × List Bool
  | used, [] => ([], used)
  | used, s :: rest =>
    let slot := slotOf format template destination used s
    let (slots, used) := exact format template destination (markUsed used slot) rest
    (slot :: slots, used)

/-- The statements of the template that a refiner may pair. -/
def templateCandidates (format : Format N) (template : Prepared N) (used : List Bool) :
    List (Statement N) :=
  template.list.filter fun t => used[t.index]? == some false && !format.carriesThrough t.node

/-- The statements of a region that a refiner may pair. -/
def destinationCandidates (region : List (Statement N)) (slots : List (Slot N)) :
    List (Statement N) :=
  ((region.zip slots).filter (·.2.isUnmatched)).map (·.1)

/-- Enters a pair that a refiner made, the region beginning with the statement numbered `start`. -/
def enter (template : Prepared N) (start : Nat) (state : List (Slot N) × List Bool) (m : Match) :
    List (Slot N) × List Bool :=
  match template.list[m.templateIndex]? with
  | none => state
  | some t =>
    (state.1.set (m.destinationIndex - start) (.paired t (some m.score)),
      state.2.set m.templateIndex true)

/-- Pairs by a refiner what has stayed unpaired. -/
def refined (format : Format N) (refiner : Refiner) (template destination : Prepared N)
    (region : List (Statement N)) (state : List (Slot N) × List Bool) :
    List (Slot N) × List Bool :=
  let start := (region.head?.map (·.index)).getD 0
  (refiner.refine
    ⟨templateCandidates format template state.2, template.list.length⟩
    ⟨destinationCandidates region state.1, destination.list.length⟩).foldl
      (enter template start) state

/-- The slots of a region, and the statements of the template in use afterwards. -/
def pair (format : Format N) (refiner : Option Refiner) (template destination : Prepared N)
    (region : List (Statement N)) : List (Slot N) × List Bool :=
  let state := exact format template destination (usedAtFirst template) region
  match refiner with
  | none => state
  | some refiner => refined format refiner template destination region state

end Pairing

end TemplateMerge
