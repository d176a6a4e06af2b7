/-! Which hooks of a format run after the statements of a merge have been resolved one by one. -/

namespace TemplateMerge

/-- A hook that a document format may offer. -/
inductive Hook where
  /-- Works on the whole assembled result. -/
  | batch
  /-- Decides how a replaced range is joined to what surrounds it. -/
  | boundary
  deriving DecidableEq, Repr

/-- The name of a hook. -/
def Hook.name : Hook → String
  | .batch => "batch"
  | .boundary => "boundary"

/-- A strategy of resolution. -/
inductive Strategy where
  /-- Pairs of statements only. -/
  | nodePair
  /-- Pairs of statements, then the batch hook. -/
  | batch
  /-- Pairs of statements, then, for a replaced range, the boundary hook. -/
  | boundary
  deriving DecidableEq, Repr

namespace Strategy

/-- The name of a strategy. -/
def name : Strategy → String
  | nodePair => "node_pair"
  | batch => "batch"
  | boundary => "boundary"

/-- The strategy of that name; the pair strategy may be written with a hyphen. -/
def named? : String → Option Strategy
  | "node_pair" => some nodePair
  | "node-pair" => some nodePair
  | "batch" => some batch
  | "boundary" => some boundary
  | _ => none

end Strategy

end TemplateMerge
