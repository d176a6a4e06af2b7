/-! Where a template is put, relative to the statement it is anchored at. -/

namespace TemplateMerge

/-- A place relative to an anchor. -/
inductive Placement where
  | before
  | after
  | replace
  | firstChild
  | lastChild
  deriving DecidableEq, Repr

namespace Placement

/-- The name of a placement. -/
def name : Placement → String
  | before => "before"
  | after => "after"
  | replace => "replace"
  | firstChild => "first_child"
  | lastChild => "last_child"

/-- The placement of that name; the two children may be written with a hyphen. -/
def named? : String → Option Placement
  | "before" => some before
  | "after" => some after
  | "replace" => some replace
  | "first_child" => some firstChild
  | "first-child" => some firstChild
  | "last_child" => some lastChild
  | "last-child" => some lastChild
  | _ => none

end Placement

end TemplateMerge
