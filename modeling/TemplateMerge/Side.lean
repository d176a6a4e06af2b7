/-! The two documents of a merge. -/

namespace TemplateMerge

/-- One of the two documents: the template that is merged in, or the destination it goes into. -/
inductive Side where
  | template
  | destination
  deriving DecidableEq, Repr

namespace Side

/-- The name of a side. -/
def name : Side → String
  | template => "template"
  | destination => "destination"

/-- The side of that name. -/
def named? (s : String) : Option Side := [template, destination].find? (·.name == s)

theorem named?_name (side : Side) : named? side.name = some side := by cases side <;> rfl

end Side

end TemplateMerge
