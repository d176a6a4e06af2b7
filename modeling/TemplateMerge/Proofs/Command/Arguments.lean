import TemplateMerge.Command.Basic

/-! What is read of a command line is what the grammar has.

    So an option that a command has not is never given.  A merge at one place has no option for a
    report, and its target has none. -/

namespace TemplateMerge

namespace Arguments

variable {g : Grammar}

namespace Grammar

end Grammar

end Arguments

namespace Command

open Arguments

end Command

end TemplateMerge
