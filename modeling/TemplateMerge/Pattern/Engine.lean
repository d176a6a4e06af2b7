import TemplateMerge.Injection.Matcher
import TemplateMerge.Pattern.Find
import TemplateMerge.Pattern.Parser

/-! An engine for patterns, with which commands can be run.

    Merges and commands work with any engine, and what is proved of them is proved for all.  This
    one reads literals, sets, groups, repetitions, anchors and flags; of the properties of
    characters it knows the general categories, and it refuses scripts and other properties. -/

namespace TemplateMerge

namespace Pattern

/-- The reason why a text is no pattern, in words. -/
def Fault.message : Fault → String
  | malformed => "regex parse error:"
  | tooLarge => s!"Compiled regex exceeds size limit of {sizeLimit} bytes."

/-- The engine of the patterns that can be read here. -/
def engine : PatternEngine where
  compile source :=
    match parse source with
    | .ok p => .ok p.isFoundIn
    | .error fault => .error fault.message

end Pattern

end TemplateMerge
