import TemplateMerge.Statement
import TemplateMerge.Error

/-! Matchers: which statements are meant.

    A matcher may ask for a pattern in the text of a statement.  What texts are patterns, and where
    a pattern is found, is up to an engine, of which nothing is known here:

        ^## Us   ──▶   engine   ──▶   found in "## Usage", not in "Usage"
        (        ──▶   engine   ──▶   refused, with a reason -/

namespace TemplateMerge

/-- A pattern with the text it was read from. -/
structure TextPattern where
  /-- The text. -/
  source : Text
  /-- Whether the pattern is found in a text. -/
  isFoundIn : Text → Bool

/-- What makes patterns of texts. -/
structure PatternEngine where
  /-- The pattern that a text is, as a question about texts, or the reason why it is none. -/
  compile : Text → Except String (Text → Bool)

/-- The pattern that a text is. -/
def PatternEngine.parse (engine : PatternEngine) (source : Text) :
    Except ConfigError TextPattern :=
  match engine.compile source with
  | .ok isFoundIn => .ok ⟨source, isFoundIn⟩
  | .error reason => .error (.pattern (String.ofList source) reason)

/-- What a statement must be; all that is given has to hold. -/
structure Matcher (N : Type) where
  /-- Its type. -/
  nodeType : Option String
  /-- What is found in its text. -/
  text : Option TextPattern
  /-- Anything else. -/
  custom : Option (Statement N → Bool)

namespace Matcher

variable {N : Type}

/-- Every statement will do. -/
def any : Matcher N := ⟨none, none, none⟩

/-- Statements of a type. -/
def ofType (nodeType : String) : Matcher N := { any with nodeType := some nodeType }

/-- A matcher in words. -/
def describe (m : Matcher N) : String :=
  let parts :=
    (m.nodeType.map fun type => "type=" ++ type).toList ++
    (m.text.map fun text => "text=/" ++ String.ofList text.source ++ "/").toList ++
    (m.custom.map fun _ => "custom predicate").toList
  if parts.isEmpty then "any statement" else ", ".intercalate parts

variable [NodeView N]

/-- Whether a statement is what is asked for. -/
def matches? (m : Matcher N) (s : Statement N) : Bool :=
  m.nodeType.all (s.nodeType == ·) && m.text.all (·.isFoundIn s.text) && m.custom.all (· s)

end Matcher

end TemplateMerge
