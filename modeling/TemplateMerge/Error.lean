import TemplateMerge.Side
import TemplateMerge.Position
import TemplateMerge.Injection.Placement
import TemplateMerge.Resolution.Strategy
import TemplateMerge.Decimal.Layout
import TemplateMerge.Text.Quoted

/-! What can go wrong, and how it is said.

    Configuration is checked before anything is merged, documents are checked as they are read.
    Every error is its cause; `message` puts the cause into words. -/

namespace TemplateMerge

/-- What is wrong with a rule that reclassifies a node type. -/
inductive TypingFault where
  | nodeType
  | mergeType
  deriving DecidableEq, Repr

/-- What is wrong with a comment style. -/
inductive MarkerFault where
  | blankName
  | blankOpening
  deriving DecidableEq, Repr

/-- Configuration that cannot be used. -/
inductive ConfigError where
  /-- A preference that is neither a side nor an object. -/
  | preferenceShape (value : String)
  /-- A preference that names no side. -/
  | preferenceValue (key value : String)
  /-- A key of a preference that is no symbol. -/
  | typeKey (key : String)
  /-- A rule of node typing in which one of the types is no symbol. -/
  | nodeTyping (nodeType : String) (fault : TypingFault)
  /-- An unknown name of a placement. -/
  | placement (name : String)
  /-- A boundary at a placement that replaces nothing. -/
  | boundaryWithoutReplace (placement : Placement)
  /-- An unknown name of a strategy. -/
  | strategy (name : String)
  /-- Weights that are negative, not finite, or do not sum to one. -/
  | weights (content length position : Float)
  /-- A threshold that is not between zero and one. -/
  | threshold (value : Float)
  /-- A text that is no pattern, and the reason. -/
  | pattern (source reason : String)
  /-- A comment style under a name that is taken. -/
  | duplicateMarker (name : String)
  /-- A comment style without a name or an opening. -/
  | marker (name : String) (fault : MarkerFault)
  deriving Repr

/-- The message of a configuration error. -/
def ConfigError.message : ConfigError → String
  | .preferenceShape value =>
    "unsupported preference shape: expected \"template\", \"destination\" or an object, got " ++ value
  | .preferenceValue key value =>
    "invalid preference value for `" ++ key ++ "`: " ++ value ++
      " (expected \"template\" or \"destination\")"
  | .typeKey key => "invalid node type key " ++ Text.quoteString key ++ ": keys must be symbols"
  | .nodeTyping nodeType fault =>
    "invalid node typing entry for `" ++ nodeType ++ "`: " ++
      match fault with
      | .nodeType => "node type must be a symbol"
      | .mergeType => "merge type must be a non-empty symbol"
  | .placement name => "unrecognized injection position " ++ Text.quoteString name
  | .boundaryWithoutReplace place =>
    "a boundary is only valid for `replace` injections, not `" ++ place.name ++ "`"
  | .strategy name => "unrecognized resolution strategy " ++ Text.quoteString name
  | .weights content length position =>
    "similarity weights must be non-negative and sum to 1.0 (content=" ++
      FloatText.message content ++ ", length=" ++ FloatText.message length ++ ", position=" ++
      FloatText.message position ++ ")"
  | .threshold value => "match threshold must be within [0, 1], got " ++ FloatText.message value
  | .pattern source reason =>
    "invalid text pattern " ++ Text.quoteString source ++ ": " ++ reason
  | .duplicateMarker name => "freeze marker style `" ++ name ++ "` is already registered"
  | .marker name fault =>
    "invalid freeze marker style `" ++ name ++ "`: " ++
      match fault with
      | .blankName => "style name must not be empty"
      | .blankOpening => "opening delimiter must not be empty"

/-- Markers of a document that do not pair up. -/
inductive StructureError where
  /-- Regions are open at the end of the document. -/
  | unclosedFreeze (startLine endLine : Nat) (unclosed : List Position)
  /-- A region is closed that was not opened. -/
  | unexpectedUnfreeze (line : Nat)
  /-- A region is opened inside another. -/
  | nestedFreeze (openLine line : Nat)
  deriving DecidableEq, Repr

namespace StructureError

/-- The message of a structure error. -/
def message : StructureError → String
  | unclosedFreeze startLine endLine unclosed =>
    s!"unclosed freeze span between lines {startLine}-{endLine} ({unclosed.length} open)"
  | unexpectedUnfreeze line => s!"unfreeze marker without a matching freeze at line {line}"
  | nestedFreeze openLine line =>
    s!"nested freeze marker at line {line} (region opened at line {openLine})"

/-- The lines that the error is about. -/
def position : StructureError → Position
  | unclosedFreeze startLine endLine _ => Position.ofLines startLine endLine
  | unexpectedUnfreeze line => Position.single line
  | nestedFreeze openLine line => Position.ofLines openLine line

end StructureError

/-- What a node cannot answer. -/
inductive NodeError where
  /-- The node does not offer the operation. -/
  | unsupported (operation nodeType : String)
  /-- No node offers anything under the name. -/
  | unknownCapability (name : String)
  deriving DecidableEq, Repr

/-- The message of a node error. -/
def NodeError.message : NodeError → String
  | .unsupported operation nodeType =>
    "unsupported operation `" ++ operation ++ "` on `" ++ nodeType ++ "` node"
  | .unknownCapability name => "unsupported operation `" ++ name ++ "`: not a node capability"

/-- Why the text of a document could not be read. -/
inductive ReadError where
  /-- A line is not of the format. -/
  | malformed (line : Option Nat) (description : String)
  /-- Any other reason. -/
  | other (description : String)
  deriving DecidableEq, Repr

/-- The message of a read error. -/
def ReadError.message : ReadError → String
  | .malformed none description => "syntax error: " ++ description
  | .malformed (some line) description => s!"syntax error at line {line}: " ++ description
  | .other description => description

/-- Why a document could not be parsed: its markers do not pair up, or its text is not of the
    format. -/
inductive ParseError where
  | unbalanced (error : StructureError)
  | unreadable (error : ReadError)
  deriving DecidableEq, Repr

/-- Why a merge failed. -/
inductive MergeError where
  /-- The text of a document is not of the format. -/
  | unreadable (side : Side) (error : ReadError)
  /-- The markers of a document do not pair up. -/
  | unbalanced (side : Side) (error : StructureError)
  /-- The configuration cannot be used. -/
  | config (error : ConfigError)
  /-- A node could not answer. -/
  | node (error : NodeError)
  /-- The strategy needs a hook that the format does not offer. -/
  | hookMissing (hook : Hook)
  /-- No statement is what the anchor asks for. -/
  | anchorNotFound (anchor : String)
  deriving Repr

namespace MergeError

/-- The error of a merge one of whose documents could not be parsed. -/
def ofParse (side : Side) : ParseError → MergeError
  | .unbalanced error => .unbalanced side error
  | .unreadable error => .unreadable side error

/-- The error that caused this one, in words, where there is one. -/
def cause? : MergeError → Option String
  | .unreadable _ error => some error.message
  | .unbalanced _ error => some error.message
  | _ => none

/-- The message of an error of a merge. -/
def message : MergeError → String
  | .unreadable side error => "failed to parse " ++ side.name ++ ": " ++ error.message
  | .unbalanced side error => "invalid structure in " ++ side.name ++ ": " ++ error.message
  | .config error => error.message
  | .node error => error.message
  | .hookMissing hook => "`" ++ hook.name ++ "` resolution is not implemented by this backend"
  | .anchorNotFound anchor => "no injection anchor matched " ++ anchor

end MergeError

end TemplateMerge
