import TemplateMerge.Format.Basic

/-! Key/value files: sections in brackets and entries with an equals sign.

    Sections and entries are nodes.  Blank lines and comments, which begin with a number sign or a
    semicolon, are none; a merge carries them as they are.  Entries are the same when their keys
    are, so a value that was changed on one side is a conflict. -/

namespace TemplateMerge

namespace KeyValue

/-- What a node of a key/value file is. -/
inductive Kind where
  | sectionLine
  | entry
  deriving DecidableEq, Repr

/-- The name of a kind. -/
def Kind.name : Kind → String
  | .sectionLine => "section"
  | .entry => "entry"

/-- A line with a key. -/
structure Node where
  /-- What the line is. -/
  kind : Kind
  /-- The name of the section, or the key of the entry. -/
  key : Text
  /-- The line, without its ending. -/
  text : Text
  /-- Its number. -/
  line : Nat
  deriving DecidableEq, Repr

instance : NodeView Node where
  nodeType n := n.kind.name
  text n := n.text
  position n := Position.single n.line

/-- What a format of key/value files may add. -/
structure Options where
  /-- Entries whose keys begin with the text are merged as the type. -/
  typedStart : Option (Text × String)
  /-- A text that the batch hook puts at the end. -/
  footer : Option Text
  deriving Repr

/-- The kind and the key of a line that is neither blank nor a comment, white space around it taken
    away. -/
def kindAndKey? (line : Text) : Option (Kind × Text) :=
  match (Text.stripStart? ['['] line).bind (Text.stripEnd? [']']) with
  | some name => some (.sectionLine, Text.trim name)
  | none =>
    if line.contains '=' then some (.entry, Text.trim (line.takeWhile (· != '='))) else none

/-- Whether a line, white space around it taken away, is blank or a comment. -/
def isSkipped (line : Text) : Bool :=
  match line with
  | [] => true
  | c :: _ => c == '#' || c == ';'

/-- The node of a line, with the merge type that its key calls for. -/
def typedNode (options : Options) (n : Node) : Typed Node :=
  match options.typedStart with
  | some (start, mergeType) =>
    if n.kind = .entry ∧ (Text.stripStart? start n.key).isSome then .mark n mergeType else .plain n
  | none => .plain n

/-- The nodes of the lines from line `number` on. -/
def nodes (options : Options) : (number : Nat) → List Text → Except ReadError (List (Typed Node))
  | _, [] => .ok []
  | number, raw :: rest =>
    let line := Text.trim raw
    if isSkipped line then nodes options (number + 1) rest
    else
      match kindAndKey? line with
      | none =>
        .error (.malformed (some number)
          ("expected `key = value`, got " ++ String.ofList (Text.quote line)))
      | some (kind, key) =>
        (nodes options (number + 1) rest).map (typedNode options ⟨kind, key, raw, number⟩ :: ·)

/-- Reads a key/value file.  Markers that do not pair up come before any other fault. -/
def parse (options : Options) (markers : MarkerRegistry) (source : Text) :
    Except ParseError (Document (Typed Node)) :=
  let lines := (Text.splitLines source).map Text.dropTerminator
  match markers.scan lines with
  | .error error => .error (.unbalanced error)
  | .ok spans =>
    match nodes options 1 lines with
    | .error error => .error (.unreadable error)
    | .ok nodes => .ok (.make source nodes spans)

/-- The format of key/value files. -/
def format (options : Options) (markers : MarkerRegistry) : Format (Typed Node) where
  parse := parse options markers
  signature n := some (.content n.inner.kind.name n.inner.key)
  batchHook outcome :=
    match options.footer with
    | none => .ok outcome
    | some footer => .ok ((outcome.push footer).record (.make .merged .merged))
  boundaryHook boundary outcome :=
    .ok (outcome.record
      { Decision.make .merged .merged with
        destinationIndex := some boundary.index, line := some boundary.position.startLine })

end KeyValue

end TemplateMerge
