import TemplateMerge.Pattern.Property
import TemplateMerge.Pattern.Size

/-! Reading patterns.

    A pattern is a sequence of branches between bars; a branch is a sequence of items, each of which
    a repetition may follow.  Flags hold from where they are set to the end of the group they are
    set in.  What cannot be read is no pattern: look-around, references to groups, repetitions of
    nothing, unknown escapes, brackets that are not closed, and, in byte mode, whatever could match
    half a character.  What can be read but is too large is no pattern either.

    The readers take the rest of the text and return what they have read and the rest after it. -/

namespace TemplateMerge

namespace Pattern

/-- What holds at a place in a pattern. -/
structure Flags where
  /-- Case does not matter. -/
  anyCase : Bool := false
  /-- Anchors hold at every line. -/
  multiLine : Bool := false
  /-- The dot matches line feeds. -/
  dotAll : Bool := false
  /-- Carriage returns end lines. -/
  carriageReturns : Bool := false
  /-- Sets contain characters, not bytes. -/
  unicode : Bool := true
  /-- White space and comments do not count. -/
  verbose : Bool := false
  deriving DecidableEq, Repr

/-- A pattern that was read, and how deeply it is nested. -/
structure Part where
  /-- The pattern. -/
  pattern : Pattern
  /-- The depth of its nesting. -/
  depth : Nat
  deriving Repr

/-- An item of a branch: a pattern, or a setting of flags, which cannot be repeated. -/
inductive Item where
  | part (p : Part)
  | setting
  deriving Repr

/-- The deepest nesting that is allowed. -/
def nestingLimit : Nat := 250

/-- The text after white space and comments, where these do not count. -/
def skipVerbose (flags : Flags) : Text → Text
  | [] => []
  | c :: t =>
    if !flags.verbose then c :: t
    else go false (c :: t)
where
  /-- The text after white space and comments, inside a comment or not. -/
  go : Bool → Text → Text
    | _, [] => []
    | true, c :: t => go (c != '\n') t
    | false, c :: t =>
      if Text.isBlankChar c then go false t
      else if c = '#' then go true t
      else c :: t

/-- The value of a hexadecimal digit. -/
def hexDigit? (c : Char) : Option Nat :=
  if c.isDigit then some (c.toNat - 48)
  else if 'a' ≤ c ∧ c ≤ 'f' then some (c.toNat - 87)
  else if 'A' ≤ c ∧ c ≤ 'F' then some (c.toNat - 55)
  else none

/-- The character with a number, if there is one. -/
def charOf? (n : Nat) : Option Char := if n.isValidChar then some (Char.ofNat n) else none

/-- What an escape stands for. -/
inductive Escape where
  /-- A character. -/
  | char (c : Char)
  /-- A character written as a byte. -/
  | byte (c : Char)
  /-- A set that folding does not widen. -/
  | set (s : CharSet)
  /-- A set that folding widens, and whether its complement is meant. -/
  | property (s : CharSet) (negated : Bool)
  /-- A question about a gap. -/
  | look (l : Look)
  deriving Repr

/-- Reads a number of hexadecimal digits. -/
def readHexDigits (flags : Flags) : (count value : Nat) → Text → Option (Nat × Text)
  | 0, value, t => some (value, t)
  | count + 1, value, t =>
    match t with
    | [] => none
    | c :: rest =>
      match hexDigit? c with
      | none => none
      | some digit =>
        readHexDigits flags count (16 * value + digit)
          (if count = 0 then rest else skipVerbose flags rest)

/-- Reads a character by its number, after the letter of the escape; a byte when two digits without
    braces say so. -/
def readHex (flags : Flags) (digits : Nat) (t : Text) : Option (Escape × Text) :=
  match skipVerbose flags t with
  | '\x7b' :: rest => do
    let inner := rest.takeWhile (· != '\x7d')
    let rest := rest.drop inner.length
    if rest.isEmpty then none
    let shown := if flags.verbose then inner.filter (!Text.isBlankChar ·) else inner
    if shown.isEmpty then none
    let value ← shown.foldl (fun n c => do return 16 * (← n) + (← hexDigit? c)) (some 0)
    let c ← charOf? value
    some (.char c, skipVerbose flags (rest.drop 1))
  | t => do
    let (value, rest) ← readHexDigits flags digits 0 t
    let c ← charOf? value
    some (if digits = 2 then .byte c else .char c, rest)

/-- Reads a property, after the letter of the escape. -/
def readProperty (flags : Flags) (negated : Bool) (t : Text) : Option (Escape × Text) :=
  if !flags.unicode then none
  else
    match skipVerbose flags t with
    | [] => none
    | '\x7b' :: rest => do
      let inner := rest.takeWhile (· != '\x7d')
      let rest := rest.drop inner.length
      if rest.isEmpty then none
      let shown := if flags.verbose then inner.filter (!Text.isBlankChar ·) else inner
      let s ← CharSet.property? shown
      some (.property s negated, rest.drop 1)
    | c :: rest => do
      if c = '\\' then none
      let s ← CharSet.property? [c]
      some (.property s negated, skipVerbose flags rest)

/-- The characters that words are made of. -/
def wordSet (flags : Flags) : CharSet := if flags.unicode then .word else .asciiWord

/-- The complement of a set. -/
def complementOf (flags : Flags) (s : CharSet) : CharSet :=
  if flags.unicode then .complement s else .byteComplement s

/-- The set of a letter escape, or its complement; in byte mode there are only sets of ASCII. -/
def letterSet (flags : Flags) (unicode ascii : CharSet) (negated : Bool) : Option Escape :=
  if flags.unicode then some (.set (if negated then .complement unicode else unicode))
  else if negated then none
  else some (.set ascii)

/-- Reads what follows the escape of a word boundary: the end of the boundary that is meant may be
    named between braces. -/
def readBoundary (flags : Flags) (t : Text) : Option (Escape × Text) :=
  let letters := wordSet flags
  let plain : Option (Escape × Text) := some (.look (.boundary letters), t)
  let isNameChar (c : Char) : Bool := c.isAlpha || c == '-'
  match t with
  | '\x7b' :: rest =>
    match skipVerbose flags rest with
    | [] => none
    | c :: rest =>
      if !isNameChar c then plain
      else
        let inner := (c :: rest).takeWhile fun c =>
          isNameChar c || (flags.verbose && Text.isBlankChar c)
        match (c :: rest).drop inner.length with
        | '\x7d' :: rest =>
          match String.ofList (inner.filter isNameChar) with
          | "start" => some (.look (.wordStart letters), rest)
          | "end" => some (.look (.wordEnd letters), rest)
          | "start-half" => some (.look (.wordStartHalf letters), rest)
          | "end-half" => some (.look (.wordEndHalf letters), rest)
          | _ => none
        | _ => none
  | _ => plain

/-- Reads an escape, after the backslash. -/
def readEscape (flags : Flags) : Text → Option (Escape × Text)
  | [] => none
  | c :: rest =>
    let letter (e : Option Escape) : Option (Escape × Text) := e.map (·, rest)
    let letters := wordSet flags
    match c with
    | 'x' => readHex flags 2 rest
    | 'u' => readHex flags 4 rest
    | 'U' => readHex flags 8 rest
    | 'p' => readProperty flags false rest
    | 'P' => readProperty flags true rest
    | 'd' => letter (letterSet flags .decimal .asciiDigit false)
    | 'D' => letter (letterSet flags .decimal .asciiDigit true)
    | 's' => letter (letterSet flags .blank .asciiBlank false)
    | 'S' => letter (letterSet flags .blank .asciiBlank true)
    | 'w' => letter (letterSet flags .word .asciiWord false)
    | 'W' => letter (letterSet flags .word .asciiWord true)
    | 'a' => some (.char '\x07', rest)
    | 'f' => some (.char '\x0c', rest)
    | 't' => some (.char '\t', rest)
    | 'n' => some (.char '\n', rest)
    | 'r' => some (.char '\r', rest)
    | 'v' => some (.char '\x0b', rest)
    | 'A' => some (.look .textStart, rest)
    | 'z' => some (.look .textEnd, rest)
    | 'b' => readBoundary flags rest
    | 'B' => some (.look (.noBoundary letters), rest)
    | '<' => some (.look (.wordStart letters), rest)
    | '>' => some (.look (.wordEnd letters), rest)
    | c => if c.toNat < 128 && !c.isAlphanum then some (.char c, rest) else none

/-- A set, widened where case does not matter. -/
def widen (flags : Flags) (s : CharSet) : CharSet :=
  if !flags.anyCase then s else if flags.unicode then s.anyCase else s.anyByteCase

/-- The pattern of one character, in any case where case does not matter. -/
def charPattern (flags : Flags) (c : Char) : Pattern := ofSet (widen flags (.single c))

/-- A finished set: widened where case does not matter, then replaced by its complement if so said.
    In byte mode it must lie within ASCII. -/
def finishSet (flags : Flags) (negated : Bool) (s : CharSet) : Option CharSet :=
  let wide := widen flags s
  let final := if negated then complementOf flags wide else wide
  if flags.unicode || final.isAscii then some final else none

/-- The pattern of an escape outside brackets. -/
def escapePattern (flags : Flags) : Escape → Option Pattern
  | .char c => some (charPattern flags c)
  | .byte c => if flags.unicode || c.toNat < 128 then some (charPattern flags c) else none
  | .set s => some (ofSet s)
  | .property s negated => (finishSet flags negated s).map ofSet
  | .look l => some (.look l)

/-! ### Bracketed sets -/

/-- How two parts of a bracketed set are joined. -/
inductive SetOp where
  | inter
  | difference
  | symmetric
  deriving DecidableEq, Repr

/-- The join of two sets, both widened first where case does not matter. -/
def SetOp.apply (flags : Flags) (op : SetOp) (a b : CharSet) : CharSet :=
  match op with
  | inter => .inter (widen flags a) (widen flags b)
  | difference => .difference (widen flags a) (widen flags b)
  | symmetric => .symmetric (widen flags a) (widen flags b)

/-- What has been read of a bracketed set: the operation that is open, if any, with its left side,
    then the members since. -/
structure SetSoFar where
  /-- The left side and its operation. -/
  left : Option (CharSet × SetOp)
  /-- The members since. -/
  members : List CharSet
  /-- The depth of the nesting inside. -/
  depth : Nat
  deriving Repr

namespace SetSoFar

/-- Nothing has been read. -/
def start : SetSoFar := ⟨none, [], 0⟩

/-- One more member. -/
def add (s : SetSoFar) (member : CharSet) (depth : Nat) : SetSoFar :=
  { s with members := s.members ++ [member], depth := max s.depth depth }

/-- The set read so far. -/
def close (flags : Flags) (s : SetSoFar) : CharSet :=
  let right := CharSet.unions s.members
  match s.left with
  | none => right
  | some (left, op) => op.apply flags left right

/-- The depth of the set read so far. -/
def closedDepth (s : SetSoFar) : Nat :=
  s.depth + (if s.members.length ≥ 2 then 1 else 0)

/-- An operation follows. -/
def operate (flags : Flags) (op : SetOp) (s : SetSoFar) : SetSoFar :=
  ⟨some (s.close flags, op), [], s.closedDepth + 1⟩

end SetSoFar

/-- A named set of ASCII between bracket and colon, if there is one; otherwise the bracket opens a
    set of its own. -/
def readAsciiName? (flags : Flags) (t : Text) : Option (Option CharSet × Text) :=
  match t with
  | '[' :: ':' :: rest =>
    let (negated, rest) := match rest with
      | '^' :: rest => (true, rest)
      | _ => (false, rest)
    let name := rest.takeWhile (· != ':')
    match rest.drop name.length with
    | ':' :: ']' :: rest =>
      (CharSet.asciiNamed? (String.ofList name)).map fun s => (finishSet flags negated s, rest)
    | _ => none
  | _ => none

/-- Reads one member of a set, which may turn out to be an end of a range. -/
def readSetItem (flags : Flags) : Text → Option (Escape × Text)
  | [] => none
  | '\\' :: rest => readEscape flags rest
  | c :: rest => some (.char c, rest)

/-- The character that an end of a range is. -/
def rangeEnd? (flags : Flags) : Escape → Option Char
  | .char c => if flags.unicode || c.toNat < 128 then some c else none
  | .byte c => some c
  | _ => none

/-- The set that a member is. -/
def memberSet? (flags : Flags) : Escape → Option CharSet
  | .set s => some s
  | .property s negated => finishSet flags negated s
  | .look _ => none
  | e => (rangeEnd? flags e).map CharSet.single

/-- Reads a member of a set or a range. -/
def readRange (flags : Flags) (t : Text) : Option (CharSet × Text) := do
  let (first, rest) ← readSetItem flags t
  let rest := skipVerbose flags rest
  let single : Option (CharSet × Text) := (memberSet? flags first).map (·, rest)
  match rest with
  | [] => none
  | '-' :: more =>
    match skipVerbose flags more with
    | [] => none
    | ']' :: _ => single
    | '-' :: _ => single
    | more =>
      let (last, more) ← readSetItem flags more
      let a ← rangeEnd? flags first
      let b ← rangeEnd? flags last
      if a ≤ b then some (.range a b, more) else none
  | _ => single

/-- Reads what follows an opening bracket up to the members: a circumflex, hyphens, and a bracket
    that stands for itself. -/
def readSetStart (flags : Flags) (t : Text) : Bool × SetSoFar × Text :=
  let t := skipVerbose flags t
  let (negated, t) := match t with
    | '^' :: rest => (true, skipVerbose flags rest)
    | _ => (false, t)
  let rec hyphens (so : SetSoFar) (t : Text) (fuel : Nat) : SetSoFar × Text :=
    match fuel, t with
    | fuel + 1, '-' :: rest => hyphens (so.add (.single '-') 0) (skipVerbose flags rest) fuel
    | _, t => (so, t)
  let (so, t) := hyphens .start t t.length
  match so.members, t with
  | [], ']' :: rest => (negated, so.add (.single ']') 0, skipVerbose flags rest)
  | _, t => (negated, so, t)

/-- Reads the members of a set and its closing bracket; `fuel` bounds the members. -/
def readMembers (flags : Flags) (negated : Bool) :
    (fuel : Nat) → SetSoFar → Text → Option ((CharSet × Nat) × Text)
  | 0, _, _ => none
  | fuel + 1, so, t =>
    match skipVerbose flags t with
    | [] => none
    | '[' :: rest =>
      match readAsciiName? flags ('[' :: rest) with
      | some (none, _) => none
      | some (some s, rest) => readMembers flags negated fuel (so.add s 0) rest
      | none => do
        let (negatedInside, start, rest) := readSetStart flags rest
        let ((s, depth), rest) ← readMembers flags negatedInside fuel start rest
        readMembers flags negated fuel (so.add s depth) rest
    | ']' :: rest =>
      (finishSet flags negated (so.close flags)).map fun s => ((s, so.closedDepth + 1), rest)
    | '&' :: '&' :: rest => readMembers flags negated fuel (so.operate flags .inter) rest
    | '-' :: '-' :: rest => readMembers flags negated fuel (so.operate flags .difference) rest
    | '~' :: '~' :: rest => readMembers flags negated fuel (so.operate flags .symmetric) rest
    | t => do
      let (s, rest) ← readRange flags t
      readMembers flags negated fuel (so.add s 0) rest

/-- Reads a bracketed set, after its opening bracket. -/
def readSet (flags : Flags) (t : Text) : Option ((CharSet × Nat) × Text) :=
  let (negated, start, rest) := readSetStart flags t
  readMembers flags negated (t.length + 1) start rest

/-! ### Repetitions, flags and groups -/

/-- Reads a decimal number with white space around it.  It must fit into 32 bits. -/
def readCount (t : Text) : Option Nat × Text :=
  let t := Text.trimStart t
  let digits := t.takeWhile Char.isDigit
  let rest := Text.trimStart (t.drop digits.length)
  let value : Nat := digits.foldl (fun n c => 10 * n + (c.toNat - 48)) 0
  (if digits.isEmpty || value ≥ Nat.pow 2 32 then none else some value, rest)

/-- Reads the bounds of a repetition, after the opening brace. -/
def readBounds (flags : Flags) (t : Text) : Option ((Nat × Option Nat) × Text) := do
  let t := skipVerbose flags t
  if t.isEmpty then none
  let (least, rest) := readCount t
  let least ← least
  let (most, rest) ← match rest with
    | ',' :: rest =>
      match skipVerbose flags rest with
      | '\x7d' :: rest => some (none, '\x7d' :: rest)
      | rest =>
        let (most, rest) := readCount rest
        most.map fun most => (some most, rest)
    | _ => some (some least, rest)
  match rest with
  | '\x7d' :: rest =>
    if most.all (least ≤ ·) then some ((least, most), skipVerbose flags rest) else none
  | _ => none

/-- What a letter sets. -/
def Flags.set? (flags : Flags) (letter : Char) (on : Bool) : Option Flags :=
  match letter with
  | 'i' => some { flags with anyCase := on }
  | 'm' => some { flags with multiLine := on }
  | 's' => some { flags with dotAll := on }
  | 'R' => some { flags with carriageReturns := on }
  | 'u' => some { flags with unicode := on }
  | 'x' => some { flags with verbose := on }
  | 'U' => some flags
  | _ => none

/-- Reads letters of flags up to the colon or the parenthesis that ends them.  No letter may come
    twice, and something must follow a hyphen. -/
def readFlags : (on : Bool) → (seen : List Char) → Flags → Text → Option (Flags × Char × Text)
  | _, _, _, [] => none
  | on, seen, flags, c :: rest =>
    if c = ':' ∨ c = ')' then
      if seen.head? = some '-' then none else some (flags, c, rest)
    else if seen.contains c then none
    else if c = '-' then readFlags false (c :: seen) flags rest
    else (flags.set? c on).bind fun flags => readFlags on (c :: seen) flags rest

/-- Whether a character may stand in the name of a group. -/
def isGroupNameChar (isFirst : Bool) (c : Char) : Bool :=
  let category := Text.Category.of c
  c == '_' || Text.isAlphabetic c ||
    (!isFirst && (c == '.' || c == '[' || c == ']' || category = .decimal ||
      category = .otherNumber))

/-- Reads the name of a group and the bracket after it. -/
def readGroupName (t : Text) : Option (Text × Text) :=
  let name := t.takeWhile (· != '>')
  match name, t.drop name.length with
  | first :: more, _ :: rest =>
    if isGroupNameChar true first && more.all (isGroupNameChar false) then some (name, rest)
    else none
  | _, _ => none

/-- What a parenthesis opens. -/
inductive Opening where
  /-- A group in which the flags hold; it may be numbered, and then it may have a name. -/
  | group (flags : Flags) (numbered : Bool) (name : Option Text)
  /-- A setting of flags. -/
  | setting (flags : Flags)

/-- Reads what follows an opening parenthesis. -/
def readOpening (flags : Flags) (t : Text) : Option (Opening × Text) :=
  match skipVerbose flags t with
  | '?' :: '=' :: _ => none
  | '?' :: '!' :: _ => none
  | '?' :: '<' :: '=' :: _ => none
  | '?' :: '<' :: '!' :: _ => none
  | '?' :: 'P' :: '<' :: rest =>
    (readGroupName rest).map fun (name, rest) => (.group flags true (some name), rest)
  | '?' :: '<' :: rest =>
    (readGroupName rest).map fun (name, rest) => (.group flags true (some name), rest)
  | '?' :: rest =>
    match readFlags true [] flags rest with
    | none => none
    | some (inner, ':', rest) => some (.group inner false none, rest)
    | some (inner, _, more) => if rest.head? = some ')' then none else some (.setting inner, more)
  | t => some (.group flags true none, t)

/-! ### Branches -/

/-- The parts of a branch, one after another. -/
def joinItems (items : List Item) : Part :=
  let parts := items.filterMap fun
    | .part p => some p
    | .setting => none
  let depth := parts.foldl (fun d p => max d p.depth) 0
  ⟨sequence (parts.map (·.pattern)), if items.length ≥ 2 then depth + 1 else depth⟩

/-- The branches, one of which is meant. -/
def joinBranches (branches : List Part) : Part :=
  match branches with
  | [p] => p
  | branches =>
    ⟨choice (branches.map (·.pattern)), branches.foldl (fun d p => max d p.depth) 0 + 1⟩

/-- The items with the last one repeated. -/
def repeatLast (least : Nat) (most : Option Nat) (items : List Item) : Option (List Item) :=
  match items.getLast? with
  | some (.part p) =>
    some (items.dropLast ++ [.part ⟨p.pattern.repetition least most, p.depth + 1⟩])
  | _ => none

/-- The text without a question mark at its beginning, which would ask for the shortest match. -/
def skipLazy : Text → Text
  | '?' :: rest => rest
  | t => t

/-- Where a reader stands. -/
structure ReadState where
  /-- The rest of the text. -/
  rest : Text
  /-- The flags that hold. -/
  flags : Flags
  /-- The names of groups so far. -/
  names : List Text
  /-- The number of numbered groups so far. -/
  groups : Nat

/-- The pattern of the dot; in byte mode it could match half a character. -/
def dotPattern (flags : Flags) : Option Pattern :=
  if !flags.unicode then none
  else if flags.dotAll then some (.set .all)
  else if flags.carriageReturns then
    some (.set (CharSet.union (.single '\n') (.single '\r')).complement)
  else some (.set (CharSet.single '\n').complement)

/-- Reads one item that is neither a group nor a set. -/
def readPrimitive (flags : Flags) : Text → Option (Pattern × Text)
  | [] => none
  | '\\' :: rest =>
    (readEscape flags rest).bind fun (e, rest) => (escapePattern flags e).map (·, rest)
  | '.' :: rest => (dotPattern flags).map (·, rest)
  | '^' :: rest =>
    some (.look (if flags.multiLine then .lineStart flags.carriageReturns else .textStart), rest)
  | '$' :: rest =>
    some (.look (if flags.multiLine then .lineEnd flags.carriageReturns else .textEnd), rest)
  | c :: rest => some (charPattern flags c, rest)

/-- Reads branches up to the parenthesis that closes their group, or to the end; `fuel` bounds the
    items. -/
def readBranches :
    (fuel : Nat) → ReadState → List Part → List Item → Option (Part × ReadState)
  | 0, _, _, _ => none
  | fuel + 1, state, branches, items =>
    let flags := state.flags
    let finish (rest : Text) : Option (Part × ReadState) :=
      some (joinBranches (branches ++ [joinItems items]), { state with rest })
    let proceed (rest : Text) (items : List Item) : Option (Part × ReadState) :=
      readBranches fuel { state with rest } branches items
    match skipVerbose flags state.rest with
    | [] => finish []
    | ')' :: rest => finish (')' :: rest)
    | '|' :: rest => readBranches fuel { state with rest } (branches ++ [joinItems items]) []
    | '(' :: rest =>
      match readOpening flags rest with
      | none => none
      | some (.setting inner, rest) =>
        readBranches fuel { state with rest, flags := inner } branches (items ++ [.setting])
      | some (.group inner numbered name, rest) =>
        if name.any state.names.contains then none
        else
          let groups := if numbered then state.groups + 1 else state.groups
          match readBranches fuel ⟨rest, inner, name.toList ++ state.names, groups⟩ [] [] with
          | some (part, ⟨')' :: rest, _, names, after⟩) =>
            let pattern := if numbered then .group groups part.pattern else part.pattern
            readBranches fuel ⟨rest, flags, names, after⟩ branches
              (items ++ [.part ⟨pattern, part.depth + 1⟩])
          | _ => none
    | '[' :: rest =>
      (readSet flags rest).bind fun ((s, depth), rest) =>
        proceed rest (items ++ [.part ⟨ofSet s, depth⟩])
    | '?' :: rest => (repeatLast 0 (some 1) items).bind (proceed (skipLazy rest))
    | '*' :: rest => (repeatLast 0 none items).bind (proceed (skipLazy rest))
    | '+' :: rest => (repeatLast 1 none items).bind (proceed (skipLazy rest))
    | '\x7b' :: rest =>
      (readBounds flags rest).bind fun ((least, most), rest) =>
        (repeatLast least most items).bind (proceed (skipLazy rest))
    | t =>
      (readPrimitive flags t).bind fun (p, rest) => proceed rest (items ++ [.part ⟨p, 0⟩])

/-- The pattern that a text is. -/
def parse (source : Text) : Except Fault Pattern :=
  match readBranches (source.length + 1) ⟨source, {}, [], 0⟩ [] [] with
  | some (part, ⟨[], _, _, _⟩) =>
    if nestingLimit < part.depth then .error .malformed
    else if part.pattern.isSmall then .ok part.pattern
    else .error .tooLarge
  | _ => .error .malformed

end Pattern

end TemplateMerge
