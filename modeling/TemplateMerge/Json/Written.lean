import TemplateMerge.Json.Basic
import TemplateMerge.Text.Basic

/-! JSON documents as they are written.

    `Written` keeps what a document says before anything is made of it: number literals digit by
    digit, every field of an object even when a name comes twice, and strings whose escapes do not
    form characters.  `Written.ofText?` reads a document, `Written.toJson?` makes a value of it;
    the value exists when every number has a place among the doubles, every string has characters,
    and brackets are nested no deeper than the room there is. -/

namespace TemplateMerge

/-- A number literal. -/
structure NumberLiteral where
  /-- Whether a minus sign stands before it. -/
  negative : Bool
  /-- The digits before the point. -/
  whole : List Nat
  /-- The digits after the point. -/
  fraction : List Nat
  /-- Whether the exponent has a minus sign, and its digits. -/
  power : Option (Bool × List Nat)
  /-- Whether there is neither a point nor an exponent. -/
  isWhole : Bool
  deriving DecidableEq, Repr

/-- A JSON document as it is written.  A string is `none` when its escapes are half a surrogate
    pair. -/
inductive Written where
  | null
  | bool (b : Bool)
  | number (literal : NumberLiteral)
  | string (s : Option String)
  | array (items : List Written)
  | object (fields : List (Option String × Written))
  deriving Repr

namespace NumberLiteral

/-- The largest number that digits are gathered up to. -/
def gatherLimit : Nat := Nat.pow 2 64 - 1

/-- Appends digits to a number for as long as it stays within the limit, and counts the digits that
    are left. -/
def gather : Nat → List Nat → Nat × Nat
  | n, [] => (n, 0)
  | n, d :: digits =>
    if 10 * n + d ≤ gatherLimit then gather (10 * n + d) digits else (n, digits.length + 1)

/-- A power of ten as a double. -/
def powerOfTen (n : Nat) : Float := Float.ofScientific 1 false n

/-- `x · 10^power`, by one multiplication or division; powers below `-308` are divided out in
    steps, three of which bring every gathered number to zero.  There is no result when it would be
    infinite. -/
def timesPower : (steps : Nat) → Float → Int → Option Float
  | 0, _, _ => some 0
  | steps + 1, x, power =>
    if power.natAbs ≤ 308 then
      if 0 ≤ power then
        let product := x * powerOfTen power.toNat
        if product.isInf then none else some product
      else some (x / powerOfTen power.natAbs)
    else if x == 0 then some x
    else if 0 ≤ power then none
    else timesPower steps (x / powerOfTen 308) (power + 308)

/-- A magnitude with the sign of the literal. -/
def withSign (l : NumberLiteral) (x : Float) : Float := if l.negative then -x else x

/-- The number a literal stands for, if it has a place among the doubles.  A whole literal of at
    most 64 bits is a whole number; minus zero is a fraction. -/
def toNumber? (l : NumberLiteral) : Option Json.Number :=
  let (gathered, left) := gather 0 l.whole
  if l.isWhole && left == 0 then
    if !l.negative then some (.natural gathered)
    else if gathered = 0 ∨ gathered > Nat.pow 2 63 then
      some (.real (-gathered.toUInt64.toFloat))
    else some (.negative gathered)
  else
    let (digits, dropped) := gather gathered l.fraction
    let place : Int := (left : Int) - (l.fraction.length - dropped : Nat)
    let power : Option Int :=
      match l.power with
      | none => some place
      | some (below, exponent) =>
        let size : Nat := exponent.foldl (fun n d => 10 * n + d) 0
        if size ≤ Nat.pow 2 31 - 1 then some (if below then place - size else place + size)
        else if digits ≠ 0 ∧ !below then none
        else some (-(Nat.pow 2 31 : Int))
    power.bind fun power =>
      (timesPower 4 digits.toUInt64.toFloat power).map fun x => .real (l.withSign x)

end NumberLiteral

namespace Written

/-- The value of a hexadecimal digit. -/
def hexDigit? (c : Char) : Option Nat :=
  if c.isDigit then some (c.toNat - 48)
  else if 'a' ≤ c ∧ c ≤ 'f' then some (c.toNat - 87)
  else if 'A' ≤ c ∧ c ≤ 'F' then some (c.toNat - 55)
  else none

/-- What stands for one character, or half of one, inside a string. -/
inductive Piece where
  | char (c : Char)
  | unit (n : Nat)

/-- The character of a one-letter escape. -/
def escape? : Char → Option Char
  | '"' => some '"'
  | '\\' => some '\\'
  | '/' => some '/'
  | 'b' => some '\x08'
  | 'f' => some '\x0c'
  | 'n' => some '\n'
  | 'r' => some '\r'
  | 't' => some '\t'
  | _ => none

/-- Reads the rest of a string, after the opening quote, and what follows it. -/
def readPieces : Text → Option (List Piece × Text)
  | [] => none
  | '"' :: rest => some ([], rest)
  | '\\' :: 'u' :: a :: b :: c :: d :: rest => do
    let n := 16 * (16 * (16 * (← hexDigit? a) + (← hexDigit? b)) + (← hexDigit? c)) + (← hexDigit? d)
    let (pieces, rest) ← readPieces rest
    some (.unit n :: pieces, rest)
  | '\\' :: c :: rest => do
    let c ← escape? c
    let (pieces, rest) ← readPieces rest
    some (.char c :: pieces, rest)
  | c :: rest =>
    if c.toNat < 0x20 then none
    else do
      let (pieces, rest) ← readPieces rest
      some (.char c :: pieces, rest)

/-- The characters of a string; there are none for half a surrogate pair. -/
def decodePieces : List Piece → Option (List Char)
  | [] => some []
  | .char c :: rest => (decodePieces rest).map (c :: ·)
  | .unit high :: .unit low :: rest =>
    if 0xD800 ≤ high ∧ high ≤ 0xDBFF then
      if 0xDC00 ≤ low ∧ low ≤ 0xDFFF then
        (decodePieces rest).map (Char.ofNat (0x10000 + (high - 0xD800) * 0x400 + (low - 0xDC00)) :: ·)
      else none
    else if 0xDC00 ≤ high ∧ high ≤ 0xDFFF then none
    else (decodePieces (.unit low :: rest)).map (Char.ofNat high :: ·)
  | .unit n :: rest =>
    if 0xD800 ≤ n ∧ n ≤ 0xDFFF then none else (decodePieces rest).map (Char.ofNat n :: ·)

/-- Reads the rest of a string, after the opening quote. -/
def readString (t : Text) : Option (Option String × Text) :=
  (readPieces t).map fun (pieces, rest) => ((decodePieces pieces).map String.ofList, rest)

/-- Reads digits. -/
def readDigits (t : Text) : List Nat × Text :=
  ((t.takeWhile Char.isDigit).map fun c => c.toNat - 48, t.dropWhile Char.isDigit)

/-- Reads a number literal. -/
def readNumber (t : Text) : Option (NumberLiteral × Text) := do
  let (negative, t) := match t with
    | '-' :: rest => (true, rest)
    | _ => (false, t)
  let (whole, t) := match t with
    | '0' :: rest => ([0], rest)
    | _ => readDigits t
  if whole.isEmpty then none
  let (fraction, t, hasPoint) ← match t with
    | '.' :: rest =>
      let (digits, rest) := readDigits rest
      if digits.isEmpty then none else some (digits, rest, true)
    | _ => some ([], t, false)
  let exponent (rest : Text) : Option (NumberLiteral × Text) :=
    let (below, rest) := match rest with
      | '-' :: rest => (true, rest)
      | '+' :: rest => (false, rest)
      | _ => (false, rest)
    let (digits, rest) := readDigits rest
    if digits.isEmpty then none
    else some (⟨negative, whole, fraction, some (below, digits), false⟩, rest)
  match t with
  | 'e' :: rest => exponent rest
  | 'E' :: rest => exponent rest
  | _ => some (⟨negative, whole, fraction, none, !hasPoint⟩, t)

/-- The text without leading white space of JSON. -/
def skipBlanks (t : Text) : Text :=
  t.dropWhile fun c => c == ' ' || c == '\n' || c == '\t' || c == '\r'

mutual

/-- Reads a value; `fuel` bounds the calls, of which every two take a character. -/
def readValue : (fuel : Nat) → Text → Option (Written × Text)
  | 0, _ => none
  | fuel + 1, t =>
    match skipBlanks t with
    | '"' :: rest => (readString rest).map fun (s, rest) => (.string s, rest)
    | '[' :: rest =>
      match skipBlanks rest with
      | ']' :: rest => some (.array [], rest)
      | _ => (readItems fuel rest).map fun (items, rest) => (.array items, rest)
    | '\x7b' :: rest =>
      match skipBlanks rest with
      | '\x7d' :: rest => some (.object [], rest)
      | _ => (readFields fuel rest).map fun (fields, rest) => (.object fields, rest)
    | 'n' :: 'u' :: 'l' :: 'l' :: rest => some (.null, rest)
    | 't' :: 'r' :: 'u' :: 'e' :: rest => some (.bool true, rest)
    | 'f' :: 'a' :: 'l' :: 's' :: 'e' :: rest => some (.bool false, rest)
    | t => (readNumber t).map fun (n, rest) => (.number n, rest)

/-- Reads the items of an array, of which there is at least one, and the bracket after them. -/
def readItems : (fuel : Nat) → Text → Option (List Written × Text)
  | 0, _ => none
  | fuel + 1, t =>
    (readValue fuel t).bind fun (item, rest) =>
      match skipBlanks rest with
      | ',' :: rest => (readItems fuel rest).map fun (items, rest) => (item :: items, rest)
      | ']' :: rest => some ([item], rest)
      | _ => none

/-- Reads the fields of an object, of which there is at least one, and the brace after them. -/
def readFields : (fuel : Nat) → Text → Option (List (Option String × Written) × Text)
  | 0, _ => none
  | fuel + 1, t =>
    match skipBlanks t with
    | '"' :: rest =>
      (readString rest).bind fun (name, rest) =>
        match skipBlanks rest with
        | ':' :: rest =>
          (readValue fuel rest).bind fun (value, rest) =>
            match skipBlanks rest with
            | ',' :: rest =>
              (readFields fuel rest).map fun (fields, rest) => ((name, value) :: fields, rest)
            | '\x7d' :: rest => some ([(name, value)], rest)
            | _ => none
        | _ => none
    | _ => none

end

/-- The document that a text holds, with nothing but white space around it. -/
def ofText? (t : Text) : Option Written :=
  match readValue (2 * t.length + 2) t with
  | some (value, rest) => if (skipBlanks rest).isEmpty then some value else none
  | none => none

mutual

/-- The value of a document whose brackets are nested in less than `room`; of two fields with one
    name the later counts. -/
def toJson? (room : Nat) : Written → Option Json
  | .null => some .null
  | .bool b => some (.bool b)
  | .number literal => literal.toNumber?.map .number
  | .string s => s.map .string
  | .array items => if room ≤ 1 then none else (itemsToJson? (room - 1) items).map .array
  | .object fields =>
    if room ≤ 1 then none
    else (fieldsToJson? (room - 1) fields).map fun fields => .object (Table.ofList fields).entries

/-- The values of the items of an array. -/
def itemsToJson? (room : Nat) : List Written → Option (List Json)
  | [] => some []
  | item :: rest => do
    let item ← toJson? room item
    let rest ← itemsToJson? room rest
    some (item :: rest)

/-- The values of the fields of an object. -/
def fieldsToJson? (room : Nat) : List (Option String × Written) → Option (List (String × Json))
  | [] => some []
  | (name, value) :: rest => do
    let name ← name
    let value ← toJson? room value
    let rest ← fieldsToJson? room rest
    some ((name, value) :: rest)

end

end Written

end TemplateMerge
