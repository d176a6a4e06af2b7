import TemplateMerge.Pattern.CharSet

/-! Patterns, in a normal form.

    A pattern says what a piece of text may look like.  Patterns are put together by `sequence`,
    `choice` and `repetition`, which keep them in a normal form: what can be one text or one set
    is one, a sequence has no sequence among its parts, a choice no choice among its branches, and
    parts with which all branches begin stand before the choice.

        a · bc                  ──▶   abc
        a | [0-9]               ──▶   [a0-9]
        \d x | \d y | \d z      ──▶   \d [xyz] -/

namespace TemplateMerge

/-- What can be asked of a gap in a text, by the characters on either side of it. -/
inductive Look where
  /-- The gap is at the beginning of the text. -/
  | textStart
  /-- The gap is at the end of the text. -/
  | textEnd
  /-- The gap is at the beginning of a line; carriage returns end lines, too, if so asked. -/
  | lineStart (carriageReturns : Bool)
  /-- The gap is at the end of a line; carriage returns end lines, too, if so asked. -/
  | lineEnd (carriageReturns : Bool)
  /-- Exactly one side is a character of the set. -/
  | boundary (letters : CharSet)
  /-- Both sides or none are characters of the set. -/
  | noBoundary (letters : CharSet)
  /-- Only the right side is a character of the set. -/
  | wordStart (letters : CharSet)
  /-- Only the left side is a character of the set. -/
  | wordEnd (letters : CharSet)
  /-- The left side is no character of the set. -/
  | wordStartHalf (letters : CharSet)
  /-- The right side is no character of the set. -/
  | wordEndHalf (letters : CharSet)
  deriving DecidableEq, Repr

/-- A pattern. -/
inductive Pattern where
  /-- The empty text. -/
  | empty
  /-- A text of at least one character. -/
  | text (t : Text)
  /-- One character of a set. -/
  | set (s : CharSet)
  /-- The empty text, in some gaps. -/
  | look (l : Look)
  /-- Patterns one after another. -/
  | seq (parts : List Pattern)
  /-- One of several patterns. -/
  | alt (branches : List Pattern)
  /-- A pattern at least and, if so said, at most a number of times. -/
  | iterate (p : Pattern) (least : Nat) (most : Option Nat)
  /-- A numbered group. -/
  | group (number : Nat) (p : Pattern)
  deriving BEq, Repr

namespace Pattern

/-! ### Lengths -/

/-- The length of the shortest texts that match, unless a set without characters stands in the
    way. -/
def shortest? : Pattern → Option Nat
  | empty | look _ => some 0
  | text t => some t.length
  | set s => if s.ranges.isEmpty then none else some 1
  | seq parts => seqShortest? parts
  | alt branches => altShortest? branches
  | iterate p least _ => (shortest? p).map (least * ·)
  | group _ p => shortest? p
where
  /-- The sum of the lengths. -/
  seqShortest? : List Pattern → Option Nat
    | [] => some 0
    | p :: rest => do return (← shortest? p) + (← seqShortest? rest)
  /-- The least of the lengths. -/
  altShortest? : List Pattern → Option Nat
    | [] => none
    | [p] => shortest? p
    | p :: rest => do return min (← shortest? p) (← altShortest? rest)

/-- Whether only the empty text can match, by the form of the pattern. -/
def isWidthless : Pattern → Bool
  | empty | look _ => true
  | text _ | set _ => false
  | seq parts | alt parts => allWidthless parts
  | iterate p _ most => isWidthless p && most.isSome
  | group _ p => isWidthless p
where
  /-- Whether this holds of all. -/
  allWidthless : List Pattern → Bool
    | [] => true
    | p :: rest => isWidthless p && allWidthless rest

/-! ### Putting patterns together -/

/-- The pattern of one character of a set. -/
def ofSet (s : CharSet) : Pattern :=
  match s.only? with
  | some c => text [c]
  | none => set s

/-- The parts of a pattern. -/
def parts : Pattern → List Pattern
  | empty => []
  | seq parts => parts
  | p => [p]

/-- The branches of a pattern. -/
def branches : Pattern → List Pattern
  | alt branches => branches
  | p => [p]

/-- A part before others; two texts in a row become one. -/
def prepend : Pattern → List Pattern → List Pattern
  | text t, text u :: rest => text (t ++ u) :: rest
  | p, rest => p :: rest

/-- Patterns one after another. -/
def sequence (patterns : List Pattern) : Pattern :=
  match (patterns.flatMap parts).foldr prepend [] with
  | [] => empty
  | [p] => p
  | parts => seq parts

/-- The characters of a pattern that always matches exactly one. -/
def chars? : Pattern → Option CharSet
  | text [c] => some (.single c)
  | set s => some s
  | _ => none

/-- The beginning that two lists of parts have in common. -/
def commonStart : List Pattern → List Pattern → List Pattern
  | p :: ps, q :: qs => if p == q then p :: commonStart ps qs else []
  | _, _ => []

/-- One of several patterns, none of which is itself a choice, without regard to how they begin. -/
def choiceOf (branches : List Pattern) : Pattern :=
  match branches with
  | [] => set .none
  | [p] => p
  | _ =>
    match branches.mapM chars? with
    | some sets => ofSet (.unions sets)
    | none => alt branches

/-- The parts with which all branches begin, where all of them are sequences. -/
def sharedStart (branches : List Pattern) : List Pattern :=
  match branches with
  | seq first :: rest =>
    rest.foldl (fun shared p => match p with
      | seq parts => commonStart shared parts
      | _ => []) first
  | _ => []

/-- One of several patterns. -/
def choice (patterns : List Pattern) : Pattern :=
  let branches := patterns.flatMap branches
  let shared := sharedStart branches
  if shared.isEmpty ∨ branches.length < 2 then choiceOf branches
  else
    let rests := branches.map fun p => sequence (p.parts.drop shared.length)
    sequence (shared ++ [choiceOf (rests.flatMap Pattern.branches)])

/-- A pattern at least and, if so said, at most a number of times.  What takes no place is not
    repeated. -/
def repetition (p : Pattern) (least : Nat) (most : Option Nat) : Pattern :=
  let (least, most) :=
    if p.isWidthless then (min least 1, some ((most.map (min 1)).getD 1)) else (least, most)
  if least = 0 ∧ most = some 0 then empty
  else if least = 1 ∧ most = some 1 then p
  else iterate p least most

end Pattern

end TemplateMerge
