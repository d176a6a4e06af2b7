import TemplateMerge.Text.Category
import TemplateMerge.Text.Folding

/-! Sets of characters, as patterns write them.

    A set is kept as the ranges of its code points, in increasing order and apart, so that one set
    has one form.  What operations leave behind is brought into that form by sorting the ranges and
    joining those that touch.

        b–d  ∪  0–9  ∪  a–b      ──▶      0–9   a–d

    The numbers that stand for no character, U+D800 to U+DFFF, are in no set.  In byte mode there
    are only the first 256 characters, and a complement stays among them. -/

namespace TemplateMerge

/-- A range of code points, ends included. -/
abbrev CodeRange := Nat × Nat

/-- A set of characters. -/
structure CharSet where
  /-- The ranges of its code points, in increasing order and apart. -/
  ranges : List CodeRange
  deriving DecidableEq, Repr

namespace CharSet

/-! ### Ranges -/

/-- A range before ranges that begin no earlier; those that it touches are joined with it. -/
def joinRange (r : CodeRange) : List CodeRange → List CodeRange
  | [] => [r]
  | s :: rest => if s.1 ≤ r.2 + 1 then joinRange (r.1, max r.2 s.2) rest else r :: s :: rest

/-- The part of a range that stands for characters. -/
def charsOf (r : CodeRange) : List CodeRange :=
  [(r.1, min r.2 0xD7FF), (max r.1 0xE000, min r.2 0x10FFFF)].filter fun part => part.1 ≤ part.2

/-- The set of the characters in ranges. -/
def ofRanges (ranges : List CodeRange) : CharSet :=
  ⟨((ranges.flatMap charsOf).mergeSort fun r s => r.1 ≤ s.1).foldr joinRange []⟩

/-- The code points from `first` to `last` that are in none of the ranges. -/
def gaps (first last : Nat) : List CodeRange → List CodeRange
  | [] => if first ≤ last then [(first, last)] else []
  | r :: rest =>
    (if first < r.1 ∧ first ≤ last then [(first, min last (r.1 - 1))] else []) ++
      gaps (max first (r.2 + 1)) last rest

/-! ### Sets -/

/-- Whether a character is in the set. -/
def contains (s : CharSet) (c : Char) : Bool :=
  s.ranges.any fun r => r.1 ≤ c.toNat && c.toNat ≤ r.2

/-- No character. -/
def none : CharSet := ⟨[]⟩

/-- The characters from one to another. -/
def range (first last : Char) : CharSet := ofRanges [(first.toNat, last.toNat)]

/-- A single character. -/
def single (c : Char) : CharSet := ⟨[(c.toNat, c.toNat)]⟩

/-- The characters that are in one of the sets. -/
def union (a b : CharSet) : CharSet := ofRanges (a.ranges ++ b.ranges)

/-- The union of sets. -/
def unions (sets : List CharSet) : CharSet := ofRanges (sets.flatMap ranges)

/-- The characters that are not in the set. -/
def complement (a : CharSet) : CharSet := ofRanges (gaps 0 0x10FFFF a.ranges)

/-- The first 256 characters that are not in the set. -/
def byteComplement (a : CharSet) : CharSet := ofRanges (gaps 0 255 a.ranges)

/-- The characters that are in both sets. -/
def inter (a b : CharSet) : CharSet := complement (union (complement a) (complement b))

/-- The characters of the first set that are not in the second. -/
def difference (a b : CharSet) : CharSet := inter a (complement b)

/-- The characters that are in exactly one of the sets. -/
def symmetric (a b : CharSet) : CharSet := union (difference a b) (difference b a)

/-- Every character. -/
def all : CharSet := complement none

/-- Whether the set has no character beyond U+007F. -/
def isAscii (s : CharSet) : Bool := s.ranges.all (·.2 < 128)

/-- The only character of a set that has just one. -/
def only? (s : CharSet) : Option Char :=
  match s.ranges with
  | [(first, last)] => if first = last then some (Char.ofNat first) else Option.none
  | _ => Option.none

/-! ### Case -/

/-- The characters that differ by case at most from one of the set. -/
def anyCase (s : CharSet) : CharSet :=
  let has (n : Nat) : Bool := s.contains (Char.ofNat n)
  let folds := (Text.foldPairs.filter fun p => has p.1 || has p.2).map (·.2)
  let variants := Text.foldPairs.filter fun p => folds.contains p.2
  ofRanges (s.ranges ++ variants.flatMap fun p => [(p.1, p.1), (p.2, p.2)])

/-- The characters that differ by the case of an ASCII letter at most from one of the set. -/
def anyByteCase (s : CharSet) : CharSet :=
  let letters := (List.range' 65 26).filter fun n =>
    s.contains (Char.ofNat n) || s.contains (Char.ofNat (n + 32))
  ofRanges (s.ranges ++ letters.flatMap fun n => [(n, n), (n + 32, n + 32)])

/-! ### Named sets -/

/-- The characters of some general categories. -/
def categories (members : List Text.Category) : CharSet :=
  let runs := Text.Category.runs.toList
  ofRanges <| (runs.zip (runs.drop 1)).filterMap fun (run, next) =>
    if members.contains run.2 then some (run.1, next.1 - 1) else Option.none

/-- The letters, digits, marks and connectors that words are made of, with the circled letters and
    the two joiners. -/
def word : CharSet :=
  union
    (categories [.upper, .lower, .title, .modifierLetter, .otherLetter, .nonspacingMark,
      .spacingMark, .enclosingMark, .decimal, .letterNumber, .connector])
    (ofRanges ((0x200C, 0x200D) :: Text.circledLetters))

/-- White space. -/
def blank : CharSet :=
  ofRanges (((List.range 0x3001).filter fun n => Text.isBlankChar (Char.ofNat n)).map fun n => (n, n))

/-- The decimal digits of all scripts. -/
def decimal : CharSet := categories [.decimal]

/-- The digits of ASCII. -/
def asciiDigit : CharSet := range '0' '9'

/-- The small letters of ASCII. -/
def asciiLower : CharSet := range 'a' 'z'

/-- The capital letters of ASCII. -/
def asciiUpper : CharSet := range 'A' 'Z'

/-- The letters of ASCII. -/
def asciiAlpha : CharSet := union asciiUpper asciiLower

/-- The letters and digits of ASCII. -/
def asciiAlnum : CharSet := union asciiAlpha asciiDigit

/-- The letters and digits of ASCII and the underscore. -/
def asciiWord : CharSet := union asciiAlnum (single '_')

/-- The white space of ASCII. -/
def asciiBlank : CharSet := union (range '\t' '\x0d') (single ' ')

/-- The set under a name of the form that stands between brackets and colons. -/
def asciiNamed? : String → Option CharSet
  | "alnum" => some asciiAlnum
  | "alpha" => some asciiAlpha
  | "ascii" => some (range '\x00' '\x7f')
  | "blank" => some (union (single '\t') (single ' '))
  | "cntrl" => some (union (range '\x00' '\x1f') (single '\x7f'))
  | "digit" => some asciiDigit
  | "graph" => some (range '!' '~')
  | "lower" => some asciiLower
  | "print" => some (range ' ' '~')
  | "punct" =>
    some (unions [range '!' '/', range ':' '@', range '[' (Char.ofNat 96), range '\x7b' '~'])
  | "space" => some asciiBlank
  | "upper" => some asciiUpper
  | "word" => some asciiWord
  | "xdigit" => some (unions [asciiDigit, range 'A' 'F', range 'a' 'f'])
  | _ => Option.none

end CharSet

end TemplateMerge
