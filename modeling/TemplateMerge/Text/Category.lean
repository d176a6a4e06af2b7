import TemplateMerge.Text.Basic
import TemplateMerge.Text.Category.Runs

/-! General categories of characters, and the classes built from them.

    `Category.of` looks a character up in the table of runs: the category of the last run that
    begins at or before it.  Everything else here is a union of categories and a few characters
    that a property adds to them (`Grapheme_Extend`, the circled letters).

    The categories are those of version 16 of the standard.  What is shown when a text is quoted
    follows version 17: `laterAssigned` are the characters that it adds and that are seen. -/

namespace TemplateMerge

namespace Text

/-- The general category of a character. -/
inductive Category where
  | upper | lower | title | modifierLetter | otherLetter
  | nonspacingMark | spacingMark | enclosingMark
  | decimal | letterNumber | otherNumber
  | connector | dash | openPunctuation | closePunctuation | initialQuote | finalQuote
  | otherPunctuation
  | math | currency | modifierSymbol | otherSymbol
  | space | lineSeparator | paragraphSeparator
  | control | format | surrogate | privateUse | unassigned
  deriving DecidableEq, Repr

namespace Category

/-- Every category with its two-letter abbreviation. -/
def abbreviations : List (String × Category) := [
  ("Lu", upper), ("Ll", lower), ("Lt", title), ("Lm", modifierLetter), ("Lo", otherLetter),
  ("Mn", nonspacingMark), ("Mc", spacingMark), ("Me", enclosingMark),
  ("Nd", decimal), ("Nl", letterNumber), ("No", otherNumber),
  ("Pc", connector), ("Pd", dash), ("Ps", openPunctuation), ("Pe", closePunctuation),
  ("Pi", initialQuote), ("Pf", finalQuote), ("Po", otherPunctuation),
  ("Sm", math), ("Sc", currency), ("Sk", modifierSymbol), ("So", otherSymbol),
  ("Zs", space), ("Zl", lineSeparator), ("Zp", paragraphSeparator),
  ("Cc", control), ("Cf", format), ("Cs", surrogate), ("Co", privateUse), ("Cn", unassigned)]

/-- The number that hexadecimal digits denote, letters in lower case. -/
def hexValue (digits : List Char) : Nat :=
  digits.foldl (fun n c => 16 * n + (if c.isDigit then c.toNat - 48 else c.toNat - 87)) 0

/-- One entry of the table of runs. -/
def parseRun (entry : List Char) : Nat × Category :=
  let digits := entry.takeWhile (· != ' ')
  let name := String.ofList (entry.drop (digits.length + 1))
  (hexValue digits, (abbreviations.lookup name).getD unassigned)

/-- The entries of one row of the table, which commas and blanks set apart. -/
def parseRow (row : String) : List (Nat × Category) :=
  ((row.toList.splitBy fun _ c => c != ',').map fun entry =>
    entry.dropWhile fun c => c == ',' || c == ' ').filterMap fun entry =>
      if entry.isEmpty then none else some (parseRun entry)

/-- The first code point of every run, with the category of the run. -/
def runs : Array (Nat × Category) := (runsText.flatMap parseRow).toArray

/-- The number of the entries among `[low, low + count)` that begin at or before `n`, plus `low`,
    in a table in increasing order. -/
def countUpTo (table : Array (Nat × Category)) (n : Nat) : (fuel low count : Nat) → Nat
  | 0, low, _ => low
  | fuel + 1, low, count =>
    if count = 0 then low
    else
      let half := count / 2
      match table[low + half]? with
      | none => low
      | some (start, _) =>
        if start ≤ n then countUpTo table n fuel (low + half + 1) (count - half - 1)
        else countUpTo table n fuel low half

/-- The general category of `c`. -/
def of (c : Char) : Category :=
  match runs[countUpTo runs c.toNat runs.size 0 runs.size - 1]? with
  | some (_, category) => category
  | none => unassigned

/-- Letters of any kind. -/
def isLetter : Category → Bool
  | upper | lower | title | modifierLetter | otherLetter => true
  | _ => false

/-- Marks of any kind. -/
def isMark : Category → Bool
  | nonspacingMark | spacingMark | enclosingMark => true
  | _ => false

/-- Controls, formats, separators other than the plain space, and what is not assigned. -/
def isInvisible : Category → Bool
  | control | format | surrogate | privateUse | unassigned => true
  | space | lineSeparator | paragraphSeparator => true
  | _ => false

end Category

/-- Whether `c` lies in one of the ranges, ends included. -/
def inRanges (ranges : List (Nat × Nat)) (c : Char) : Bool :=
  ranges.any fun (first, last) => first ≤ c.toNat && c.toNat ≤ last

/-- The characters that extend the one before them and are no nonspacing or enclosing marks. -/
def otherExtenders : List (Nat × Nat) := [
  (0x9BE, 0x9BE), (0x9D7, 0x9D7), (0xB3E, 0xB3E), (0xB57, 0xB57), (0xBBE, 0xBBE), (0xBD7, 0xBD7),
  (0xCC0, 0xCC0), (0xCC2, 0xCC2), (0xCC7, 0xCC8), (0xCCA, 0xCCB), (0xCD5, 0xCD6), (0xD3E, 0xD3E),
  (0xD57, 0xD57), (0xDCF, 0xDCF), (0xDDF, 0xDDF), (0x1715, 0x1715), (0x1734, 0x1734),
  (0x1B35, 0x1B35), (0x1B3B, 0x1B3B), (0x1B3D, 0x1B3D), (0x1B43, 0x1B44), (0x1BAA, 0x1BAA),
  (0x1BF2, 0x1BF3), (0x200C, 0x200C), (0x302E, 0x302F), (0xA953, 0xA953), (0xA9C0, 0xA9C0),
  (0x111C0, 0x111C0), (0x11235, 0x11235), (0x1133E, 0x1133E), (0x1134D, 0x1134D),
  (0x11357, 0x11357), (0x113B8, 0x113B8), (0x113C2, 0x113C2), (0x113C5, 0x113C5),
  (0x113C7, 0x113C9), (0x113CF, 0x113CF), (0x114B0, 0x114B0), (0x114BD, 0x114BD),
  (0x115AF, 0x115AF), (0x116B6, 0x116B6), (0x11930, 0x11930), (0x1193D, 0x1193D),
  (0x11F41, 0x11F41), (0x16FF0, 0x16FF1), (0x1D165, 0x1D166), (0x1D16D, 0x1D172),
  (0xE0020, 0xE007F)]

/-- The characters that join the one before them, the half-width voicing marks left aside, which
    stand for themselves. -/
def isExtender (c : Char) : Bool :=
  match Category.of c with
  | .nonspacingMark | .enclosingMark => true
  | _ => inRanges otherExtenders c

/-- The letters in circles and squares, which are symbols by category. -/
def circledLetters : List (Nat × Nat) :=
  [(0x24B6, 0x24E9), (0x1F130, 0x1F149), (0x1F150, 0x1F169), (0x1F170, 0x1F189)]

/-- Ranges in which every mark is alphabetic: vowel signs and the like, but no viramas. -/
def alphabeticMarks : List (Nat × Nat) := [
  (0x345, 0x345), (0x363, 0x36F), (0x5B0, 0x657), (0x659, 0x6DC), (0x6E1, 0x6E8), (0x6ED, 0x73F),
  (0x7A6, 0x7B0), (0x816, 0x817), (0x81B, 0x82C), (0x897, 0x897), (0x8D4, 0x8DF), (0x8E3, 0x8E9),
  (0x8F0, 0x93B), (0x93E, 0x94C), (0x94E, 0x94F), (0x955, 0x983), (0x9BE, 0x9CC), (0x9D7, 0x9E3),
  (0xA01, 0xA03), (0xA3E, 0xA4C), (0xA51, 0xA83), (0xABE, 0xACC), (0xAE2, 0xAFC), (0xB01, 0xB03),
  (0xB3E, 0xB4C), (0xB56, 0xBCC), (0xBD7, 0xC04), (0xC3E, 0xC4C), (0xC55, 0xC83), (0xCBE, 0xCCC),
  (0xCD5, 0xD03), (0xD3E, 0xD4C), (0xD57, 0xD83), (0xDCF, 0xE3A), (0xE4D, 0xE4D), (0xEB1, 0xEB9),
  (0xEBB, 0xEBC), (0xECD, 0xECD), (0xF71, 0xF83), (0xF8D, 0xFBC), (0x102B, 0x1036),
  (0x1038, 0x1038), (0x103B, 0x109D), (0x1712, 0x1713), (0x1732, 0x1733), (0x1752, 0x1773),
  (0x17B6, 0x17C8), (0x1885, 0x1938), (0x1A17, 0x1A5E), (0x1A61, 0x1A74), (0x1ABF, 0x1AC0),
  (0x1ACC, 0x1ACE), (0x1B00, 0x1B04), (0x1B35, 0x1B43), (0x1B80, 0x1BA9), (0x1BAC, 0x1BAD),
  (0x1BE7, 0x1BF1), (0x1C24, 0x1C36), (0x1DD3, 0x1DF4), (0x2DE0, 0x2DFF), (0xA674, 0xA67B),
  (0xA69E, 0xA69F), (0xA802, 0xA802), (0xA80B, 0xA827), (0xA880, 0xA8C3), (0xA8C5, 0xA8C5),
  (0xA8FF, 0xA92A), (0xA947, 0xA952), (0xA980, 0xA983), (0xA9B4, 0xA9BF), (0xA9E5, 0xAABE),
  (0xAAEB, 0xAAF5), (0xABE3, 0xABEA), (0xFB1E, 0xFB1E), (0x10376, 0x10A0F), (0x10D24, 0x10D69),
  (0x10EAB, 0x10EFC), (0x11000, 0x11045), (0x11073, 0x11074), (0x11080, 0x110B8),
  (0x110C2, 0x11132), (0x11145, 0x11146), (0x11180, 0x111BF), (0x111CE, 0x11234),
  (0x11237, 0x112E8), (0x11300, 0x11303), (0x1133E, 0x1134C), (0x11357, 0x11363),
  (0x113B8, 0x113CD), (0x11435, 0x11441), (0x11443, 0x11445), (0x114B0, 0x114C1),
  (0x115AF, 0x115BE), (0x115DC, 0x1163E), (0x11640, 0x116B5), (0x1171D, 0x1172A),
  (0x1182C, 0x11838), (0x11930, 0x1193C), (0x11940, 0x11942), (0x119D1, 0x119DF),
  (0x119E4, 0x11A0A), (0x11A35, 0x11A3E), (0x11A51, 0x11A97), (0x11B60, 0x11C3E),
  (0x11C92, 0x11D41), (0x11D43, 0x11D43), (0x11D47, 0x11D96), (0x11EF3, 0x11F40),
  (0x1611E, 0x1612E), (0x16F4F, 0x16F92), (0x16FF0, 0x16FF1), (0x1BC9E, 0x1BC9E),
  (0x1E000, 0x1E08F), (0x1E6E3, 0x1E6F5), (0x1E947, 0x1E947)]

/-- A letter, or a mark or a number that stands among letters. -/
def isAlphabetic (c : Char) : Bool :=
  let category := Category.of c
  category.isLetter || category = .letterNumber || inRanges circledLetters c ||
    (category.isMark && inRanges alphabeticMarks c)

/-- Characters that are seen and were assigned after the table of runs was drawn up. -/
def laterAssigned : List (Nat × Nat) := [
  (0x88F, 0x88F), (0xC5C, 0xC5C), (0xCDC, 0xCDC), (0x20C1, 0x20C1), (0x2B96, 0x2B96),
  (0xA7CE, 0xA7CF), (0xA7D2, 0xA7D2), (0xA7D4, 0xA7D4), (0xA7F1, 0xA7F1), (0xFBC3, 0xFBD2),
  (0xFD90, 0xFD91), (0xFDC8, 0xFDCE), (0x10940, 0x10959), (0x10EC5, 0x10EC7), (0x10ED0, 0x10ED8),
  (0x11B61, 0x11B61), (0x11B65, 0x11B65), (0x11B67, 0x11B67), (0x11DB0, 0x11DDB),
  (0x11DE0, 0x11DE9), (0x16EA0, 0x16EB8), (0x16EBB, 0x16ED3), (0x16FF2, 0x16FF6),
  (0x187F8, 0x187FF), (0x18D09, 0x18D1E), (0x18D80, 0x18DF2), (0x1CCFA, 0x1CCFC),
  (0x1CEBA, 0x1CED0), (0x1CEE0, 0x1CEF0), (0x1E6C0, 0x1E6DE), (0x1E6E0, 0x1E6E2),
  (0x1E6E4, 0x1E6E5), (0x1E6E7, 0x1E6ED), (0x1E6F0, 0x1E6F4), (0x1E6FE, 0x1E6FF),
  (0x1F6D8, 0x1F6D8), (0x1F777, 0x1F77A), (0x1F8D0, 0x1F8D8), (0x1FA54, 0x1FA57),
  (0x1FA8A, 0x1FA8A), (0x1FA8E, 0x1FA8E), (0x1FAC8, 0x1FAC8), (0x1FACD, 0x1FACD),
  (0x1FAEA, 0x1FAEA), (0x1FAEF, 0x1FAEF), (0x1FBFA, 0x1FBFA), (0x2B73A, 0x2B73F),
  (0x2CEA2, 0x2CEAD), (0x323B0, 0x33479)]

/-- Letters that fill a place and are not seen. -/
def fillers : List (Nat × Nat) := [(0x115F, 0x1160), (0x3164, 0x3164), (0xFFA0, 0xFFA0)]

/-- A character that is shown as itself when a text is quoted. -/
def isPrintable (c : Char) : Bool :=
  c == ' ' || inRanges laterAssigned c || !((Category.of c).isInvisible || inRanges fillers c)

end Text

end TemplateMerge
