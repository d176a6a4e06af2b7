import TemplateMerge.Pattern.CharSet

/-! Properties of characters, by their names.

    Names are compared without regard to case, blanks, hyphens and underscores, and a leading `is`
    does not count.  The properties are the general categories, under their short and long names,
    the groups of categories, and a few sets that are unions of those. -/

namespace TemplateMerge

namespace CharSet

/-- What remains of a name when case, blanks, hyphens, underscores, a leading `is` and characters
    beyond ASCII are disregarded. -/
def looseName (name : Text) : String :=
  let lower := (name.map Char.toLower)
  let body := match lower with
    | 'i' :: 's' :: rest => rest
    | _ => lower
  String.ofList (body.filter fun c => c != ' ' && c != '_' && c != '-' && c.toNat < 128)

/-- The categories with their names. -/
def categoryNames : List (List String × List Text.Category) := [
  (["lu", "uppercaseletter"], [.upper]),
  (["ll", "lowercaseletter"], [.lower]),
  (["lt", "titlecaseletter"], [.title]),
  (["lc", "casedletter"], [.upper, .lower, .title]),
  (["lm", "modifierletter"], [.modifierLetter]),
  (["lo", "otherletter"], [.otherLetter]),
  (["l", "letter"], [.upper, .lower, .title, .modifierLetter, .otherLetter]),
  (["mn", "nonspacingmark"], [.nonspacingMark]),
  (["mc", "spacingmark"], [.spacingMark]),
  (["me", "enclosingmark"], [.enclosingMark]),
  (["m", "mark", "combiningmark"], [.nonspacingMark, .spacingMark, .enclosingMark]),
  (["nd", "decimalnumber", "digit"], [.decimal]),
  (["nl", "letternumber"], [.letterNumber]),
  (["no", "othernumber"], [.otherNumber]),
  (["n", "number"], [.decimal, .letterNumber, .otherNumber]),
  (["pc", "connectorpunctuation"], [.connector]),
  (["pd", "dashpunctuation"], [.dash]),
  (["ps", "openpunctuation"], [.openPunctuation]),
  (["pe", "closepunctuation"], [.closePunctuation]),
  (["pi", "initialpunctuation"], [.initialQuote]),
  (["pf", "finalpunctuation"], [.finalQuote]),
  (["po", "otherpunctuation"], [.otherPunctuation]),
  (["p", "punctuation", "punct"], [.connector, .dash, .openPunctuation, .closePunctuation,
    .initialQuote, .finalQuote, .otherPunctuation]),
  (["sm", "mathsymbol"], [.math]),
  (["sc", "currencysymbol"], [.currency]),
  (["sk", "modifiersymbol"], [.modifierSymbol]),
  (["so", "othersymbol"], [.otherSymbol]),
  (["s", "symbol"], [.math, .currency, .modifierSymbol, .otherSymbol]),
  (["zs", "spaceseparator"], [.space]),
  (["zl", "lineseparator"], [.lineSeparator]),
  (["zp", "paragraphseparator"], [.paragraphSeparator]),
  (["z", "separator"], [.space, .lineSeparator, .paragraphSeparator]),
  (["cc", "control", "cntrl"], [.control]),
  (["cf", "format"], [.format]),
  (["co", "privateuse"], [.privateUse]),
  (["cn", "unassigned"], [.unassigned]),
  (["c", "other"], [.control, .format, .surrogate, .privateUse, .unassigned])]

/-- The set of a general category. -/
def categoryNamed? (name : String) : Option CharSet :=
  (categoryNames.find? (·.1.contains name)).map fun entry => categories entry.2

/-- The lower-case characters that are no small letters by category. -/
def otherLower : List (Nat × Nat) := [
  (0xAA, 0xAA), (0xBA, 0xBA), (0x2B0, 0x2B8), (0x2C0, 0x2C1), (0x2E0, 0x2E4), (0x345, 0x345),
  (0x37A, 0x37A), (0x10FC, 0x10FC), (0x1D2C, 0x1D6A), (0x1D78, 0x1D78), (0x1D9B, 0x1DBF),
  (0x2071, 0x2071), (0x207F, 0x207F), (0x2090, 0x209C), (0x2170, 0x217F), (0x24D0, 0x24E9),
  (0x2C7C, 0x2C7D), (0xA69C, 0xA69D), (0xA770, 0xA770), (0xA7F2, 0xA7F4), (0xA7F8, 0xA7F9),
  (0xAB5C, 0xAB5F), (0xAB69, 0xAB69), (0x10780, 0x10780), (0x10783, 0x10785),
  (0x10787, 0x107B0), (0x107B2, 0x107BA), (0x1E030, 0x1E06D)]

/-- The upper-case characters that are no capital letters by category. -/
def otherUpper : List (Nat × Nat) :=
  [(0x2160, 0x216F), (0x24B6, 0x24CF), (0x1F130, 0x1F149), (0x1F150, 0x1F169), (0x1F170, 0x1F189)]

/-- The set of a property, by its loose name. -/
def namedLoosely? (name : String) : Option CharSet :=
  match name with
  | "any" => some all
  | "assigned" => some (complement (categories [.unassigned]))
  | "ascii" => some (range '\x00' '\x7f')
  | "lowercase" | "lower" => some (union (categories [.lower]) (ofRanges otherLower))
  | "uppercase" | "upper" => some (union (categories [.upper]) (ofRanges otherUpper))
  | "whitespace" | "wspace" | "space" => some blank
  | "asciihexdigit" | "ahex" => asciiNamed? "xdigit"
  | name => categoryNamed? name

/-- The set of a property, as a pattern names it: by its name, or by the name of a general category
    after `gc=`, `gc:` or `gc!=`, the last of which takes the complement. -/
def property? (written : Text) : Option CharSet :=
  let isGeneral (key : Text) : Bool := ["gc", "generalcategory"].contains (looseName key)
  let general (key value : Text) : Option CharSet :=
    if isGeneral key then
      match looseName value with
      | "any" => some all
      | "assigned" => some (complement (categories [.unassigned]))
      | "ascii" => some (range '\x00' '\x7f')
      | name => categoryNamed? name
    else Option.none
  let key := written.takeWhile fun c => c != ':' && c != '='
  match written.drop key.length with
  | [] => namedLoosely? (looseName written)
  | separator :: value =>
    if separator = '=' ∧ key.getLast? = some '!' then
      (general key.dropLast value).map complement
    else general key value

end CharSet

end TemplateMerge
