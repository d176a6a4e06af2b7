import TemplateMerge.Table
import TemplateMerge.Text.Basic

/-! Looking types up in a table.

    A type may be namespaced (`md:heading`), and different tools spell it differently
    (`Table-Row`, `table row`).  A look-up tries, in this order,

        the type itself          md:Table-Row
        its bare name               Table-Row
        its alias                   table_row     — the first name with an equal alias -/

namespace TemplateMerge

namespace TypeName

/-- The parts of a text between separators. -/
def segments (separator : Char) : Text → List Text
  | [] => [[]]
  | c :: rest =>
    if c = separator then [] :: segments separator rest
    else
      match segments separator rest with
      | [] => [[c]]
      | part :: more => (c :: part) :: more

/-- Letters of the ASCII alphabet and the underscore. -/
def isSymbolStart (c : Char) : Bool := c.isAlpha || c == '_'

/-- Letters and digits of ASCII and the underscore. -/
def isSymbolRest (c : Char) : Bool := c.isAlphanum || c == '_'

/-- A name as programs have them. -/
def isIdentifier : Text → Bool
  | [] => false
  | c :: rest => isSymbolStart c && rest.all isSymbolRest

/-- Names joined by single colons. -/
def isSymbol (name : String) : Bool := (segments ':' name.toList).all isIdentifier

/-- The part after the last colon. -/
def bare (name : String) : String := String.ofList ((segments ':' name.toList).getLastD [])

/-- The alias of a character: small letters, and an underscore for a hyphen or a blank. -/
def aliasChar (c : Char) : Char := if c = '-' ∨ c = ' ' then '_' else c.toLower

/-- The spelling that a name shares with its variants. -/
def aliasOf (name : String) : String := String.ofList (name.toList.map aliasChar)

end TypeName

namespace Table

variable {α : Type}

/-- What a table says about a type. -/
def lookup? (t : Table α) (type : String) : Option α :=
  match t.find? type with
  | some value => some value
  | none =>
    let bare := TypeName.bare type
    match t.find? bare with
    | some value => some value
    | none =>
      (t.entries.find? fun e => TypeName.aliasOf e.1 = TypeName.aliasOf bare).map Prod.snd

end Table

end TemplateMerge
