import TemplateMerge.Text.Basic

/-! Arguments of a command line.

    An argument is a flag, an option with a value, or a positional one.

        --diff                          a flag
        --output p   --output=p         an option with a value
        -o p   -op   -o=p               the same by its letter
        p                               positional
        --                              all that follow are positional

    A value that is an argument of its own does not begin with a hyphen, unless it is only a
    hyphen.  No flag and no option comes twice. -/

namespace TemplateMerge

namespace Arguments

/-- The flags and options of a command. -/
structure Grammar where
  /-- The names of the flags. -/
  flags : List String
  /-- The names of the options. -/
  options : List String
  /-- The letters of options, with their names. -/
  letters : List (Char × String)
  deriving DecidableEq, Repr

/-- A part of a command line. -/
inductive Item where
  | positional (value : String)
  | flag (name : String)
  | option (name value : String)
  deriving DecidableEq, Repr

/-- What one argument is. -/
inductive Reading where
  /-- Nothing that the grammar knows. -/
  | unknown
  /-- A part of its own. -/
  | whole (item : Item)
  /-- An option whose value is to follow. -/
  | awaiting (name : String)
  deriving DecidableEq, Repr

/-- The argument that ends flags and options. -/
def separator : String := "--"

/-- Whether an argument can only be a flag or an option. -/
def isDashed (argument : String) : Bool :=
  match argument.toList with
  | '-' :: _ :: _ => true
  | _ => false

namespace Grammar

/-- Reads what follows two hyphens. -/
def readLong (g : Grammar) (body : Text) : Reading :=
  let name := String.ofList (body.takeWhile (· ≠ '='))
  match body.dropWhile (· ≠ '=') with
  | [] =>
    if g.flags.contains name then .whole (.flag name)
    else if g.options.contains name then .awaiting name
    else .unknown
  | _ :: value =>
    if g.options.contains name then .whole (.option name (String.ofList value)) else .unknown

/-- Reads what follows one hyphen. -/
def readLetter (g : Grammar) (letter : Char) (value : Text) : Reading :=
  match g.letters.lookup letter, value with
  | none, _ => .unknown
  | some name, [] => .awaiting name
  | some name, '=' :: value => .whole (.option name (String.ofList value))
  | some name, value => .whole (.option name (String.ofList value))

/-- Reads one argument. -/
def readOne (g : Grammar) (argument : String) : Reading :=
  match argument.toList with
  | '-' :: '-' :: body => g.readLong body
  | '-' :: letter :: value => g.readLetter letter value
  | _ => .whole (.positional argument)

/-- Reads arguments. -/
def read (g : Grammar) : List String → Option (List Item)
  | [] => some []
  | argument :: rest =>
    if argument = separator then some (rest.map .positional)
    else
      match g.readOne argument, rest with
      | .unknown, _ => none
      | .whole item, rest => (g.read rest).map (item :: ·)
      | .awaiting _, [] => none
      | .awaiting name, value :: rest =>
        if isDashed value then none else (g.read rest).map (.option name value :: ·)

/-- Reads arguments up to the first positional one, which is the name of a command; the arguments
    after it are left. -/
def readToCommand (g : Grammar) : List String → Option (List Item × String × List String)
  | [] => none
  | argument :: rest =>
    if argument = separator then none
    else
      match g.readOne argument, rest with
      | .unknown, _ => none
      | .whole (.positional name), rest => some ([], name, rest)
      | .whole item, rest =>
        (g.readToCommand rest).map fun (items, found) => (item :: items, found)
      | .awaiting _, [] => none
      | .awaiting name, value :: rest =>
        if isDashed value then none
        else (g.readToCommand rest).map fun (items, found) => (.option name value :: items, found)

end Grammar

/-- The name of a flag or an option. -/
def Item.name? : Item → Option String
  | .positional _ => none
  | .flag name => some name
  | .option name _ => some name

/-- Whether no flag and no option comes twice. -/
def areDistinct (items : List Item) : Bool :=
  let names := items.filterMap Item.name?
  names.eraseDups.length == names.length

/-- The positional arguments. -/
def positionals (items : List Item) : List String :=
  items.filterMap fun
    | .positional value => some value
    | _ => none

/-- Whether a flag is given. -/
def hasFlag (items : List Item) (name : String) : Bool := items.contains (.flag name)

/-- The value of an option. -/
def value? (items : List Item) (name : String) : Option String :=
  items.findSome? fun
    | .option other value => if other = name then some value else none
    | _ => none

end Arguments

end TemplateMerge
