import TemplateMerge.Decimal.Shortest

/-! How floating-point numbers are written.

    Both layouts write the shortest digits that read back.

    In *messages* a number is positional whatever its size, and a whole number has no point.  Of two
    equally near decimals the greater is written:

        0.5     3     1000000000000000000000     0.000001     NaN     -inf     -0

    In *JSON* a number always shows that it is a fraction; at most sixteen places stand before the
    point and at most four zeros after it, beyond which an exponent with its sign is written.  Of
    two equally near decimals the even one is written:

        0.5     3.0     1e+21     1e-6     -0.0 -/

namespace TemplateMerge

namespace Decimal

/-- The digits as characters. -/
def digitChars (d : Decimal) : List Char := Nat.toDigits 10 d.digits

/-- The number of places before the decimal point; negative when zeros follow the point. -/
def pointPlace (d : Decimal) : Int := d.digitChars.length + d.exponent

/-- Positional notation; `wholeEnd` is what a whole number ends with. -/
def positional (d : Decimal) (wholeEnd : List Char) : List Char :=
  let digits := d.digitChars
  let place := d.pointPlace
  if 0 ≤ d.exponent then digits ++ List.replicate d.exponent.toNat '0' ++ wholeEnd
  else if 0 < place then digits.take place.toNat ++ '.' :: digits.drop place.toNat
  else ['0', '.'] ++ List.replicate (-place).toNat '0' ++ digits

/-- Exponent notation: one digit before the point, and a sign before the exponent. -/
def scientific (d : Decimal) : List Char :=
  let place := d.pointPlace - 1
  let power := (if 0 ≤ place then '+' else '-') :: Nat.toDigits 10 place.natAbs
  match d.digitChars with
  | [] => []
  | [digit] => digit :: 'e' :: power
  | digit :: more => digit :: '.' :: more ++ 'e' :: power

end Decimal

namespace FloatText

/-- What the bits of a double denote. -/
inductive Reading where
  | notANumber
  | infinite (negative : Bool)
  | zero (negative : Bool)
  | finite (negative : Bool) (magnitude : Decimal)
  deriving DecidableEq, Repr

/-- The reading of a double. -/
def read (tie : Tie) (x : Float) : Reading :=
  let bits := x.toBits.toNat
  let negative := bits / Nat.pow 2 63 == 1
  let field : Nat := bits / Nat.pow 2 52 % Nat.pow 2 11
  let fraction : Nat := bits % Nat.pow 2 52
  if field = 2047 then
    if fraction = 0 then .infinite negative else .notANumber
  else if field = 0 ∧ fraction = 0 then .zero negative
  else .finite negative (Decimal.shortest tie (BinaryFraction.ofBits (bits % Nat.pow 2 63)))

/-- A text with the sign that belongs to it. -/
def signed (negative : Bool) (body : List Char) : String :=
  String.ofList (if negative then '-' :: body else body)

/-- A number as messages show it. -/
def message (x : Float) : String :=
  match read .upward x with
  | .notANumber => "NaN"
  | .infinite negative => signed negative ['i', 'n', 'f']
  | .zero negative => signed negative ['0']
  | .finite negative d => signed negative (d.positional [])

/-- A number as JSON documents show it; what is not finite has no JSON form but `null`. -/
def json (x : Float) : String :=
  match read .toEven x with
  | .notANumber | .infinite _ => "null"
  | .zero negative => signed negative ['0', '.', '0']
  | .finite negative d =>
    let place := d.pointPlace
    if -5 < place ∧ place ≤ 16 then signed negative (d.positional ['.', '0'])
    else signed negative d.scientific

/-- The sixteen hexadecimal digits of the bits of a double. -/
def bitsHex (x : Float) : String :=
  let digits := Nat.toDigits 16 x.toBits.toNat
  String.ofList (List.replicate (16 - digits.length) '0' ++ digits)

end FloatText

end TemplateMerge
