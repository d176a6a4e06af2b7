/-! The shortest decimal that reads back as a given binary fraction.

    A positive double is `m · 2^q`.  Every real nearer to it than to its neighbours reads back as
    it; the ends of that interval count exactly when `m` is even:

          m - 1/2         m         m + 1/2          (in units of 2^q)
             ├────────────┼────────────┤
             └ half as far off when m is the least mantissa of its binade

    For one digit, two digits and so on the two decimals on either side of the value are tested;
    the first count of digits with a decimal inside wins, and of two the nearer.  Where both are
    equally near the rule for ties decides.  Everything is computed in whole numbers. -/

namespace TemplateMerge

/-- A positive decimal fraction: `digits · 10^exponent`. -/
structure Decimal where
  /-- Its digits, as a number. -/
  digits : Nat
  /-- The power of ten they are multiplied by. -/
  exponent : Int
  deriving DecidableEq, Repr

/-- Which of two decimals is taken when they are equally near. -/
inductive Tie where
  /-- The one whose last digit is even. -/
  | toEven
  /-- The greater one. -/
  | upward
  deriving DecidableEq, Repr

/-- A positive binary fraction: `mantissa · 2^exponent`. -/
structure BinaryFraction where
  /-- Its whole mantissa. -/
  mantissa : Nat
  /-- The power of two it is multiplied by. -/
  exponent : Int
  /-- Whether the next smaller fraction is only half as far off as the next larger one. -/
  narrowBelow : Bool
  deriving DecidableEq, Repr

namespace BinaryFraction

/-- The magnitude that the bits of a finite double denote. -/
def ofBits (bits : Nat) : BinaryFraction :=
  let field : Nat := bits / Nat.pow 2 52 % Nat.pow 2 11
  let fraction : Nat := bits % Nat.pow 2 52
  if field = 0 then ⟨fraction, -1074, false⟩
  else ⟨Nat.pow 2 52 + fraction, (field : Int) - 1075, fraction == 0 && 1 < field⟩

/-- The value as a quotient of whole numbers, in quarters: `4 · mantissa · 2^exponent` over `4`. -/
def scale (x : BinaryFraction) : Nat × Nat :=
  (Nat.pow 2 x.exponent.toNat, 4 * Nat.pow 2 (-x.exponent).toNat)

/-- The number of decimal digits before the point; for values below one, minus the number of zeros
    that follow the point. -/
def magnitude (x : BinaryFraction) : Int :=
  let (up, down) := x.scale
  let whole := 4 * x.mantissa * up / down
  if whole ≠ 0 then ((Nat.toDigits 10 whole).length : Int)
  else
    match (List.range 400).find? fun zeros => down ≤ 4 * x.mantissa * up * Nat.pow 10 (zeros + 1) with
    | some zeros => -(zeros : Int)
    | none => 0

/-- The decimal of `count` digits that reads back as `x` and lies nearest to it, if there is one. -/
def nearest? (tie : Tie) (x : BinaryFraction) (count : Nat) : Option Decimal :=
  let (up, down) := x.scale
  let place := x.magnitude - count
  -- one step of the decimal grid, and one quarter of a binary step, over a common denominator
  let grid := Nat.pow 10 place.toNat * down
  let quarter := up * Nat.pow 10 (-place).toNat
  let value := 4 * x.mantissa * quarter
  let low := value - (if x.narrowBelow then 1 else 2) * quarter
  let high := value + 2 * quarter
  let inside (n : Nat) : Bool :=
    if x.mantissa % 2 = 0 then low ≤ n * grid && n * grid ≤ high
    else low < n * grid && n * grid < high
  let below := value / grid
  let above := below + 1
  match inside below && below ≠ 0, inside above with
  | true, true =>
    let down := value - below * grid
    let up := above * grid - value
    if down < up ∨ (down = up ∧ tie = .toEven ∧ below % 2 = 0) then some ⟨below, place⟩ else some ⟨above, place⟩
  | true, false => some ⟨below, place⟩
  | false, true => some ⟨above, place⟩
  | false, false => none

end BinaryFraction

namespace Decimal

/-- The same decimal without trailing zeros among its digits. -/
def normalize (d : Decimal) : Decimal :=
  let digits := Nat.toDigits 10 d.digits
  let zeros := (digits.reverse.takeWhile (· == '0')).length
  ⟨d.digits / Nat.pow 10 zeros, d.exponent + zeros⟩

/-- The shortest decimal that reads back as `x`, the nearest of those. -/
def shortest (tie : Tie) (x : BinaryFraction) : Decimal :=
  (((List.range' 1 17).findSome? (x.nearest? tie)).getD ⟨0, 0⟩).normalize

end Decimal

end TemplateMerge
