import Contracts.Number

/-!
# Shortest decimals

A finite number is written with as few decimal digits as still read back as that
number, and of the decimals with so few digits with the one nearest to it.

The decimals that round to a number fill an interval around it, whose ends belong
to it exactly when the significand is even.  For each count of digits the number
lies between two neighbours on a decimal grid; the first grid with a neighbour in
the interval gives the digits.  Seventeen digits always suffice.

## Main definitions

* `Decimal` — significant digits with the power of ten of the first.
* `Tie` — which of two equally near decimals is taken.
* `Number.shortest` — the decimal a positive count of units is written as.
-/

namespace Contracts

/-- A positive decimal `d.ddd * 10 ^ exponent`. -/
structure Decimal where
  /-- The digits, neither first nor last of which is a zero. -/
  digits : List Char
  /-- The power of ten that the first digit counts. -/
  exponent : Int
  deriving DecidableEq, Repr

/-- The choice between two decimals at the same distance. -/
inductive Tie where
  /-- Take the greater. -/
  | up : Tie
  /-- Take the one whose last digit is even. -/
  | toEven : Tie
  deriving DecidableEq, Repr

namespace Number

/-- The decimals that read back as a number, in quarters of the gap between the number
and the next. -/
structure Window where
  /-- The least. -/
  low : Nat
  /-- The greatest. -/
  high : Nat
  /-- Whether `low` and `high` themselves read back. -/
  closed : Bool

/-- The window of the number `significand <<< scale`.  Below a power of two the numbers lie
twice as dense, so that the lower half of its window is half as wide. -/
def window (scale significand : Nat) : Window :=
  { low := 4 * significand - (if 0 < scale ∧ significand = 1 <<< (precision - 1) then 1 else 2)
    high := 4 * significand + 2
    closed := significand % 2 == 0 }

/-- How many decimal digits a positive number has.  The count of binary digits gives it
up to one, for numbers of not more than ten thousand of them. -/
def decimalLength (n : Nat) : Nat :=
  let least := n.log2 * 1233 / 4096 + 1
  if Nat.pow 10 least ≤ n then least + 1 else least

/-- How many digits stand before the decimal point of a positive count of units;
negative when zeros follow the point first. -/
def pointPosition (units : Nat) : Int :=
  decimalLength (units * Nat.pow 10 330 / unitsPerOne) - 330

/-- The neighbour on the grid of `count` digits that reads back as `units`, as a
multiple of the grid's step; of two the nearer. -/
def gridPoint? (tie : Tie) (units : Nat) (point : Int) (count : Nat) : Option Nat :=
  let scale := scaleOf units
  let significand := units >>> scale
  let range := window scale significand
  let step := 4 * (1 <<< (unitScale - scale)) * Nat.pow 10 (point - count).toNat
  let factor := (1 <<< (scale - unitScale)) * Nat.pow 10 (count - point).toNat
  let value := 4 * significand * factor
  let inside (multiple : Nat) : Bool :=
    let place := multiple * step
    if range.closed then range.low * factor ≤ place && place ≤ range.high * factor
    else range.low * factor < place && place < range.high * factor
  let floor := value / step
  let rest := 2 * (value % step)
  match inside floor, inside (floor + 1) with
  | false, false => none
  | true, false => some floor
  | false, true => some (floor + 1)
  | true, true =>
      if rest < step then some floor
      else if step < rest then some (floor + 1)
      else match tie with
        | .up => some (floor + 1)
        | .toEven => some (if floor % 2 = 0 then floor else floor + 1)

/-- The most digits a number needs. -/
abbrev mostDigits : Nat := 17

/-- The shortest decimal of a positive count of units. -/
def shortest (tie : Tie) (units : Nat) : Decimal :=
  let point := pointPosition units
  let (count, multiple) :=
    ((List.range' 1 mostDigits).findSome? fun count =>
        (gridPoint? tie units point count).map (count, ·)).getD (mostDigits, 0)
  let digits := Nat.toDigits 10 multiple
  { digits := (digits.reverse.dropWhile (· == '0')).reverse
    exponent := digits.length - 1 + (point - count) }

end Number

end Contracts
