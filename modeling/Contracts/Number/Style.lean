import Contracts.Number.Shortest

/-!
# Written numbers

How a number is written is a handful of decisions, collected in a `NumberStyle`:
which magnitudes are written without an exponent, whether a whole number keeps a
fraction, and the words for what is not finite.

## Main definitions

* `NumberStyle` — the decisions.
* `NumberStyle.write` — the text of a number under them.
-/

namespace Contracts

/-- The decisions that fix the text of every number. -/
structure NumberStyle where
  /-- The least power of ten whose decimals are written without an exponent;
  there is none below which an exponent is used when absent. -/
  plainFrom : Option Int
  /-- The least power of ten from which an exponent is used; never when absent. -/
  exponentFrom : Option Int
  /-- Whether a whole number written without exponent keeps the fraction `.0`. -/
  keepsFraction : Bool
  /-- Whether a positive exponent carries a plus sign. -/
  signsExponent : Bool
  /-- Which of two equally near decimals is written. -/
  tie : Tie
  /-- The text of not-a-number. -/
  nan : String
  /-- The text of positive infinity. -/
  infinity : String
  deriving Repr

namespace NumberStyle

/-- Whether decimals of this power of ten are written without an exponent. -/
def isPlain (style : NumberStyle) (exponent : Int) : Bool :=
  style.plainFrom.all (· ≤ exponent) && style.exponentFrom.all (exponent < ·)

/-- The digits of a decimal around its point, padded with zeros on either side. -/
def plain (style : NumberStyle) (decimal : Decimal) : String :=
  let fraction := if style.keepsFraction then ".0" else ""
  if decimal.exponent < 0 then
    "0." ++ String.ofList
      (List.replicate ((-decimal.exponent).toNat - 1) '0' ++ decimal.digits)
  else
    let whole := decimal.exponent.toNat + 1
    if decimal.digits.length ≤ whole then
      String.ofList
        (decimal.digits ++ List.replicate (whole - decimal.digits.length) '0') ++ fraction
    else
      String.ofList (decimal.digits.take whole) ++ "." ++
        String.ofList (decimal.digits.drop whole)

/-- A decimal with one digit before the point and an exponent. -/
def scientific (style : NumberStyle) (decimal : Decimal) : String :=
  let sign :=
    if decimal.exponent < 0 then "-" else if style.signsExponent then "+" else ""
  let tail := match decimal.digits.drop 1 with
    | [] => ""
    | digits => "." ++ String.ofList digits
  String.ofList (decimal.digits.take 1) ++ tail ++ "e" ++ sign ++
    toString decimal.exponent.natAbs

/-- The text of a count of units, without its sign. -/
def magnitude (style : NumberStyle) (units : Nat) : String :=
  if units = 0 then (if style.keepsFraction then "0.0" else "0")
  else
    let decimal := Number.shortest style.tie units
    if style.isPlain decimal.exponent then style.plain decimal else style.scientific decimal

/-- The text of a number. -/
def write (style : NumberStyle) : Number → String
  | .nan => style.nan
  | .infinite negative => (if negative then "-" else "") ++ style.infinity
  | .finite negative units _ => (if negative then "-" else "") ++ style.magnitude units

end NumberStyle

end Contracts
