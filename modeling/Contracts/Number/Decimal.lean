import Contracts.Number

/-!
# Numbers from decimal text

A decimal text is a sign, digits with a point among them, and an exponent, all but some
digits being optional.  Infinity and not-a-number have names, in which case does not
matter.  A text is read as the nearest number; past the largest finite number that is
infinity.

## Main definitions

* `Number.ofText?` — the number that a text spells.
-/

namespace Contracts.Number

/-- The number that decimal digits spell. -/
def digitsValue (digits : List Char) : Nat :=
  digits.foldl (fun n c => 10 * n + (c.toNat - '0'.toNat)) 0

/-- A sign and what follows it. -/
def splitSign : List Char → Bool × List Char
  | '-' :: rest => (true, rest)
  | '+' :: rest => (false, rest)
  | rest => (false, rest)

/-- The exponent that a text spells after its letter. -/
def exponent? (characters : List Char) : Option Int :=
  let (negative, digits) := splitSign characters
  if digits ≠ [] ∧ digits.all Char.isDigit then
    some (if negative then -(digitsValue digits : Int) else digitsValue digits)
  else none

/-- The number that digits, a point and an exponent spell. -/
def unsigned? (negative : Bool) (characters : List Char) : Option Number :=
  let whole := characters.takeWhile Char.isDigit
  let rest := characters.dropWhile Char.isDigit
  let (fraction, rest) := match rest with
    | '.' :: rest => (rest.takeWhile Char.isDigit, rest.dropWhile Char.isDigit)
    | rest => ([], rest)
  let digits := whole ++ fraction
  if digits = [] then none
  else
    let exponent := match rest with
      | [] => some 0
      | c :: rest => if c = 'e' ∨ c = 'E' then exponent? rest else none
    exponent.map fun exponent =>
      ofDecimal negative (digitsValue digits) (exponent - fraction.length)

/-- The number that a text spells. -/
def ofText? (text : String) : Option Number :=
  let (negative, rest) := splitSign text.toList
  let word := String.ofList (rest.map Char.toLower)
  if word = "nan" then some .nan
  else if word = "inf" ∨ word = "infinity" then some (.infinite negative)
  else unsigned? negative rest

end Contracts.Number
