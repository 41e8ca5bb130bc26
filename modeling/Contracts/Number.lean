/-!
# Binary floating-point numbers

The numbers of the contract language: floating point with 53 significant bits,
signed zeros, two infinities and one not-a-number.  A finite number is held as a
sign and a whole count of **units**, a unit being the smallest positive number,
`2 ^ -1074`.  Counts are compared and added exactly, and `round` brings an exact
rational count back to the nearest representable one.

## Main definitions

* `Representable` — the counts of units that a number can have.
* `Number` — finite numbers, infinities and not-a-number.
* `Number.round` — the nearest number to an exact quotient, ties to even.
* `Number.add`, `Number.multiply`, `Number.divide` — arithmetic, rounded once.
* `Number.equal` — the comparison under which zeros are equal and not-a-number is equal to
  nothing.
* `Number.safeInteger?` — the integer a number is, if it is small enough for every
  integer around it to be a number too.

## Main results

* `Number.representable_of_significand` — rounding yields a representable count unless it
  leaves the range.
-/

namespace Contracts

/-! ### Counts of units -/

/-- The significant bits of a number. -/
abbrev precision : Nat := 53

/-- The power of two that makes one of a unit. -/
abbrev unitScale : Nat := 1074

/-- How many units make one. -/
abbrev unitsPerOne : Nat := 1 <<< unitScale

/-- The largest power of two that a unit count is multiplied with. -/
abbrev topScale : Nat := 2045

/-- A count of units that fits the precision at some scale. -/
def Representable (units : Nat) : Prop :=
  ∃ significand scale, significand < 1 <<< precision ∧ scale ≤ topScale ∧
    units = significand <<< scale

theorem representable_zero : Representable 0 :=
  ⟨0, 0, by decide, by decide, by decide⟩

/-- A number: what the language computes with. -/
inductive Number where
  /-- Not a number. -/
  | nan : Number
  /-- An infinity; negative when the flag is set. -/
  | infinite (negative : Bool) : Number
  /-- A finite number: its sign, kept also by zeros, and its count of units. -/
  | finite (negative : Bool) (units : Nat) (representable : Representable units) : Number

namespace Number

/-! ### Rounding -/

/-- The whole number nearest to `numerator / denominator`, a half going to the even
neighbour. -/
def divideToEven (numerator denominator : Nat) : Nat :=
  let quotient := numerator / denominator
  let twice := 2 * (numerator % denominator)
  if twice < denominator then quotient
  else if denominator < twice then quotient + 1
  else if quotient % 2 = 0 then quotient
  else quotient + 1

theorem divideToEven_le (numerator denominator : Nat) :
    divideToEven numerator denominator ≤ numerator / denominator + 1 := by
  unfold divideToEven
  grind

/-- The scale at which the whole part of a quotient has no more bits than the
precision. -/
def scaleOf (quotient : Nat) : Nat := quotient.log2 + 1 - precision

/-- The significand of `numerator / denominator` at a scale. -/
def significandAt (scale numerator denominator : Nat) : Nat :=
  divideToEven numerator (denominator <<< scale)

theorem significandAt_le (numerator denominator : Nat) :
    significandAt (scaleOf (numerator / denominator)) numerator denominator ≤
      1 <<< precision := by
  rw [Nat.one_shiftLeft, significandAt, Nat.shiftLeft_eq]
  refine Nat.le_trans (divideToEven_le _ _) ?_
  rw [← Nat.div_div_eq_div_mul]
  have below := @Nat.lt_log2_self (numerator / denominator)
  generalize numerator / denominator = quotient at *
  have bound : quotient < 2 ^ precision * 2 ^ scaleOf quotient := by
    rw [← Nat.pow_add]
    refine Nat.lt_of_lt_of_le below (Nat.pow_le_pow_right (by decide) ?_)
    unfold scaleOf
    omega
  exact (Nat.div_lt_iff_lt_mul (Nat.two_pow_pos _)).2 bound

/-- A significand up to the full precision gives a representable count, unless the
count leaves the range. -/
theorem representable_of_significand {significand scale : Nat}
    (small : significand ≤ 1 <<< precision)
    (inRange : significand <<< scale < 1 <<< (topScale + precision)) (low : scale ≤ topScale) :
    Representable (significand <<< scale) := by
  rcases Nat.lt_or_eq_of_le small with less | rfl
  · exact ⟨significand, scale, less, low, rfl⟩
  · rw [Nat.one_shiftLeft, Nat.shiftLeft_eq, Nat.one_shiftLeft] at inRange
    rw [← Nat.pow_add] at inRange
    have := (Nat.pow_lt_pow_iff_right (by decide : 1 < 2)).1 inRange
    refine ⟨1 <<< (precision - 1), scale + 1, by decide, by omega, ?_⟩
    rw [Nat.one_shiftLeft, Nat.one_shiftLeft, Nat.shiftLeft_eq, Nat.shiftLeft_eq, ← Nat.pow_add,
      ← Nat.pow_add]
    congr 1
    simp only [precision]
    omega

/-- The number of a sign whose count of units is nearest to `numerator / denominator`;
past the largest finite number it is infinite. -/
def round (negative : Bool) (numerator denominator : Nat) : Number :=
  let scale := scaleOf (numerator / denominator)
  let significand := significandAt scale numerator denominator
  if h : scale ≤ topScale ∧ significand <<< scale < 1 <<< (topScale + precision) then
    .finite negative (significand <<< scale)
      (representable_of_significand (significandAt_le numerator denominator) h.2 h.1)
  else .infinite negative

/-! ### Constants and conversions -/

/-- Zero of a sign. -/
def zero (negative : Bool) : Number := .finite negative 0 representable_zero

instance : Inhabited Number := ⟨zero false⟩

/-- The nearest number to a whole number. -/
def ofNat (n : Nat) : Number := round false (n * unitsPerOne) 1

/-- The nearest number to an integer. -/
def ofInt (i : Int) : Number := round (decide (i < 0)) (i.natAbs * unitsPerOne) 1

/-- The nearest number to `digits * 10 ^ exponent`, of a sign.

Exponents that put the value far outside the range are answered without computing
the power of ten. -/
def ofDecimal (negative : Bool) (digits : Nat) (exponent : Int) : Number :=
  if digits = 0 then zero negative
  else
    let magnitude : Int := (digits.log2 : Int) / 4 + exponent
    if magnitude > 400 then .infinite negative
    else if (digits.log2 : Int) / 3 + 1 + exponent < -400 then zero negative
    else if 0 ≤ exponent then
      round negative (digits * Nat.pow 10 exponent.toNat * unitsPerOne) 1
    else round negative (digits * unitsPerOne) (Nat.pow 10 (-exponent).toNat)

/-! ### Arithmetic -/

/-- The exact signed count of units. -/
def signedUnits (negative : Bool) (units : Nat) : Int :=
  if negative then -(units : Int) else units

/-- Addition, rounded once.  An exact zero is positive unless both terms are
negative zeros. -/
def add : Number → Number → Number
  | .nan, _ => .nan
  | _, .nan => .nan
  | .infinite a, .infinite b => if a = b then .infinite a else .nan
  | .infinite a, .finite .. => .infinite a
  | .finite .., .infinite b => .infinite b
  | .finite a m _, .finite b n _ =>
      let sum := signedUnits a m + signedUnits b n
      if sum = 0 then zero (a && b && m == 0)
      else round (decide (sum < 0)) sum.natAbs 1

/-- The number with the other sign. -/
def negate : Number → Number
  | .nan => .nan
  | .infinite a => .infinite !a
  | .finite a m h => .finite (!a) m h

/-- Multiplication, rounded once. -/
def multiply : Number → Number → Number
  | .nan, _ => .nan
  | _, .nan => .nan
  | .infinite a, .infinite b => .infinite (a != b)
  | .infinite a, .finite b n _ => if n = 0 then .nan else .infinite (a != b)
  | .finite a m _, .infinite b => if m = 0 then .nan else .infinite (a != b)
  | .finite a m _, .finite b n _ => round (a != b) (m * n) unitsPerOne

/-- Division, rounded once. -/
def divide : Number → Number → Number
  | .nan, _ => .nan
  | _, .nan => .nan
  | .infinite _, .infinite _ => .nan
  | .infinite a, .finite b .. => .infinite (a != b)
  | .finite a .., .infinite b => zero (a != b)
  | .finite a m _, .finite b n _ =>
      if n = 0 then if m = 0 then .nan else .infinite (a != b)
      else round (a != b) (m * unitsPerOne) n

/-- Comparison for equality: not-a-number equals nothing, and the two zeros are
equal. -/
def equal : Number → Number → Bool
  | .infinite a, .infinite b => a == b
  | .finite a m _, .finite b n _ => m == n && (a == b || m == 0)
  | _, _ => false

/-- Whether a number is neither infinite nor not-a-number. -/
def isFinite : Number → Bool
  | .finite .. => true
  | _ => false

/-- The largest magnitude up to which every integer is a number. -/
abbrev largestSafe : Nat := 1 <<< 53 - 1

/-- The integer a number is, when its magnitude is at most `largestSafe`. -/
def safeInteger? : Number → Option Int
  | .finite negative units _ =>
      if units % unitsPerOne = 0 ∧ units / unitsPerOne ≤ largestSafe then
        some (signedUnits negative (units / unitsPerOne))
      else none
  | _ => none

end Number

end Contracts
