import Contracts.Proofs.Json.Numeral
import Contracts.Proofs.Number.Range

/-!
# How great numbers in JSON texts may be

The reader takes as many digits of a number as fit 64 bits, and multiplies what they are with a
power of ten, or divides it.  It refuses a number when the product leaves the range of numbers,
when it would have to multiply with a power of ten that is itself out of range, or when the
exponent alone does not fit 32 bits, and no other.

## Main definitions

* `Json.LongestFitting` — how many digits are taken.
* `Json.Numeral.InRange` — a number is not too great.

## Main results

* `Json.isFinite_of_timesPower?` — what is read is finite.
* `Json.Numeral.exists_value?_iff` — **a number is read exactly if it is in range.**
-/

namespace Contracts.Json

variable {m k : Nat} {power : Int} {before digits taken : List Char}

/-! ### The digits that are taken -/

/-- Of digits behind others, the longest front part with which all of them fit 64 bits. -/
structure LongestFitting (before digits taken : List Char) : Prop where
  /-- It is a front part. -/
  isFront : taken <+: digits
  /-- It fits. -/
  fits : decimal (before ++ taken) < 2 ^ 64
  /-- No longer one does. -/
  longest : ∀ more, more <+: digits → decimal (before ++ more) < 2 ^ 64 →
    more.length ≤ taken.length

/-- There is only one longest front part. -/
theorem LongestFitting.unique {other : List Char} (h : LongestFitting before digits taken)
    (h' : LongestFitting before digits other) : taken = other := by
  have same : taken.length = other.length :=
    Nat.le_antisymm (h'.longest _ h.isFront h.fits) (h.longest _ h'.isFront h'.fits)
  rw [List.prefix_iff_eq_take.1 h.isFront, List.prefix_iff_eq_take.1 h'.isFront, same]

/-- If all digits fit, they are the longest front part. -/
theorem longestFitting_self (fits : decimal (before ++ digits) < 2 ^ 64) :
    LongestFitting before digits digits :=
  ⟨List.prefix_rfl, fits, fun _ isFront _ => isFront.length_le⟩

/-- The longest front part is appended. -/
theorem exists_appendDigits_eq (digits : List Char) (fits : decimal before < 2 ^ 64) :
    ∃ taken, LongestFitting before digits taken ∧ appendDigits (decimal before) digits =
      (decimal (before ++ taken), digits.length - taken.length) := by
  induction digits generalizing before with
  | nil =>
    refine ⟨[], longestFitting_self (by rwa [List.append_nil]), ?_⟩
    rw [List.append_nil]
    rfl
  | cons c digits ih =>
    rw [appendDigits, ← decimal_concat, Nat.one_shiftLeft]
    by_cases next : decimal (before ++ [c]) < 2 ^ 64
    · obtain ⟨taken, ⟨isFront, fits', longest⟩, appended⟩ := ih next
      rw [List.append_assoc, List.singleton_append] at fits' appended
      refine ⟨c :: taken, ⟨List.cons_prefix_cons.2 ⟨rfl, isFront⟩, fits', ?_⟩, ?_⟩
      · intro more isFront' fitsMore
        cases more with
        | nil => exact Nat.zero_le _
        | cons d more =>
          obtain ⟨rfl, isFrontMore⟩ := List.cons_prefix_cons.1 isFront'
          refine Nat.succ_le_succ (longest more isFrontMore ?_)
          rwa [List.append_assoc, List.singleton_append]
      · rw [if_pos next, appended, List.length_cons, List.length_cons, Nat.succ_sub_succ]
    · refine ⟨[], ⟨List.nil_prefix, by rwa [List.append_nil], ?_⟩, ?_⟩
      · intro more isFront' fitsMore
        cases more with
        | nil => exact Nat.le_refl _
        | cons d more =>
          obtain ⟨rfl, -⟩ := List.cons_prefix_cons.1 isFront'
          have := decimal_le_append (before ++ [d]) more
          rw [List.append_assoc, List.singleton_append] at this
          omega
      · rw [if_neg next, List.append_nil]
        rfl

/-! ### Multiplying and dividing -/

theorem lt_rangeEnd_of_fits (h : m < 2 ^ 64) : m * unitsPerOne < Number.rangeEnd :=
  Nat.lt_of_lt_of_le (Nat.mul_lt_mul_of_pos_right h Number.unitsPerOne_pos) (by decide +kernel)

theorem pow_lt_rangeEnd (h : k ≤ largestPower) : 10 ^ k * unitsPerOne < Number.rangeEnd := by
  have all : ∀ k : Fin (largestPower + 1), 10 ^ k.1 * unitsPerOne < Number.rangeEnd := by
    decide +kernel
  exact all ⟨k, Nat.lt_succ_of_le h⟩

theorem isFinite_divide_powerOfTen {x : Number} (h : x.isFinite = true) (low : k ≤ largestPower) :
    (x.divide (powerOfTen k)).isFinite = true :=
  Number.isFinite_divide h (Nat.pow_pos (by decide)) (pow_lt_rangeEnd low)

/-- What is divided by powers of ten stays in range. -/
theorem isFinite_divideByPower {x : Number} (h : x.isFinite = true) (n : Nat) :
    (divideByPower x n).isFinite = true := by
  fun_induction divideByPower x n with
  | case1 x n low => exact isFinite_divide_powerOfTen h low
  | case2 => exact h
  | case3 x n _ _ ih => exact ih (isFinite_divide_powerOfTen h (Nat.le_refl _))

/-- Whether digits that count in a power of ten are not too great together. -/
def PowerInRange (digits : Nat) (power : Int) : Prop :=
  digits = 0 ∨ power ≤ 308 ∧ (0 ≤ power → Number.ProductInRange digits (10 ^ power.toNat))

theorem isFinite_ofNat (h : m * unitsPerOne < Number.rangeEnd) :
    (Number.ofNat m).isFinite = true := by
  obtain ⟨_, _, same, _⟩ := Number.exists_ofNat_eq h
  rw [same]
  rfl

/-- What comes of digits and a power of ten is finite. -/
theorem isFinite_of_timesPower? {x : Number} (fits : m < 2 ^ 64)
    (h : timesPower? (.ofNat m) power = some x) : x.isFinite = true := by
  have finite := isFinite_ofNat (lt_rangeEnd_of_fits fits)
  unfold timesPower? at h
  split at h
  · dsimp only at h
    split at h
    · split at h
      · next inside =>
        cases h
        exact inside
      · cases h
    · split at h <;> cases h
      exact finite
  · cases h
    exact isFinite_divideByPower finite _

/-- Digits and a power of ten are refused exactly if they are too great together. -/
theorem exists_timesPower?_iff (fits : m < 2 ^ 64) :
    (∃ x, timesPower? (.ofNat m) power = some x) ↔ PowerInRange m power := by
  have inside := lt_rangeEnd_of_fits fits
  cases power with
  | negSucc n => exact iff_of_true ⟨_, rfl⟩ (.inr ⟨by omega, by omega⟩)
  | ofNat n =>
    have few : Int.ofNat n ≤ 308 ↔ n ≤ largestPower := Int.ofNat_le
    have even : 0 ≤ Int.ofNat n := Int.natCast_nonneg n
    unfold PowerInRange
    rw [few, forall_prop_of_true even]
    dsimp only [timesPower?, Int.toNat]
    by_cases low : n ≤ largestPower
    · have product : ((Number.ofNat m).multiply (powerOfTen n)).isFinite = true ↔
          Number.ProductInRange m (10 ^ n) :=
        Number.isFinite_multiply_iff inside (pow_lt_rangeEnd low)
      rw [if_pos low, and_iff_right low, ← product]
      constructor
      · rintro ⟨x, taken⟩
        split at taken
        · next finite => exact .inr finite
        · cases taken
      · rintro (rfl | finite)
        · rw [if_pos (product.2 (Number.productInRange_zero (pow_lt_rangeEnd low)))]
          exact ⟨_, rfl⟩
        · rw [if_pos finite]
          exact ⟨_, rfl⟩
    · rw [if_neg low, ← Number.equal_ofNat_zero_iff inside]
      constructor
      · rintro ⟨x, taken⟩
        split at taken
        · next none => exact .inl none
        · cases taken
      · rintro (none | ⟨few, -⟩)
        · rw [if_pos none]
          exact ⟨_, rfl⟩
        · exact absurd few low

/-- Of whole numbers that fit, none is too great. -/
theorem powerInRange_zero (fits : m < 2 ^ 64) : PowerInRange m 0 :=
  .inr ⟨by decide, fun _ => Number.productInRange_one (lt_rangeEnd_of_fits fits)⟩

/-! ### Numbers -/

section Significand

variable {significand : Significand} {exponent : Int}

theorem exists_float?_iff :
    (∃ n, significand.float? exponent = some n) ↔
      PowerInRange significand.digits (significand.power + exponent) := by
  have fits : significand.digits < 2 ^ 64 := significand.fits
  rw [← exists_timesPower?_iff fits, Significand.float?]
  constructor
  · rintro ⟨n, taken⟩
    obtain ⟨x, found, -⟩ := Option.map_eq_some_iff.1 taken
    exact ⟨x, found⟩
  · rintro ⟨x, found⟩
    rw [found]
    exact ⟨_, rfl⟩

theorem exists_integer?_iff :
    (∃ n, significand.integer? = some n) ↔
      PowerInRange significand.digits significand.power := by
  have float : (∃ n, significand.float? 0 = some n) ↔ _ := exists_float?_iff
  rw [Int.add_zero] at float
  unfold Significand.integer?
  split
  · exact float
  · next whole =>
    rw [not_ne_iff] at whole
    have inside : PowerInRange significand.digits significand.power :=
      whole ▸ powerInRange_zero significand.fits
    refine iff_of_true ?_ inside
    split
    · split
      · exact ⟨_, rfl⟩
      · exact float.2 inside
    · exact ⟨_, rfl⟩

/-- Whether a number is not too great with an exponent, if there is one.  An exponent that does
not fit 32 bits makes everything but zero too great, or nothing. -/
def ExponentInRange (digits : Nat) (power : Int) : Option Exponent → Prop
  | none => PowerInRange digits power
  | some exponent =>
      if 2 ^ 31 ≤ decimal exponent.digits then digits = 0 ∨ exponent.sign = ['-']
      else
        PowerInRange digits (power +
          if exponent.sign = ['-'] then -(decimal exponent.digits : Int)
          else decimal exponent.digits)

theorem exists_withExponentPart?_iff {plain : Option JsonNumber} {part : Option Exponent}
    (h : (∃ n, plain = some n) ↔ PowerInRange significand.digits significand.power) :
    (∃ n, significand.withExponentPart? plain part = some n) ↔
      ExponentInRange significand.digits significand.power part := by
  cases part with
  | none => exact h
  | some part =>
    have great : largestExponent < decimal part.digits ↔ 2 ^ 31 ≤ decimal part.digits := Iff.rfl
    simp only [Significand.withExponentPart?, Significand.withExponent?, ExponentInRange, great]
    split
    · by_cases minus : part.sign = ['-'] <;> by_cases zero : significand.digits = 0 <;>
        simp [minus, zero]
    · by_cases minus : part.sign = ['-'] <;>
        simp only [minus, decide_true, decide_false, if_true, if_false, Bool.false_eq_true] <;>
        exact exists_float?_iff

/-- The digits behind the point are appended to those in front of it. -/
theorem exists_withParts?_iff {fraction : List Char} {part : Option Exponent} :
    (∃ n, significand.withParts? fraction part = some n) ↔
      ExponentInRange (significand.withFraction fraction).digits
        (significand.withFraction fraction).power part := by
  unfold Significand.withParts?
  split
  · next none =>
    subst none
    have same : (significand.withFraction []).power = significand.power := Int.sub_zero _
    rw [same]
    exact exists_withExponentPart?_iff exists_integer?_iff
  · refine exists_withExponentPart?_iff ?_
    rw [exists_float?_iff, Int.add_zero]

end Significand

/-- **A number is in range**: of its digits in front of the point and behind it as many are taken
as fit 64 bits, and they are not too great together with the power of ten that is left. -/
def Numeral.InRange (numeral : Numeral) : Prop :=
  ∃ whole fraction, LongestFitting [] numeral.whole whole ∧
    LongestFitting whole numeral.fraction fraction ∧
      ExponentInRange (decimal (whole ++ fraction))
        ((numeral.whole.length - whole.length : Nat) - (fraction.length : Int)) numeral.exponent

/-- **A number is read exactly if it is in range.** -/
theorem Numeral.exists_value?_iff (numeral : Numeral) :
    (∃ n, numeral.value? = some n) ↔ numeral.InRange := by
  have empty : decimal [] < 2 ^ 64 := by decide
  obtain ⟨whole, longest, appended⟩ := exists_appendDigits_eq numeral.whole empty
  obtain ⟨fraction, longest', appended'⟩ := exists_appendDigits_eq numeral.fraction longest.fits
  rw [List.nil_append] at appended appended' longest'
  have shorter := longest'.isFront.length_le
  let significand :=
    (Significand.ofWhole numeral.negative numeral.whole).withFraction numeral.fraction
  have inFront : (appendDigits 0 numeral.whole).1 = decimal whole := congrArg Prod.fst appended
  have digits : significand.digits = decimal (whole ++ fraction) := by
    change (appendDigits (appendDigits 0 numeral.whole).1 numeral.fraction).1 = _
    rw [inFront, appended']
  have power : significand.power =
      (numeral.whole.length - whole.length : Nat) - (fraction.length : Int) := by
    change ((appendDigits 0 numeral.whole).2 : Int) - (numeral.fraction.length -
      (appendDigits (appendDigits 0 numeral.whole).1 numeral.fraction).2 : Nat) = _
    rw [inFront, appended', Nat.sub_sub_self shorter]
    exact congrArg (fun left : Nat => (left : Int) - fraction.length) (congrArg Prod.snd appended)
  have reads : (∃ n, numeral.value? = some n) ↔
      ExponentInRange significand.digits significand.power numeral.exponent :=
    exists_withParts?_iff
  rw [digits, power] at reads
  constructor
  · exact fun found => ⟨whole, fraction, longest, longest', reads.1 found⟩
  · rintro ⟨other, other', isLongest, isLongest', inside⟩
    obtain rfl := longest.unique isLongest
    obtain rfl := longest'.unique isLongest'
    exact reads.2 inside

end Contracts.Json
