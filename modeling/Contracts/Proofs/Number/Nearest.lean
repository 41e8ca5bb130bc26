import Contracts.Proofs.Number
import Mathlib.Algebra.Group.Int.Defs
import Mathlib.Algebra.Group.Nat.Defs

/-!
# The nearest number

What it means to round, said without a computation: of the counts of units that numbers can
have the one is chosen that is nearest, and of two that are equally near the one that more
powers of two divide, which is the one whose significand is even.  Rounding does this as long
as the result is in range, so it does it for every integer of 64 bits.

## Main definitions

* `RoundedTo` — a count is what an exact count is rounded to.
* `Number.count?`, `Number.Nearest` — the same of numbers.

## Main results

* `RoundedTo.unique` — an exact count is rounded to one count at most.
* `Number.nearest_divideToEven` — of all multiples of a whole number the nearest is chosen.
* `Number.nearest_ofInt` — **the number of an integer is the nearest one.**
-/

namespace Contracts

/-- A count of units is what an exact count is rounded to. -/
structure RoundedTo (exact count : Int) : Prop where
  /-- A number can have the count. -/
  representable : Representable count.natAbs
  /-- No count that a number can have is nearer. -/
  near : ∀ other : Int, Representable other.natAbs →
    (exact - count).natAbs ≤ (exact - other).natAbs
  /-- One that is as near is odd at a scale at which the chosen one is even. -/
  even : ∀ other : Int, Representable other.natAbs → other ≠ count →
    (exact - other).natAbs = (exact - count).natAbs →
      ∃ scale, 2 ^ scale ∣ count.natAbs ∧ ¬ 2 ^ scale ∣ other.natAbs

/-- An exact count is rounded to one count at most. -/
theorem RoundedTo.unique {exact count count' : Int} (h : RoundedTo exact count)
    (h' : RoundedTo exact count') : count = count' := by
  refine Decidable.byContradiction fun different => ?_
  have tie : (exact - count).natAbs = (exact - count').natAbs :=
    Nat.le_antisymm (h.near _ h'.representable) (h'.near _ h.representable)
  obtain ⟨scale, divides, not⟩ := h.even _ h'.representable (Ne.symm different) tie.symm
  obtain ⟨scale', divides', not'⟩ := h'.even _ h.representable different tie
  rcases Nat.le_total scale scale' with le | le
  · exact not (Nat.dvd_trans (Nat.pow_dvd_pow 2 le) divides')
  · exact not' (Nat.dvd_trans (Nat.pow_dvd_pow 2 le) divides)

/-- A count that a number can have is rounded to itself. -/
theorem roundedTo_self {count : Int} (h : Representable count.natAbs) : RoundedTo count count where
  representable := h
  near other _ := by rw [Int.sub_self]; exact Nat.zero_le _
  even other _ different tie := by
    rw [Int.sub_self, Int.natAbs_zero, Int.natAbs_eq_zero, Int.sub_eq_zero] at tie
    exact absurd tie.symm different

namespace Number

/-! ### Multiples of a whole number -/

/-- A multiple is at most the last one below a number or at least the first one above it. -/
theorem multiple_cases (n d k : Nat) :
    k * d + d ≤ n / d * d ∨ k = n / d ∨ k = n / d + 1 ∨ n / d * d + d + d ≤ k * d := by
  rcases Nat.lt_trichotomy k (n / d) with less | same | more
  · have := Nat.mul_le_mul_right d (Nat.succ_le_of_lt less)
    rw [Nat.succ_mul] at this
    exact .inl this
  · exact .inr (.inl same)
  · rcases Nat.eq_or_lt_of_le (Nat.succ_le_of_lt more) with next | more
    · exact .inr (.inr (.inl next.symm))
    · have := Nat.mul_le_mul_right d (Nat.succ_le_of_lt more)
      rw [Nat.succ_mul, Nat.succ_mul] at this
      exact .inr (.inr (.inr this))

/-- What is rounded down is below the middle, or in the middle and even; what is rounded up is
above the middle, or in the middle and odd. -/
theorem divideToEven_cases (n d : Nat) :
    divideToEven n d = n / d ∧ (2 * (n % d) < d ∨ 2 * (n % d) = d ∧ n / d % 2 = 0) ∨
      divideToEven n d = n / d + 1 ∧ (d < 2 * (n % d) ∨ 2 * (n % d) = d ∧ n / d % 2 = 1) := by
  unfold divideToEven
  grind

/-- Division with ties to even chooses the nearest multiple, and the even one of two. -/
theorem nearest_divideToEven {n d : Nat} (positive : 0 < d) (k : Nat) :
    ((n : Int) - (divideToEven n d * d : Nat)).natAbs ≤ ((n : Int) - (k * d : Nat)).natAbs ∧
      (k ≠ divideToEven n d →
        ((n : Int) - (k * d : Nat)).natAbs = ((n : Int) - (divideToEven n d * d : Nat)).natAbs →
          divideToEven n d % 2 = 0 ∧ k % 2 = 1) := by
  have whole := Nat.div_add_mod' n d
  have part := Nat.mod_lt n positive
  have step : (n / d + 1) * d = n / d * d + d := Nat.succ_mul _ _
  rcases divideToEven_cases n d with ⟨chosen, side⟩ | ⟨chosen, side⟩ <;>
    rcases multiple_cases n d k with low | rfl | rfl | high <;>
    rw [chosen] <;> omega

/-! ### Representable counts -/

/-- A representable count is a multiple of a power of two, or has less than the precision's bits
at it. -/
theorem dvd_or_lt_of_representable {units : Nat} (h : Representable units) (scale : Nat) :
    2 ^ scale ∣ units ∨ 2 * units < 2 ^ precision * 2 ^ scale := by
  obtain ⟨significand, own, small, low, rfl⟩ := h
  rw [Nat.one_shiftLeft] at small
  rw [Nat.shiftLeft_eq]
  rcases Nat.lt_or_ge own scale with lt | le
  · refine .inr ?_
    calc 2 * (significand * 2 ^ own) = significand * 2 ^ (own + 1) := by
          rw [Nat.pow_succ, Nat.mul_comm 2, Nat.mul_assoc]
      _ < 2 ^ precision * 2 ^ (own + 1) := Nat.mul_lt_mul_of_pos_right small (Nat.two_pow_pos _)
      _ ≤ 2 ^ precision * 2 ^ scale :=
        Nat.mul_le_mul_left _ (Nat.pow_le_pow_right (by decide) lt)
  · exact .inl (Nat.dvd_trans (Nat.pow_dvd_pow 2 le) (Nat.dvd_mul_left _ _))

/-- A count that is rounded has all bits of the precision. -/
theorem le_of_scaleOf_pos {units : Nat} (h : 0 < scaleOf units) :
    2 ^ precision * 2 ^ scaleOf units ≤ 2 * (units / 2 ^ scaleOf units * 2 ^ scaleOf units) := by
  have bits : precision + scaleOf units = units.log2 + 1 := by
    unfold scaleOf at *
    simp only [precision] at *
    omega
  have nonzero : units ≠ 0 := by
    rintro rfl
    exact absurd h (by decide)
  have divides : 2 ^ scaleOf units ∣ 2 ^ units.log2 := by
    refine Nat.pow_dvd_pow 2 ?_
    simp only [precision] at bits
    omega
  rw [← Nat.pow_add, bits, Nat.pow_succ, Nat.mul_comm]
  refine Nat.mul_le_mul_left 2 ?_
  conv => lhs; rw [← Nat.div_mul_cancel divides]
  exact Nat.mul_le_mul_right _ (Nat.div_le_div_right (Nat.log2_self_le nonzero))

/-- A representable count is a multiple of the power of two at which another one is rounded, or
it is below all of that one but what is rounded away. -/
theorem dvd_or_lt_whole {other : Nat} (h : Representable other) (units : Nat) :
    2 ^ scaleOf units ∣ other ∨ other < units / 2 ^ scaleOf units * 2 ^ scaleOf units := by
  rcases Nat.eq_zero_or_pos (scaleOf units) with exactly | rounded
  · rw [exactly, Nat.pow_zero]
    exact .inl (Nat.one_dvd other)
  · rcases dvd_or_lt_of_representable h (scaleOf units) with divides | low
    · exact .inl divides
    · have full := le_of_scaleOf_pos rounded
      exact .inr (by omega)

/-- The count that a count is rounded to, as long as that is in range. -/
def nearestUnits (units : Nat) : Nat :=
  divideToEven units (2 ^ scaleOf units) * 2 ^ scaleOf units

/-- No representable count is nearer, and one that is as near is odd where the chosen one is
even. -/
theorem near_nearestUnits (units : Nat) {other : Nat} (h : Representable other) :
    ((units : Int) - nearestUnits units).natAbs ≤ ((units : Int) - other).natAbs ∧
      (other ≠ nearestUnits units →
        ((units : Int) - other).natAbs = ((units : Int) - nearestUnits units).natAbs →
          ∃ scale, 2 ^ scale ∣ nearestUnits units ∧ ¬ 2 ^ scale ∣ other) := by
  have positive := Nat.two_pow_pos (scaleOf units)
  rcases dvd_or_lt_whole h units with ⟨k, rfl⟩ | low
  · obtain ⟨near, even⟩ := nearest_divideToEven (n := units) positive k
    rw [Nat.mul_comm k] at near even
    refine ⟨near, fun different tie => ?_⟩
    have distinct : k ≠ divideToEven units (2 ^ scaleOf units) := by
      rintro rfl
      exact different (Nat.mul_comm _ _)
    obtain ⟨chosen, odd⟩ := even distinct tie
    refine ⟨scaleOf units + 1, ?_, fun divides => ?_⟩
    · rw [Nat.pow_succ, Nat.mul_comm]
      exact Nat.mul_dvd_mul_right (Nat.dvd_of_mod_eq_zero chosen) _
    · rw [Nat.pow_succ] at divides
      have := Nat.mod_eq_zero_of_dvd (Nat.dvd_of_mul_dvd_mul_left positive divides)
      omega
  · -- what is below is farther than the multiple below, which is not nearer than the chosen one
    obtain ⟨near, _⟩ :=
      nearest_divideToEven (n := units) positive (units / 2 ^ scaleOf units)
    have below := Nat.div_mul_le_self units (2 ^ scaleOf units)
    unfold nearestUnits
    omega

/-- In its range a count is rounded as it should be. -/
theorem round_of_inRange (negative : Bool) {units : Nat} (low : scaleOf units ≤ topScale)
    (inRange : nearestUnits units < 2 ^ (topScale + precision)) :
    ∃ representable, round negative units 1 =
      .finite negative (nearestUnits units) representable := by
  have same : significandAt (scaleOf units) units 1 <<< scaleOf units = nearestUnits units := by
    rw [significandAt, Nat.one_shiftLeft, Nat.shiftLeft_eq]
    rfl
  unfold round
  simp only [Nat.div_one]
  rw [dif_pos ⟨low, by rw [same, Nat.one_shiftLeft]; exact inRange⟩]
  have small := significandAt_le units 1
  rw [Nat.div_one] at small
  have representable := representable_of_significand small
    (by rw [same, Nat.one_shiftLeft]; exact inRange) low
  rw [same] at representable
  exact ⟨representable, finite_congr same⟩

/-- What is far from the end of the range is rounded inside it. -/
theorem inRange_of_lt {units : Nat} (h : units < 2 ^ topScale) :
    scaleOf units ≤ topScale ∧ nearestUnits units < 2 ^ (topScale + precision) := by
  constructor
  · rcases Nat.eq_zero_or_pos units with rfl | positive
    · decide
    · have bits := (Nat.log2_lt (Nat.ne_of_gt positive)).2 h
      unfold scaleOf
      omega
  · have near := (near_nearestUnits units representable_zero).1
    rw [Nat.pow_add]
    have twice : 2 ^ topScale * 2 ≤ 2 ^ topScale * 2 ^ precision :=
      Nat.mul_le_mul_left _ (by decide)
    generalize 2 ^ topScale = bound at *
    omega

/-! ### Signed counts -/

theorem unitsPerOne_eq : unitsPerOne = 2 ^ unitScale := Nat.one_shiftLeft _

theorem unitsPerOne_pos : 0 < unitsPerOne := unitsPerOne_eq ▸ Nat.two_pow_pos _

/-- The signed count of units of a finite number. -/
def count? : Number → Option Int
  | .finite negative units _ => some (signedUnits negative units)
  | _ => none

/-- A number is the nearest one to an exact count of units. -/
def Nearest (x : Number) (exact : Int) : Prop :=
  ∃ count, x.count? = some count ∧ RoundedTo exact count

/-- The nearest numbers to an exact count have one count. -/
theorem Nearest.count?_eq {x y : Number} {exact : Int} (h : x.Nearest exact)
    (h' : y.Nearest exact) : x.count? = y.count? := by
  obtain ⟨count, has, rounded⟩ := h
  obtain ⟨count', has', rounded'⟩ := h'
  rw [has, has', rounded.unique rounded']

/-- Counts are rounded alike on both sides of zero. -/
theorem roundedTo_signed (exact : Int) (h : Representable (nearestUnits exact.natAbs)) :
    RoundedTo exact (signedUnits (decide (exact < 0)) (nearestUnits exact.natAbs)) := by
  -- zero is not nearer, so counts on the other side are not either
  have zero := (near_nearestUnits exact.natAbs representable_zero).1
  have size : (signedUnits (decide (exact < 0)) (nearestUnits exact.natAbs)).natAbs =
      nearestUnits exact.natAbs := natAbs_signedUnits _ _
  refine ⟨by rw [size]; exact h, fun other possible => ?_, fun other possible different tie => ?_⟩
  · have near := (near_nearestUnits exact.natAbs possible).1
    by_cases negative : exact < 0 <;> simp only [signedUnits, negative, decide_true, decide_false,
      if_true, Bool.false_eq_true, if_false] <;> omega
  · rw [size]
    refine (near_nearestUnits exact.natAbs possible).2 ?_ ?_ <;>
    by_cases negative : exact < 0 <;> simp only [signedUnits, negative, decide_true, decide_false,
      if_true, Bool.false_eq_true, if_false] at different tie <;> omega

/-- **The number of an integer is the nearest one**, for every integer that has 64 bits with or
without a sign. -/
theorem nearest_ofInt {i : Int} (low : -2 ^ 63 ≤ i) (high : i < 2 ^ 64) :
    (ofInt i).Nearest (i * unitsPerOne) := by
  have size : (i * unitsPerOne).natAbs = i.natAbs * unitsPerOne := by
    rw [Int.natAbs_mul, Int.natAbs_natCast]
  have positive : (0 : Int) < unitsPerOne := Int.natCast_pos.2 unitsPerOne_pos
  have sign : decide (i * unitsPerOne < 0) = decide (i < 0) := by
    refine decide_eq_decide.2 ⟨fun h => ?_, fun h => Int.mul_neg_of_neg_of_pos h positive⟩
    rw [← Int.zero_mul unitsPerOne] at h
    exact Int.lt_of_mul_lt_mul_right h (Int.le_of_lt positive)
  have inside : i.natAbs * unitsPerOne < 2 ^ topScale := by
    calc i.natAbs * unitsPerOne ≤ 2 ^ 64 * unitsPerOne := Nat.mul_le_mul_right _ (by omega)
      _ < 2 ^ topScale := by
        rw [unitsPerOne_eq, ← Nat.pow_add]
        exact Nat.pow_lt_pow_right (by decide) (by decide)
  obtain ⟨scale, range⟩ := inRange_of_lt inside
  obtain ⟨representable, rounded⟩ := round_of_inRange (decide (i < 0)) scale range
  refine ⟨_, congrArg count? rounded, ?_⟩
  have signed := roundedTo_signed (i * unitsPerOne) (size ▸ representable)
  rw [size, sign] at signed
  exact signed

end Number

end Contracts
