import Contracts.Proofs.Number.Nearest

/-!
# The range of numbers

The counts of units that numbers can have end with one below a power of two.  What is nearer to
that power than to the last of them is rounded out of range, and so is the middle, since the
last count is odd at its scale.  So one bound tells which quotients are rounded to numbers, and
with it which products of numbers are.

## Main definitions

* `Number.rangeEnd` — the first count that is rounded out of range.
* `Number.ProductInRange` — the nearest numbers to two whole numbers have a product.

## Main results

* `Number.isFinite_round_iff` — **a quotient is rounded to a number exactly below the end of
  the range.**
* `Number.exists_ofNat_eq` — whole numbers in range have a nearest number.
* `Number.isFinite_multiply_iff` — which products are numbers.
-/

namespace Contracts.Number

variable {n d m units : Nat} {negative : Bool}

/-! ### Where rounding ends -/

/-- Division with ties to even stays below an even number exactly below the middle in front
of it. -/
theorem divideToEven_lt_iff {k : Nat} (positive : 0 < d) (even : k % 2 = 0) :
    divideToEven n d < k ↔ 2 * n + d < 2 * (k * d) := by
  have whole := Nat.div_add_mod' n d
  have part := Nat.mod_lt n positive
  have step : (n / d + 1) * d = n / d * d + d := Nat.succ_mul _ _
  rcases Nat.lt_trichotomy (n / d + 1) k with less | rfl | more
  · have := Nat.mul_le_mul_right d (Nat.succ_le_of_lt less)
    rw [Nat.succ_mul, step] at this
    rcases divideToEven_cases n d with ⟨chosen, side⟩ | ⟨chosen, side⟩ <;> rw [chosen] <;> omega
  · rcases divideToEven_cases n d with ⟨chosen, side⟩ | ⟨chosen, side⟩ <;> rw [chosen] <;> omega
  · have := Nat.mul_le_mul_right d (Nat.le_of_lt_succ more)
    rcases divideToEven_cases n d with ⟨chosen, side⟩ | ⟨chosen, side⟩ <;> rw [chosen] <;> omega

/-- The first count that is rounded out of range: the middle between the last one that a number
can have and the power of two behind it. -/
def rangeEnd : Nat := 2 ^ (precision + topScale) - 2 ^ (topScale - 1)

theorem two_mul_middle (bits : Nat) {scale : Nat} (h : 0 < scale) :
    2 * (2 ^ (bits + scale) - 2 ^ (scale - 1)) + 2 ^ scale = 2 * 2 ^ (bits + scale) := by
  obtain ⟨low, rfl⟩ := Nat.exists_eq_add_of_lt h
  have le : 2 ^ low ≤ 2 ^ (bits + (low + 1)) := Nat.pow_le_pow_right (by decide) (by omega)
  rw [Nat.zero_add, Nat.add_sub_cancel, Nat.pow_succ]
  omega

theorem two_mul_rangeEnd : 2 * rangeEnd + 2 ^ topScale = 2 * 2 ^ (precision + topScale) := by
  rw [rangeEnd, two_mul_middle precision (by decide)]

theorem scaleOf_le_iff {scale : Nat} :
    scaleOf units ≤ scale ↔ units < 2 ^ (precision + scale) := by
  rcases Nat.eq_zero_or_pos units with rfl | positive
  · exact iff_of_true (Nat.zero_le scale) (Nat.two_pow_pos _)
  · rw [← Nat.log2_lt (Nat.ne_of_gt positive), scaleOf]
    omega

theorem isFinite_round_iff_lt :
    (round negative n d).isFinite = true ↔ scaleOf (n / d) ≤ topScale ∧
      significandAt (scaleOf (n / d)) n d * 2 ^ scaleOf (n / d) < 2 ^ (precision + topScale) := by
  rw [← Nat.shiftLeft_eq, ← Nat.one_shiftLeft (precision + topScale), Nat.add_comm precision]
  unfold round
  dsimp only
  split
  · next inside => exact iff_of_true rfl inside
  · next outside => exact iff_of_false Bool.false_ne_true outside

/-- **A quotient is rounded to a number exactly below the end of the range.** -/
theorem isFinite_round_iff (positive : 0 < d) :
    (round negative n d).isFinite = true ↔ n < rangeEnd * d := by
  have ending : 2 * (rangeEnd * d) + 2 ^ topScale * d = 2 * (2 ^ (precision + topScale) * d) := by
    rw [← Nat.mul_assoc, ← Nat.add_mul, two_mul_rangeEnd, Nat.mul_assoc]
  rw [isFinite_round_iff_lt]
  rcases Nat.lt_trichotomy (scaleOf (n / d)) topScale with below | top | above
  · -- at the next scale there is still room
    have low := scaleOf_le_iff.1 (Nat.le_refl (scaleOf (n / d)))
    rw [Nat.div_lt_iff_lt_mul positive] at low
    have next : 2 ^ (precision + scaleOf (n / d)) * 2 ≤ 2 ^ (precision + topScale) := by
      rw [← Nat.pow_succ]
      exact Nat.pow_le_pow_right (by decide) (Nat.add_lt_add_left below precision)
    have unit : 2 ^ topScale ≤ 2 ^ (precision + topScale) :=
      Nat.pow_le_pow_right (by decide) (Nat.le_add_left _ _)
    have small := significandAt_le n d
    rw [Nat.one_shiftLeft] at small
    refine iff_of_true ⟨Nat.le_of_lt below, ?_⟩ ?_
    · rw [Nat.pow_add]
      exact Nat.mul_lt_mul_of_le_of_lt small (Nat.pow_lt_pow_right (by decide) below)
        (Nat.two_pow_pos _)
    · have next := Nat.mul_le_mul_right d next
      have unit := Nat.mul_le_mul_right d unit
      rw [Nat.mul_right_comm] at next
      omega
  · rw [top, Nat.pow_add, Nat.mul_lt_mul_right (Nat.two_pow_pos _), significandAt,
      Nat.shiftLeft_eq, divideToEven_lt_iff (Nat.mul_pos positive (Nat.two_pow_pos _)) (by decide),
      and_iff_right (Nat.le_refl _), Nat.mul_comm d, ← Nat.mul_assoc (2 ^ precision),
      ← Nat.pow_add, ← ending]
    omega
  · have high := Nat.not_le.2 above
    rw [scaleOf_le_iff, Nat.not_lt, Nat.le_div_iff_mul_le positive] at high
    refine iff_of_false (fun inside => absurd inside.1 (Nat.not_le.2 above)) (Nat.not_lt.2 ?_)
    omega

/-! ### Whole numbers and their products -/

theorem isFinite_negate (x : Number) : x.negate.isFinite = x.isFinite := by cases x <;> rfl

/-- A count below the end of the range is rounded to a nearest one. -/
theorem round_eq_of_lt (h : units < rangeEnd) :
    ∃ representable, round negative units 1 =
        .finite negative (nearestUnits units) representable ∧
      RoundedTo units (nearestUnits units) := by
  rw [← Nat.mul_one rangeEnd, ← @isFinite_round_iff units 1 negative Nat.one_pos,
    isFinite_round_iff_lt, Nat.div_one, significandAt, Nat.one_shiftLeft,
    Nat.add_comm precision] at h
  obtain ⟨representable, rounded⟩ := round_of_inRange negative h.1 h.2
  have nearest := roundedTo_signed units (by rwa [Int.natAbs_natCast])
  exact ⟨representable, rounded, nearest⟩

/-- A whole number in range has a nearest number. -/
theorem exists_ofNat_eq (h : m * unitsPerOne < rangeEnd) :
    ∃ count representable, ofNat m = .finite false count representable ∧
      RoundedTo (m * unitsPerOne : Nat) count := by
  obtain ⟨representable, rounded, nearest⟩ := @round_eq_of_lt _ false h
  exact ⟨_, representable, rounded, nearest⟩

theorem representable_unitsPerOne : Representable unitsPerOne :=
  ⟨1, unitScale, by decide, by decide, rfl⟩

/-- What a number can count is below the end of the range. -/
theorem lt_rangeEnd_of_representable (h : Representable units) : units < rangeEnd := by
  rw [← Nat.mul_one rangeEnd, ← @isFinite_round_iff units 1 false Nat.one_pos,
    round_of_representable false h]
  rfl

/-- The nearest number to a whole number that is not zero is at least one. -/
theorem unitsPerOne_le_of_roundedTo {count : Nat} (positive : 0 < m)
    (h : RoundedTo (m * unitsPerOne : Nat) count) : unitsPerOne ≤ count := by
  have near := h.near unitsPerOne representable_unitsPerOne
  have one := Nat.le_mul_of_pos_left unitsPerOne positive
  omega

/-- What is divided by a whole number stays in range. -/
theorem isFinite_divide {x : Number} (h : x.isFinite = true) (positive : 0 < m)
    (hm : m * unitsPerOne < rangeEnd) : (x.divide (ofNat m)).isFinite = true := by
  cases x with
  | nan | infinite => cases h
  | finite negative units representable =>
    obtain ⟨count, _, same, nearest⟩ := exists_ofNat_eq hm
    have one := unitsPerOne_le_of_roundedTo positive nearest
    have nonzero := Nat.lt_of_lt_of_le unitsPerOne_pos one
    rw [same, divide, if_neg (Nat.ne_of_gt nonzero), isFinite_round_iff nonzero]
    calc units * unitsPerOne < rangeEnd * unitsPerOne :=
          Nat.mul_lt_mul_of_pos_right (lt_rangeEnd_of_representable representable) unitsPerOne_pos
      _ ≤ rangeEnd * count := Nat.mul_le_mul_left _ one

/-- Only zero has zero as its nearest number. -/
theorem equal_ofNat_zero_iff (hm : m * unitsPerOne < rangeEnd) :
    (ofNat m).equal (zero false) = true ↔ m = 0 := by
  obtain ⟨count, _, same, nearest⟩ := exists_ofNat_eq hm
  have noCount : (ofNat m).equal (zero false) = true ↔ count = 0 := by
    rw [same]
    simp [equal, zero]
  rw [noCount]
  constructor
  · intro none
    refine Nat.eq_zero_of_not_pos fun positive => ?_
    have one := unitsPerOne_le_of_roundedTo positive nearest
    have := unitsPerOne_pos
    omega
  · rintro rfl
    rw [Nat.zero_mul] at nearest
    exact Int.ofNat_inj.1 (nearest.unique (roundedTo_self representable_zero))

/-- The nearest numbers to two whole numbers have a product in range. -/
def ProductInRange (m n : Nat) : Prop :=
  ∃ a b : Nat, RoundedTo (m * unitsPerOne : Nat) a ∧ RoundedTo (n * unitsPerOne : Nat) b ∧
    a * b < rangeEnd * unitsPerOne

/-- The product of the nearest numbers is a number exactly if it is in range. -/
theorem isFinite_multiply_iff (hm : m * unitsPerOne < rangeEnd) (hn : n * unitsPerOne < rangeEnd) :
    ((ofNat m).multiply (ofNat n)).isFinite = true ↔ ProductInRange m n := by
  obtain ⟨a, _, first, nearest⟩ := exists_ofNat_eq hm
  obtain ⟨b, _, second, nearest'⟩ := exists_ofNat_eq hn
  rw [first, second, multiply, isFinite_round_iff unitsPerOne_pos]
  constructor
  · exact fun inside => ⟨a, b, nearest, nearest', inside⟩
  · rintro ⟨a', b', same, same', inside⟩
    rw [Int.ofNat_inj.1 (nearest.unique same), Int.ofNat_inj.1 (nearest'.unique same')]
    exact inside

/-- A product with zero is in range. -/
theorem productInRange_zero (hn : n * unitsPerOne < rangeEnd) : ProductInRange 0 n := by
  obtain ⟨b, _, _, nearest⟩ := exists_ofNat_eq hn
  refine ⟨0, b, ?_, nearest, ?_⟩
  · rw [Nat.zero_mul]
    exact roundedTo_self representable_zero
  · rw [Nat.zero_mul]
    exact Nat.mul_pos (Nat.zero_lt_of_lt hn) unitsPerOne_pos

/-- So is one with one. -/
theorem productInRange_one (hm : m * unitsPerOne < rangeEnd) : ProductInRange m 1 := by
  obtain ⟨a, representable, _, nearest⟩ := exists_ofNat_eq hm
  refine ⟨a, unitsPerOne, nearest, ?_, ?_⟩
  · rw [Nat.one_mul]
    exact roundedTo_self representable_unitsPerOne
  · exact Nat.mul_lt_mul_of_pos_right (lt_rangeEnd_of_representable representable) unitsPerOne_pos

end Contracts.Number
