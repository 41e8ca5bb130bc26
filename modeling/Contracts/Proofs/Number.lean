import Contracts.Number

/-!
# Rounding what needs no rounding

A count of units that a number can have is rounded to itself.  So a number that is an integer
is the number of that integer, up to the sign of zero, which integers do not have.

## Main results

* `Number.round_of_representable` — **representable counts are kept.**
* `Number.ofInt_of_safeInteger?` — a number is the number of the integer that it is.
-/

namespace Contracts

/-- Representable counts are below the first that is out of range. -/
theorem Representable.lt {units : Nat} (h : Representable units) :
    units < 1 <<< (topScale + precision) := by
  obtain ⟨significand, scale, small, low, rfl⟩ := h
  rw [Nat.one_shiftLeft] at small
  rw [Nat.one_shiftLeft, Nat.shiftLeft_eq, Nat.add_comm, Nat.pow_add]
  exact Nat.mul_lt_mul_of_lt_of_le small (Nat.pow_le_pow_right (by decide) low)
    (Nat.two_pow_pos _)

namespace Number

/-- At the scale at which a representable count is rounded nothing of it is lost. -/
theorem scaleOf_of_representable {units : Nat} (h : Representable units) :
    1 <<< scaleOf units ∣ units ∧ scaleOf units ≤ topScale := by
  obtain ⟨significand, scale, small, low, rfl⟩ := h
  rw [Nat.one_shiftLeft] at small ⊢
  rw [Nat.shiftLeft_eq]
  -- the count has no more bits than the significand and the scale together
  have le : scaleOf (significand * 2 ^ scale) ≤ scale := by
    rcases Nat.eq_zero_or_pos significand with rfl | positive
    · rw [Nat.zero_mul, scaleOf]
      exact Nat.zero_le _
    · have positive' := Nat.mul_pos positive (Nat.two_pow_pos scale)
      have bits : (significand * 2 ^ scale).log2 < precision + scale := by
        refine (Nat.log2_lt (Nat.ne_of_gt positive')).2 ?_
        rw [Nat.pow_add]
        exact Nat.mul_lt_mul_of_pos_right small (Nat.two_pow_pos _)
      unfold scaleOf
      omega
  exact ⟨Nat.dvd_trans (Nat.pow_dvd_pow 2 le) (Nat.dvd_mul_left _ _), Nat.le_trans le low⟩

theorem divideToEven_of_dvd {numerator denominator : Nat} (positive : 0 < denominator)
    (h : denominator ∣ numerator) :
    divideToEven numerator denominator = numerator / denominator := by
  unfold divideToEven
  dsimp only
  rw [Nat.mod_eq_zero_of_dvd h, if_pos positive]

theorem finite_congr {negative : Bool} {units units' : Nat} {h : Representable units}
    {h' : Representable units'} (same : units = units') :
    finite negative units h = finite negative units' h' := by
  subst same
  rfl

/-- **Representable counts are kept.** -/
theorem round_of_representable (negative : Bool) {units : Nat} (h : Representable units) :
    round negative units 1 = .finite negative units h := by
  obtain ⟨divides, low⟩ := scaleOf_of_representable h
  have kept : significandAt (scaleOf units) units 1 <<< scaleOf units = units := by
    rw [Nat.one_shiftLeft] at divides
    rw [significandAt, Nat.one_shiftLeft, Nat.shiftLeft_eq,
      divideToEven_of_dvd (Nat.two_pow_pos _) divides, Nat.div_mul_cancel divides]
  unfold round
  simp only [Nat.div_one]
  rw [dif_pos ⟨low, by rw [kept]; exact h.lt⟩]
  exact finite_congr kept

theorem natAbs_signedUnits (negative : Bool) (units : Nat) :
    (signedUnits negative units).natAbs = units := by
  cases negative <;> simp [signedUnits]

theorem signedUnits_neg_iff (negative : Bool) (units : Nat) :
    signedUnits negative units < 0 ↔ negative = true ∧ units ≠ 0 := by
  cases negative <;> simp [signedUnits, Nat.pos_iff_ne_zero]

/-- A number is the number of the integer that it is, but zero is not negative then. -/
theorem ofInt_of_safeInteger? {negative : Bool} {units : Nat} {h : Representable units} {i : Int}
    (safe : (finite negative units h).safeInteger? = some i) :
    ofInt i = .finite (negative && units != 0) units h := by
  simp only [safeInteger?] at safe
  split at safe
  · next whole =>
    cases safe
    have divides := Nat.dvd_of_mod_eq_zero whole.1
    have magnitude := Nat.div_mul_cancel divides
    have sign : decide (signedUnits negative (units / unitsPerOne) < 0) =
        (negative && units != 0) := by
      rw [Bool.eq_iff_iff, decide_eq_true_eq, signedUnits_neg_iff, Bool.and_eq_true, bne_iff_ne]
      refine and_congr_right fun _ => not_congr ⟨fun zero => ?_, fun zero => ?_⟩
      · rw [← magnitude, zero, Nat.zero_mul]
      · rw [zero, Nat.zero_div]
    rw [ofInt, natAbs_signedUnits, magnitude, sign]
    exact round_of_representable _ h
  · cases safe

end Number

end Contracts
