import Contracts.Definition.Kind
import Contracts.Proofs.Heap.Nesting

/-!
# Equality of values

Scalars are equal by what they are, all else by identity.  The one value that does not equal
itself is not-a-number, and the one way for different scalars to be equal is to be zeros of
opposite sign; so equality is a partial equivalence that is next to identity.  Apart from how
such zeros are displayed, nothing that is told of a value tells equal values apart.

What equality does not show by itself is that functions with one identity are one function:
this holds as long as identities are not given twice.

## Main definitions

* `Value.OppositeZeros` — two zeros of opposite sign.
* `Store.Alike` — what is told of two values is the same, such zeros apart.

## Main results

* `Value.same_comm`, `Value.same_trans`, `Value.same_self_iff` — **equality is a partial
  equivalence** that leaves out not-a-number.
* `Value.same_value_iff` — containers are equal if they are the same.
* `Value.eq_or_of_same` — how different values can be equal.
* `Store.alike_of_oppositeZeros` — what is told of zeros.
-/

namespace Contracts

/-! ### Numbers -/

namespace Number

theorem equal_comm (x y : Number) : x.equal y = y.equal x := by
  rw [Bool.eq_iff_iff]
  cases x <;> cases y <;> simp only [equal, Bool.and_eq_true, Bool.or_eq_true, beq_iff_eq]
  case infinite.infinite => exact eq_comm
  case finite.finite =>
    constructor
    · rintro ⟨rfl, rfl | zero⟩
      · exact ⟨rfl, .inl rfl⟩
      · exact ⟨rfl, .inr zero⟩
    · rintro ⟨rfl, rfl | zero⟩
      · exact ⟨rfl, .inl rfl⟩
      · exact ⟨rfl, .inr zero⟩

theorem equal_self_iff (x : Number) : x.equal x = true ↔ x ≠ .nan := by
  cases x <;> simp [equal]

/-- Equal numbers are the same, or zeros of opposite sign. -/
theorem eq_or_zeros_of_equal {x y : Number} (same : x.equal y = true) :
    x = y ∨ ∃ negative, x = zero negative ∧ y = zero !negative := by
  unfold equal at same
  split at same
  · exact .inl (congrArg infinite (beq_iff_eq.1 same))
  · next negative units representable negative' units' representable' =>
    simp only [Bool.and_eq_true, Bool.or_eq_true, beq_iff_eq] at same
    obtain ⟨rfl, rfl | rfl⟩ := same
    · exact .inl rfl
    · by_cases signs : negative = negative'
      · exact .inl (signs ▸ rfl)
      · have opposite : negative' = !negative := Bool.eq_not.2 (Ne.symm signs)
        exact .inr ⟨negative, rfl, opposite ▸ rfl⟩
  · cases same

theorem equal_zero (negative negative' : Bool) :
    (zero negative).equal (zero negative') = true := by
  cases negative <;> cases negative' <;> rfl

theorem equal_trans {x y z : Number} (first : x.equal y = true) (second : y.equal z = true) :
    x.equal z = true := by
  rcases eq_or_zeros_of_equal first with rfl | ⟨negative, rfl, rfl⟩
  · exact second
  · rcases eq_or_zeros_of_equal second with rfl | ⟨negative', _, rfl⟩
    · exact first
    · exact equal_zero negative _

/-- The two zeros have the same JSON value, which is an integer. -/
theorem toJson_zero (negative : Bool) : (zero negative).toJson = .number (.integer 0) := by
  cases negative <;> rfl

end Number

/-! ### Values -/

namespace Value

variable {a b c : Value}

theorem same_comm (a b : Value) : a.same b = b.same a := by
  cases a <;> cases b <;> try rfl
  case number.number x y => exact x.equal_comm y
  all_goals exact Bool.beq_comm

/-- **Not-a-number is the one value that does not equal itself.** -/
theorem same_self_iff (a : Value) : a.same a = true ↔ a ≠ .number .nan := by
  cases a with
  | number x =>
    rw [same, Number.equal_self_iff, Ne, Ne, number.injEq]
  | _ => simp [same]

/-- Two zeros of opposite sign. -/
def OppositeZeros (a b : Value) : Prop :=
  ∃ negative, a = .number (.zero negative) ∧ b = .number (.zero !negative)

/-- **Equal values** are the same, or zeros of opposite sign, or functions with one identity. -/
theorem eq_or_of_same (same : a.same b = true) :
    a = b ∨ a.OppositeZeros b ∨ ∃ f g, a = .function f ∧ b = .function g ∧ f.id = g.id := by
  unfold Value.same at same
  split at same
  · exact .inl rfl
  · exact .inl rfl
  · exact .inl (congrArg boolean (beq_iff_eq.1 same))
  · rcases Number.eq_or_zeros_of_equal same with rfl | ⟨negative, rfl, rfl⟩
    · exact .inl rfl
    · exact .inr (.inl ⟨negative, rfl, rfl⟩)
  · exact .inl (congrArg string (beq_iff_eq.1 same))
  · exact .inl (congrArg array (beq_iff_eq.1 same))
  · exact .inl (congrArg record (beq_iff_eq.1 same))
  · next f g => exact .inr (.inr ⟨f, g, rfl, rfl, beq_iff_eq.1 same⟩)
  · cases same

theorem same_trans (first : a.same b = true) (second : b.same c = true) : a.same c = true := by
  rcases eq_or_of_same first with rfl | ⟨negative, rfl, rfl⟩ | ⟨f, g, rfl, rfl, one⟩
  · exact second
  · cases c with
    | number x => exact Number.equal_trans (Number.equal_zero _ _) second
    | _ => cases second
  · cases c with
    | function h =>
      have one' : g.id = h.id := beq_iff_eq.1 second
      exact beq_iff_eq.2 (one.trans one')
    | _ => cases second

/-- **Containers are equal if they are the same.** -/
theorem same_value_iff (container other : Container) :
    container.value.same other.value = true ↔ container = other := by
  cases container <;> cases other <;> simp [Container.value, same]

end Value

/-! ### What is told of values -/

/-- What is told of two values in a store is the same, but for how zeros of opposite sign are
displayed: their category, the kinds they are of, and how they are exported and displayed, be it
with a look at what is open or without, as far as there is an end to it then. -/
structure Store.Alike (store : Store) (a b : Value) : Prop where
  /-- They are of one category. -/
  category : a.category = b.category
  /-- They are of the same kinds. -/
  kinds : ∀ kind : Kind, kind.accepts a = kind.accepts b
  /-- They are exported the same. -/
  exported : store.toJson a = store.toJson b
  /-- So they are to any depth. -/
  exportedWithin : ∀ depth, store.exportWithin? depth a = store.exportWithin? depth b
  /-- They are displayed the same. -/
  displayed : ¬ a.OppositeZeros b → store.display a = store.display b
  /-- So they are to any depth. -/
  displayedWithin : ¬ a.OppositeZeros b →
    ∀ depth, store.renderWithin? depth a = store.renderWithin? depth b

namespace Store

variable {a b : Value}

theorem alike_of_eq (store : Store) (same : a = b) : store.Alike a b := by
  subst same
  exact ⟨rfl, fun _ => rfl, rfl, fun _ => rfl, fun _ => rfl, fun _ _ => rfl⟩

/-- Zeros are alike. -/
theorem alike_of_oppositeZeros (store : Store) (zeros : a.OppositeZeros b) : store.Alike a b := by
  have opposite := zeros
  obtain ⟨negative, rfl, rfl⟩ := zeros
  refine ⟨rfl, fun kind => ?_, ?_, fun depth => ?_, fun apart => absurd opposite apart,
    fun apart => absurd opposite apart⟩
  · -- a tag asks only for the category and whether the value is null
    have fits (tag : Tag) : tag.fits (.number (.zero negative)) =
        tag.fits (.number (.zero !negative)) := by
      cases tag <;> rfl
    cases kind with
    | single tag => exact fits tag
    | anyOf tags => simp only [Kind.accepts, fits]
  · simp only [toJson, unfold, unfoldWithin, Tree.toJson, Number.toJson_zero]
  · simp only [exportWithin?, Number.toJson_zero]

end Store

end Contracts
