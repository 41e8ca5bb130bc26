import Contracts.Proofs.Heap.Exchange
import Contracts.Proofs.Json.WellFormed
import Contracts.Proofs.Number.Nearest

/-!
# The normal form of a JSON value

A JSON value that is made into a value and written out again comes back in its **normal
form**: with the same lists and objects, the same texts and truth values, and with each number
written as the integer that its nearest number is, if that is small enough for its neighbours
to be numbers too, and as that number otherwise.  A value in normal form comes back unchanged.

## Main definitions

* `Number.IsSafeInteger` — a number is an integer of small magnitude.
* `JsonNumber.normal`, `Json.normal` — normal forms.

## Main results

* `Number.safeInteger?_eq_some_iff` — which integer a number is taken for.
* `JsonNumber.normal_eq_self_iff` — which numbers are in normal form.
* `Store.toJson_addJson_eq_normal` — **what was made from JSON is written out in normal form.**
-/

namespace Contracts

/-! ### Safe integers -/

namespace Number

/-- A number is an integer of a magnitude up to which every integer is a number. -/
def IsSafeInteger (x : Number) (i : Int) : Prop :=
  x.count? = some (i * unitsPerOne) ∧ i.natAbs ≤ largestSafe

theorem signedUnits_mul (negative : Bool) (n m : Nat) :
    signedUnits negative (n * m) = signedUnits negative n * m := by
  cases negative with
  | false => exact Int.natCast_mul n m
  | true => exact (congrArg Neg.neg (Int.natCast_mul n m)).trans (Int.neg_mul n m).symm

/-- The number that is taken for an integer is that integer, and each that is a safe integer is
taken for it. -/
theorem safeInteger?_eq_some_iff {x : Number} {i : Int} :
    x.safeInteger? = some i ↔ x.IsSafeInteger i := by
  cases x with
  | nan => exact ⟨fun h => (nomatch h), fun h => nomatch h.1⟩
  | infinite negative => exact ⟨fun h => (nomatch h), fun h => nomatch h.1⟩
  | finite negative units representable =>
    have positive : (unitsPerOne : Int) ≠ 0 := Int.natCast_ne_zero.2 (Nat.ne_of_gt unitsPerOne_pos)
    simp only [safeInteger?, IsSafeInteger, count?, Option.some.injEq]
    constructor
    · intro h
      split at h
      · next whole =>
        cases h
        rw [← signedUnits_mul, Nat.div_mul_cancel (Nat.dvd_of_mod_eq_zero whole.1),
          natAbs_signedUnits]
        exact ⟨rfl, whole.2⟩
      · cases h
    · rintro ⟨count, small⟩
      have size : units = i.natAbs * unitsPerOne := by
        have := congrArg Int.natAbs count
        rwa [natAbs_signedUnits, Int.natAbs_mul, Int.natAbs_natCast] at this
      subst size
      rw [signedUnits_mul] at count
      rw [Nat.mul_mod_left, Nat.mul_div_cancel _ unitsPerOne_pos, if_pos ⟨rfl, small⟩,
        Int.eq_of_mul_eq_mul_right positive count]

/-- An integer of small magnitude has a number of its own. -/
theorem isSafeInteger_ofInt {i : Int} (small : i.natAbs ≤ largestSafe) :
    (ofInt i).IsSafeInteger i := by
  have representable : Representable (i.natAbs * unitsPerOne) := by
    refine ⟨i.natAbs, unitScale, Nat.lt_of_le_of_lt small (by decide), by decide, ?_⟩
    rw [Nat.shiftLeft_eq, unitsPerOne_eq]
  have sign : signedUnits (decide (i < 0)) i.natAbs = i := by
    by_cases negative : i < 0 <;> simp only [signedUnits, negative, decide_true, decide_false,
      if_true, Bool.false_eq_true, if_false] <;> omega
  refine ⟨?_, small⟩
  rw [ofInt, round_of_representable _ representable, count?, signedUnits_mul, sign]

theorem exists_count?_of_isFinite {x : Number} (h : x.isFinite = true) :
    ∃ count, x.count? = some count := by
  cases x with
  | nan => cases h
  | infinite negative => cases h
  | finite negative units representable => exact ⟨_, rfl⟩

theorem isFinite_of_count? {x : Number} {count : Int} (h : x.count? = some count) :
    x.isFinite = true := by
  cases x with
  | nan => cases h
  | infinite negative => cases h
  | finite negative units representable => rfl

/-- A finite number is the nearest one to itself. -/
theorem nearest_self {x : Number} {count : Int} (h : x.count? = some count) : x.Nearest count := by
  cases x with
  | nan => cases h
  | infinite negative => cases h
  | finite negative units representable =>
    cases h
    refine ⟨_, rfl, roundedTo_self ?_⟩
    rw [natAbs_signedUnits]
    exact representable

end Number

/-! ### Normal forms of numbers -/

namespace JsonNumber

/-- The exact signed count of units. -/
def exact : JsonNumber → Int
  | .integer i => i * unitsPerOne
  | .float x => x.count?.getD 0

/-- The normal form: an integer if the nearest number is a safe one, else that number. -/
def normal (n : JsonNumber) : JsonNumber :=
  match n.toNumber.safeInteger? with
  | some i => .integer i
  | none => .float n.toNumber

variable {n : JsonNumber}

/-- A JSON number is made into the number that is nearest to it. -/
theorem nearest_toNumber (h : n.Possible) : n.toNumber.Nearest n.exact := by
  cases n with
  | integer i => exact Number.nearest_ofInt h.1 h.2
  | float x =>
    obtain ⟨count, has⟩ := Number.exists_count?_of_isFinite h
    rw [exact, has]
    exact Number.nearest_self has

/-- A number is written out in normal form. -/
theorem toJson_toNumber (h : n.Possible) : n.toNumber.toJson = .number n.normal := by
  obtain ⟨count, has, _⟩ := nearest_toNumber h
  unfold Number.toJson normal
  cases n.toNumber.safeInteger? with
  | some i => rfl
  | none => exact if_pos (Number.isFinite_of_count? has)

theorem normal_of_isSafeInteger {i : Int} (h : n.toNumber.IsSafeInteger i) :
    n.normal = .integer i := by
  rw [normal, Number.safeInteger?_eq_some_iff.2 h]

theorem normal_of_not_isSafeInteger (h : ∀ i, ¬ n.toNumber.IsSafeInteger i) :
    n.normal = .float n.toNumber := by
  have none : n.toNumber.safeInteger? = none :=
    Option.eq_none_iff_forall_ne_some.2 fun i safe => h i (Number.safeInteger?_eq_some_iff.1 safe)
  rw [normal, none]

/-- The two forms that a normal form can have. -/
theorem normal_cases (n : JsonNumber) :
    (∃ i, n.toNumber.IsSafeInteger i ∧ n.normal = .integer i) ∨
      (∀ i, ¬ n.toNumber.IsSafeInteger i) ∧ n.normal = .float n.toNumber := by
  by_cases safe : ∃ i, n.toNumber.IsSafeInteger i
  · obtain ⟨i, safe⟩ := safe
    exact .inl ⟨i, safe, normal_of_isSafeInteger safe⟩
  · have not := fun i h => safe ⟨i, h⟩
    exact .inr ⟨not, normal_of_not_isSafeInteger not⟩

/-- Normal forms are in normal form. -/
theorem normal_normal (n : JsonNumber) : n.normal.normal = n.normal := by
  rcases normal_cases n with ⟨i, safe, form⟩ | ⟨not, form⟩
  · rw [form]
    exact normal_of_isSafeInteger (Number.isSafeInteger_ofInt safe.2)
  · rw [form]
    exact normal_of_not_isSafeInteger not

/-- Numbers in normal form are the safe integers as integers and what is no safe integer. -/
theorem normal_eq_self_iff : n.normal = n ↔
    (∃ i : Int, n = .integer i ∧ i.natAbs ≤ Number.largestSafe) ∨
      ∃ x : Number, n = .float x ∧ ∀ i, ¬ x.IsSafeInteger i := by
  constructor
  · intro same
    rcases normal_cases n with ⟨i, safe, form⟩ | ⟨not, form⟩
    · exact .inl ⟨i, same.symm.trans form, safe.2⟩
    · exact .inr ⟨n.toNumber, same.symm.trans form, not⟩
  · rintro (⟨i, rfl, small⟩ | ⟨x, rfl, not⟩)
    · exact normal_of_isSafeInteger (Number.isSafeInteger_ofInt small)
    · exact normal_of_not_isSafeInteger not

end JsonNumber

/-! ### Normal forms of values -/

namespace Json

mutual

/-- The normal form of a value: all its numbers are in normal form. -/
def normal : Json → Json
  | .null => .null
  | .boolean b => .boolean b
  | .number n => .number n.normal
  | .string s => .string s
  | .array items => .array (normalItems items)
  | .object members => .object (normalMembers members)

/-- The normal forms of the items of a list. -/
def normalItems : List Json → List Json
  | [] => []
  | item :: rest => item.normal :: normalItems rest

/-- The normal forms of the members of an object. -/
def normalMembers : List (String × Json) → List (String × Json)
  | [] => []
  | (key, value) :: rest => (key, value.normal) :: normalMembers rest

end

mutual

/-- The numbers of a normal form are the normal forms of the numbers. -/
theorem numbers_normal (json : Json) :
    json.normal.numbers = json.numbers.map JsonNumber.normal := by
  cases json with
  | null | boolean _ | number _ | string _ => simp only [normal, numbers, List.map]
  | array items => rw [normal, numbers, numbers, numbersOfItems_normal]
  | object members => rw [normal, numbers, numbers, numbersOfMembers_normal]

theorem numbersOfItems_normal (items : List Json) :
    numbersOfItems (normalItems items) = (numbersOfItems items).map JsonNumber.normal := by
  cases items with
  | nil => rfl
  | cons item rest =>
    rw [normalItems, numbersOfItems, numbersOfItems, numbers_normal, numbersOfItems_normal,
      List.map_append]

theorem numbersOfMembers_normal (members : List (String × Json)) :
    numbersOfMembers (normalMembers members) =
      (numbersOfMembers members).map JsonNumber.normal := by
  cases members with
  | nil => rfl
  | cons member rest =>
    rw [normalMembers, numbersOfMembers, numbersOfMembers, numbers_normal,
      numbersOfMembers_normal, List.map_append]

end

mutual

/-- A value is in normal form just when all its numbers are. -/
theorem normal_eq_self_iff (json : Json) :
    json.normal = json ↔ ∀ n ∈ json.numbers, n.normal = n := by
  cases json with
  | null | boolean _ | string _ => simp [normal, numbers]
  | number n => simp [normal, numbers]
  | array items => rw [normal, numbers, array.injEq, normalItems_eq_self_iff]
  | object members => rw [normal, numbers, object.injEq, normalMembers_eq_self_iff]

theorem normalItems_eq_self_iff (items : List Json) :
    normalItems items = items ↔ ∀ n ∈ numbersOfItems items, n.normal = n := by
  cases items with
  | nil => simp [normalItems, numbersOfItems]
  | cons item rest =>
    rw [normalItems, numbersOfItems, List.cons.injEq, List.forall_mem_append,
      normal_eq_self_iff, normalItems_eq_self_iff]

theorem normalMembers_eq_self_iff (members : List (String × Json)) :
    normalMembers members = members ↔ ∀ n ∈ numbersOfMembers members, n.normal = n := by
  cases members with
  | nil => simp [normalMembers, numbersOfMembers]
  | cons member rest =>
    rw [normalMembers, numbersOfMembers, List.cons.injEq, List.forall_mem_append,
      ← normal_eq_self_iff, normalMembers_eq_self_iff, Prod.ext_iff]
    simp

end

/-- Normal forms are in normal form. -/
theorem normal_normal (json : Json) : json.normal.normal = json.normal := by
  rw [normal_eq_self_iff, numbers_normal, List.forall_mem_map]
  exact fun n _ => n.normal_normal

end Json

/-! ### There and back -/

namespace Tree

mutual

/-- What was made from a JSON value is written out in normal form. -/
theorem toJson_ofJson {json : Json} (sorted : json.Sorted)
    (possible : ∀ n ∈ json.numbers, n.Possible) : (ofJson json).toJson = json.normal := by
  cases json with
  | null | boolean _ | string _ => rfl
  | number n => exact JsonNumber.toJson_toNumber (possible n (List.mem_singleton.2 rfl))
  | array items =>
    rw [ofJson, toJson, Json.normal, toJsonItems_ofJsonItems sorted possible]
  | object members =>
    have ascending : (ofJsonMembers members).Pairwise fun a b => a.1 < b.1 := by
      rw [ofJsonMembers_eq_map]
      exact List.pairwise_map.2 sorted.1
    rw [ofJson, Dict.entries_ofList_of_ascending ascending, toJson, Json.normal,
      toJsonMembers_ofJsonMembers sorted.2 possible]

theorem toJsonItems_ofJsonItems {items : List Json} (sorted : Json.SortedItems items)
    (possible : ∀ n ∈ Json.numbersOfItems items, n.Possible) :
    toJsonItems (ofJsonItems items) = Json.normalItems items := by
  cases items with
  | nil => rfl
  | cons item rest =>
    rw [Json.numbersOfItems, List.forall_mem_append] at possible
    rw [ofJsonItems, toJsonItems, Json.normalItems, toJson_ofJson sorted.1 possible.1,
      toJsonItems_ofJsonItems sorted.2 possible.2]

theorem toJsonMembers_ofJsonMembers {members : List (String × Json)}
    (sorted : Json.SortedMembers members)
    (possible : ∀ n ∈ Json.numbersOfMembers members, n.Possible) :
    toJsonMembers (ofJsonMembers members) = Json.normalMembers members := by
  cases members with
  | nil => rfl
  | cons member rest =>
    rw [Json.numbersOfMembers, List.forall_mem_append] at possible
    rw [ofJsonMembers, toJsonMembers, Json.normalMembers, toJson_ofJson sorted.1 possible.1,
      toJsonMembers_ofJsonMembers sorted.2 possible.2]

end

end Tree

namespace Store

open Number (largestSafe)

/-- **The main theorem**: what is made from a JSON value, in any store, is written out as its
normal form.  Each number has become the integer that the nearest number is, if that is a safe
one, and the nearest number itself otherwise; of two that are equally near the even one is
taken, and no number is lost.  The normal form is its own, and a value comes back unchanged
just when each of its numbers is a safe integer held as an integer, or is no safe integer and
not held as one. -/
theorem toJson_addJson_eq_normal {json : Json} (h : json.WellFormed) :
    (∀ store : Store,
      (store.addJson json).1.toJson (store.addJson json).2 = json.normal) ∧
    json.normal.numbers = json.numbers.map JsonNumber.normal ∧
    (∀ n ∈ json.numbers, ∃ x : Number, x.Nearest n.exact ∧
      (∀ other : Number, other.Nearest n.exact → other.count? = x.count?) ∧
      ((∃ i, x.IsSafeInteger i ∧ n.normal = .integer i) ∨
        (∀ i, ¬ x.IsSafeInteger i) ∧ n.normal = .float x)) ∧
    json.normal.normal = json.normal ∧
    (json.normal = json ↔ ∀ n ∈ json.numbers,
      (∃ i : Int, n = .integer i ∧ i.natAbs ≤ largestSafe) ∨
        ∃ x : Number, n = .float x ∧ ∀ i, ¬ x.IsSafeInteger i) := by
  refine ⟨fun store => ?_, json.numbers_normal, fun n member => ?_, json.normal_normal, ?_⟩
  · rw [toJson, unfold_addJson]
    exact Tree.toJson_ofJson h.sorted h.possible
  · have nearest := JsonNumber.nearest_toNumber (h.possible n member)
    exact ⟨n.toNumber, nearest, fun other near => near.count?_eq nearest, n.normal_cases⟩
  · rw [Json.normal_eq_self_iff]
    exact forall₂_congr fun n _ => JsonNumber.normal_eq_self_iff

/-- Numbers on both sides of where the integers stop having numbers of their own: a tie goes to
the even side, once downwards and once upwards, and the greatest integer goes up. -/
theorem toJson_addJson_eq_normal_boundary :
    let json : Json := .array
      [.number (.integer (2 ^ 53 - 1)), .number (.integer (2 ^ 53 + 1)),
        .number (.integer (-2 ^ 53 - 3)), .number (.integer (2 ^ 64 - 1)),
        .object [("half", .number (.float (.round false unitsPerOne 2))),
          ("zero", .number (.float (.zero true)))]]
    json.WellFormed ∧ json.normal ≠ json ∧
      ((Store.empty.addJson json).1.toJson (Store.empty.addJson json).2).print =
        "[9007199254740991,9007199254740992.0,-9007199254740996.0,1.8446744073709552e+19," ++
          "\x7b\"half\":0.5,\"zero\":0\x7d]" := by
  intro json
  have wellFormed : json.WellFormed := by
    refine ⟨?_, ?_⟩
    · simp only [json, Json.Sorted, Json.SortedItems, Json.SortedMembers]
      decide
    · decide +kernel
  obtain ⟨back, _, _, _, same⟩ := toJson_addJson_eq_normal wellFormed
  refine ⟨wellFormed, fun fixed => ?_, ?_⟩
  · -- the second number is an integer, but no safe one
    have second : JsonNumber.integer (2 ^ 53 + 1) ∈ json.numbers := by
      simp [json, Json.numbers, Json.numbersOfItems]
    rcases same.1 fixed _ second with ⟨i, held, small⟩ | ⟨x, held, _⟩
    · cases held
      exact absurd small (by decide)
    · cases held
  · rw [back]
    decide +kernel

end Store

end Contracts
