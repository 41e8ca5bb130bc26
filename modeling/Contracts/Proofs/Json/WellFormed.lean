import Contracts.Proofs.Json.Given
import Contracts.Proofs.Json.Magnitude
import Mathlib.Algebra.Group.Int.Defs

/-!
# Well-formed JSON values

The JSON values that texts stand for are not all that could be put together: an integer has 64
bits, another number is finite, and an object lists its members by key, each key once.
Whatever is read from a text is so.

## Main definitions

* `Json.numbers` — the numbers in a value.
* `Json.WellFormed` — a value is as one that was read.

## Main results

* `Json.gives_readNumber` — numbers that are read are possible ones.
* `Json.wellFormed_of_parse` — **what is read is well-formed.**
-/

namespace Contracts

namespace JsonNumber

/-- The numbers of JSON values: integers of 64 bits with or without a sign, and other numbers
that are finite. -/
def Possible : JsonNumber → Prop
  | .integer i => -2 ^ 63 ≤ i ∧ i < 2 ^ 64
  | .float x => x.isFinite = true

instance : DecidablePred Possible
  | .integer i => inferInstanceAs (Decidable (-2 ^ 63 ≤ i ∧ i < 2 ^ 64))
  | .float x => inferInstanceAs (Decidable (x.isFinite = true))

end JsonNumber

namespace Json

mutual

/-- The numbers in a value, in the order of its text. -/
def numbers : Json → List JsonNumber
  | .null | .boolean _ | .string _ => []
  | .number n => [n]
  | .array items => numbersOfItems items
  | .object members => numbersOfMembers members

/-- The numbers in the items of a list. -/
def numbersOfItems : List Json → List JsonNumber
  | [] => []
  | item :: rest => item.numbers ++ numbersOfItems rest

/-- The numbers in the members of an object. -/
def numbersOfMembers : List (String × Json) → List JsonNumber
  | [] => []
  | (_, value) :: rest => value.numbers ++ numbersOfMembers rest

end

mutual

/-- The keys of each object in a value ascend. -/
def Sorted : Json → Prop
  | .null | .boolean _ | .number _ | .string _ => True
  | .array items => SortedItems items
  | .object members => members.Pairwise (fun a b => a.1 < b.1) ∧ SortedMembers members

/-- The keys of each object in the items of a list ascend. -/
def SortedItems : List Json → Prop
  | [] => True
  | item :: rest => item.Sorted ∧ SortedItems rest

/-- The keys of each object in the members of an object ascend. -/
def SortedMembers : List (String × Json) → Prop
  | [] => True
  | (_, value) :: rest => value.Sorted ∧ SortedMembers rest

end

/-- A value that JSON texts stand for: its objects list their members by key, each key once,
and its numbers are possible ones. -/
structure WellFormed (json : Json) : Prop where
  /-- Keys ascend. -/
  sorted : json.Sorted
  /-- Numbers are possible. -/
  possible : ∀ n ∈ json.numbers, n.Possible

/-! ### Lists and objects of well-formed values -/

theorem wellFormed_array {items : List Json} (h : ∀ item ∈ items, item.WellFormed) :
    WellFormed (.array items) := by
  suffices sound : SortedItems items ∧ ∀ n ∈ numbersOfItems items, n.Possible from
    ⟨sound.1, sound.2⟩
  induction items with
  | nil => exact ⟨trivial, fun _ member => nomatch member⟩
  | cons item rest ih =>
    obtain ⟨first, others⟩ := List.forall_mem_cons.1 h
    obtain ⟨sorted, possible⟩ := ih others
    exact ⟨⟨first.sorted, sorted⟩, List.forall_mem_append.2 ⟨first.possible, possible⟩⟩

theorem wellFormed_object {members : List (String × Json)}
    (ascending : members.Pairwise fun a b => a.1 < b.1)
    (h : ∀ member ∈ members, member.2.WellFormed) : WellFormed (.object members) := by
  suffices sound : SortedMembers members ∧ ∀ n ∈ numbersOfMembers members, n.Possible from
    ⟨⟨ascending, sound.1⟩, sound.2⟩
  clear ascending
  induction members with
  | nil => exact ⟨trivial, fun _ member => nomatch member⟩
  | cons member rest ih =>
    obtain ⟨first, others⟩ := List.forall_mem_cons.1 h
    obtain ⟨sorted, possible⟩ := ih others
    exact ⟨⟨first.sorted, sorted⟩, List.forall_mem_append.2 ⟨first.possible, possible⟩⟩

/-! ### What is read -/

theorem possible_of_float? {significand : Significand} {exponent : Int} {n : JsonNumber}
    (h : significand.float? exponent = some n) : n.Possible := by
  obtain ⟨x, found, rfl⟩ := Option.map_eq_some_iff.1 h
  have finite := isFinite_of_timesPower? significand.fits found
  split
  · rwa [JsonNumber.Possible, Number.isFinite_negate]
  · exact finite

theorem possible_of_integer? {significand : Significand} {n : JsonNumber}
    (h : significand.integer? = some n) : n.Possible := by
  have low : significand.digits < 2 ^ 64 := significand.fits
  unfold Significand.integer? at h
  split at h
  · exact possible_of_float? h
  · split at h
    · split at h
      · next fits =>
        cases h
        have : significand.digits ≤ 2 ^ 63 := fits.2
        simp only [JsonNumber.Possible]
        omega
      · exact possible_of_float? h
    · cases h
      simp only [JsonNumber.Possible]
      omega

/-- A number that was read is the one that was found in range. -/
theorem possible_of_inRange {number : Option JsonNumber} {input rest : List Char}
    {h : rest.length < input.length} {read : Read JsonNumber input}
    (sound : ∀ n, number = some n → n.Possible) (ok : inRange number rest h = .ok read) :
    read.value.Possible := by
  cases number with
  | none => cases ok
  | some n =>
    cases ok
    exact sound n rfl

theorem gives_readExponent (significand : Significand) :
    (readExponent significand).Gives JsonNumber.Possible := by
  intro input read ok
  unfold readExponent at ok
  split at ok
  · cases ok
  · dsimp only at ok
    split at ok
    · split at ok
      · exact possible_of_inRange (fun _ => possible_of_float?) ok
      · split at ok
        · cases ok
        · cases ok
          rfl
    · cases ok

theorem possible_of_readExponentPart {significand : Significand} {plain : Option JsonNumber}
    {whole rest : List Char} {h : rest.length < whole.length} {read : Read JsonNumber whole}
    (sound : ∀ n, plain = some n → n.Possible)
    (ok : readExponentPart significand plain whole rest h = .ok read) : read.value.Possible := by
  unfold readExponentPart at ok
  split at ok
  · exact of_map_widen (gives_readExponent significand) ok
  · exact of_map_widen (gives_readExponent significand) ok
  · exact possible_of_inRange sound ok

theorem possible_of_readAfterWhole {significand : Significand} {whole rest : List Char}
    {h : rest.length < whole.length} {read : Read JsonNumber whole}
    (ok : readAfterWhole significand whole rest h = .ok read) : read.value.Possible := by
  unfold readAfterWhole at ok
  split at ok
  · dsimp only at ok
    split at ok
    · split at ok <;> cases ok
    · exact possible_of_readExponentPart (fun _ => possible_of_float?) ok
  · exact possible_of_readExponentPart (fun _ => possible_of_integer?) ok

theorem gives_readUnsigned (negative : Bool) :
    (readUnsigned negative).Gives JsonNumber.Possible := by
  intro input read ok
  unfold readUnsigned at ok
  split at ok
  · cases ok
  · split at ok
    · split at ok
      · cases ok
      · exact possible_of_readAfterWhole ok
    · split at ok
      · exact possible_of_readAfterWhole ok
      · cases ok

/-- Numbers that are read are possible ones. -/
theorem gives_readNumber : readNumber.Gives JsonNumber.Possible := by
  intro input read ok
  unfold readNumber at ok
  split at ok
  · exact of_map_widen (gives_readUnsigned true) ok
  · exact gives_readUnsigned false _ _ ok

/-- Letters are read for the value that they are the rest of. -/
theorem value_of_readLetters {value : Scalar} {letters input : List Char}
    {read : { read : Scalar × List Char // read.2.length ≤ input.length }}
    (ok : readLetters value letters input = .ok read) : read.1.1 = value := by
  fun_induction readLetters value letters input with
  | case1 => cases ok; rfl
  | case2 | case3 | case5 => cases ok
  | case4 _ _ _ _ _ result ih =>
    cases ok
    exact ih result

theorem value_of_readWord {value : Scalar} {letters whole rest : List Char}
    {h : rest.length < whole.length} {read : Read Scalar whole}
    (ok : readWord value letters whole rest h = .ok read) : read.value = value := by
  unfold readWord at ok
  split at ok
  · cases ok
  · next result =>
    cases ok
    exact value_of_readLetters result

/-- A word is no number. -/
theorem possible_of_readWord {value : Scalar} {letters whole rest : List Char}
    {h : rest.length < whole.length} {read : Read Scalar whole} (word : ∀ n, value ≠ .number n)
    (ok : readWord value letters whole rest h = .ok read) (n : JsonNumber)
    (found : read.value = .number n) : n.Possible :=
  absurd (value_of_readWord ok ▸ found) (word n)

theorem gives_readScalar :
    readScalar.Gives fun found => ∀ n, found = .number n → n.Possible := by
  intro input read ok
  unfold readScalar at ok
  split at ok
  · cases ok
  · dsimp only at ok
    split at ok
    · exact possible_of_readWord (by simp) ok
    · split at ok
      · exact possible_of_readWord (by simp) ok
      · split at ok
        · exact possible_of_readWord (by simp) ok
        · split at ok
          · cases result : readString _ with
            | error fault => rw [result] at ok; cases ok
            | ok string =>
              rw [result] at ok
              cases ok
              rintro n ⟨⟩
          · split at ok
            · cases result : readNumber _ with
              | error fault => rw [result] at ok; cases ok
              | ok number =>
                rw [result] at ok
                cases ok
                rintro n ⟨⟩
                exact gives_readNumber _ _ result
            · cases ok

theorem gives_tooDeep {P : Json → Prop} : tooDeep.Gives P := fun _ _ ok => nomatch ok

theorem wellFormed_toJson {found : Scalar} (h : ∀ n, found = .number n → n.Possible) :
    found.toJson.WellFormed := by
  cases found with
  | number n =>
    refine ⟨trivial, fun other member => ?_⟩
    rw [List.mem_singleton.1 member]
    exact h n rfl
  | null | boolean _ | string _ => exact ⟨trivial, fun _ member => nomatch member⟩

/-- Objects list their members by key, each key once, since they are gathered so. -/
theorem gives_readJson (depth : Nat) : (readJson depth).Gives WellFormed := by
  have ofScalar : ∀ (found : Scalar) value, (∀ n, found = .number n → n.Possible) →
      Except.ok found.toJson = (.ok value : Except Reason Json) → value.WellFormed := by
    rintro found _ possible ⟨⟩
    exact wellFormed_toJson possible
  induction depth with
  | zero =>
    rw [readJson]
    exact gives_dispatch_of_scalars gives_readScalar ofScalar gives_tooDeep gives_tooDeep
  | succ depth ih =>
    rw [readJson]
    refine gives_dispatch_of_scalars gives_readScalar ofScalar (gives_stepInside ?_)
      (gives_stepInside ?_)
    · exact (gives_readItems ih true).map fun items => wellFormed_array
    · exact (gives_readDict ih).map fun dict => wellFormed_object dict.ascending

/-- **What is read is well-formed.** -/
theorem wellFormed_of_parse {text : String} {json : Json} (h : parse text = .ok json) :
    json.WellFormed :=
  of_readWhole (gives_readJson nestingLimit) h

end Json

end Contracts
