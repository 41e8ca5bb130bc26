import Contracts.Proofs.Json.Forms
import Contracts.Proofs.Json.Magnitude

/-!
# What JSON texts stand for

A text is read as a JSON value exactly if it spells something that stays within two limits:
brackets are nested up to a depth, and no number is too great.  The value says what is spelled,
item by item; of the members of an object with one key it keeps the last.

## Main definitions

* `Json.StandsFor` — what is spelled stands for a value.
* `Json.Outline.IsWithin` — what is spelled stays within the limits.

## Main results

* `Json.recognizes_readJson` — values are read exactly if they are spelled.
* `Json.parse_eq_ok_iff_standsFor` — **which texts are read, and as which values.**
* `Json.exists_standsFor_iff` — what stays within the limits stands for a value, and nothing
  else does.
-/

namespace Contracts.Json

variable {depth : Nat} {outline : Outline} {json : Json} {input rest : List Char}

/-! ### Values that are spelled -/

/-- What is spelled stands for a value, with brackets nested up to a depth. -/
def StandsFor : Nat → Outline → Json → Prop
  | depth + 1, .array items, .array values => List.Forall₂ (StandsFor depth) items values
  | depth + 1, .object members, .object entries =>
      ∃ dict, IsDict (StandsFor depth) members dict ∧ dict.entries = entries
  | _, outline, json => ∃ found : Scalar, found.IsSpelled outline ∧ found.toJson = json

/-- Characters are those of one number at most. -/
theorem Scalar.IsSpelled.unique {found found' : Scalar} (h : found.IsSpelled outline)
    (h' : found'.IsSpelled outline) : found = found' := by
  generalize same : outline = outline' at h'
  cases h with
  | null => cases h' <;> first | rfl | cases same
  | boolean => cases h' <;> cases same; rfl
  | string => cases h' <;> cases same; rfl
  | @number numeral n value =>
    cases h' with
    | null | boolean | string => cases same
    | @number numeral' n' value' =>
      have first := (finds_readNumber_iff ends_nil).2 ⟨numeral, rfl, value⟩
      have second := (finds_readNumber_iff ends_nil).2 ⟨numeral', rfl, value'⟩
      rw [← Outline.number.inj same] at second
      obtain ⟨_, read⟩ := first
      obtain ⟨_, read'⟩ := second
      rw [read] at read'
      cases read'
      rfl

theorem standsFor_scalar_iff {found : Scalar} (h : found.IsSpelled outline) :
    StandsFor depth outline json ↔ found.toJson = json := by
  have scalar : StandsFor depth outline json ↔
      ∃ found : Scalar, found.IsSpelled outline ∧ found.toJson = json := by
    cases h <;> cases depth <;> rfl
  rw [scalar]
  constructor
  · rintro ⟨found', h', same⟩
    rwa [h.unique h']
  · exact fun same => ⟨found, h, same⟩

theorem standsFor_array_iff {items : List Outline} :
    StandsFor (depth + 1) (.array items) json ↔
      ∃ values, List.Forall₂ (StandsFor depth) items values ∧ .array values = json := by
  constructor
  · intro h
    cases json with
    | array values => exact ⟨values, h, rfl⟩
    | _ => obtain ⟨_, said, _⟩ := h; cases said
  · rintro ⟨values, are, rfl⟩
    exact are

theorem standsFor_object_iff {members : List (String × Outline)} :
    StandsFor (depth + 1) (.object members) json ↔
      ∃ dict, IsDict (StandsFor depth) members dict ∧ .object dict.entries = json := by
  constructor
  · intro h
    cases json with
    | object entries =>
      obtain ⟨dict, is, rfl⟩ := h
      exact ⟨dict, is, rfl⟩
    | _ => obtain ⟨_, said, _⟩ := h; cases said
  · rintro ⟨dict, is, rfl⟩
    exact ⟨dict, is, rfl⟩

/-- Without brackets left, lists and objects stand for nothing. -/
theorem exists_isSpelled_of_standsFor_zero (h : StandsFor 0 outline json) :
    ∃ found : Scalar, found.IsSpelled outline := by
  unfold StandsFor at h
  obtain ⟨found, said, -⟩ := h
  exact ⟨found, said⟩

theorem exists_number_of_standsFor {text : List Char} (h : StandsFor depth (.number text) json) :
    ∃ n : JsonNumber, (Scalar.number n).IsSpelled (.number text) := by
  have scalar : ∃ found : Scalar, found.IsSpelled (.number text) ∧ found.toJson = json := by
    cases depth <;> exact h
  obtain ⟨_, said, -⟩ := scalar
  cases said with
  | number value => exact ⟨_, .number value⟩

/-- **Values** are read exactly if they are spelled. -/
theorem recognizes_readJson (depth : Nat) (json : Json) :
    (readJson depth).Recognizes (StandsFor depth) json := by
  induction depth generalizing json with
  | zero =>
    have noBracket (outline : Outline) (found : Scalar) (said : found.IsSpelled outline) :
        (∀ items, outline ≠ .array items) ∧ ∀ members, outline ≠ .object members := by
      cases said <;> simp
    refine recognizes_dispatch (fun found outline said => ?_)
      (fun text is => exists_number_of_standsFor is) (fun inner rest => ?_) fun inner rest => ?_
    · rw [standsFor_scalar_iff said, Except.ok.injEq]
    · refine iff_of_false (fun ⟨_, read⟩ => nomatch read) ?_
      rintro ⟨items, -, is⟩
      obtain ⟨found, said⟩ := exists_isSpelled_of_standsFor_zero is
      exact (noBracket _ _ said).1 items rfl
    · refine iff_of_false (fun ⟨_, read⟩ => nomatch read) ?_
      rintro ⟨members, -, is⟩
      obtain ⟨found, said⟩ := exists_isSpelled_of_standsFor_zero is
      exact (noBracket _ _ said).2 members rfl
  | succ depth ih =>
    refine recognizes_dispatch (fun found outline said => ?_)
      (fun text is => exists_number_of_standsFor is) (fun inner rest => ?_) fun inner rest => ?_
    · rw [standsFor_scalar_iff said, Except.ok.injEq]
    · rw [finds_stepInside_iff, Reader.finds_map_iff]
      simp only [standsFor_array_iff, finds_readItems_iff fun value _ => ih value]
      grind
    · rw [finds_stepInside_iff, Reader.finds_map_iff]
      simp only [standsFor_object_iff, finds_readDict_iff ih]
      grind

/-- **Which texts are read, and as which values**: those that spell what stands for one, with
nothing but blanks around it. -/
theorem parse_eq_ok_iff_standsFor {text : String} :
    parse text = .ok json ↔
      ∃ outline, SpelledBy text outline ∧ StandsFor nestingLimit outline json :=
  readWhole_eq_ok_iff (recognizes_readJson nestingLimit json)

/-! ### Limits -/

/-- What is spelled stays within the limits: brackets are nested up to a depth, and numbers are
not too great. -/
def Outline.IsWithin : Nat → Outline → Prop
  | _, .null | _, .boolean _ | _, .string _ => True
  | _, .number text => ∃ numeral : Numeral, numeral.text = text ∧ numeral.InRange
  | 0, .array _ | 0, .object _ => False
  | depth + 1, .array items => ∀ item ∈ items, item.IsWithin depth
  | depth + 1, .object members => ∀ member ∈ members, member.2.IsWithin depth

theorem exists_forall₂_iff {α β : Type} {R : α → β → Prop} {items : List α} :
    (∃ values, List.Forall₂ R items values) ↔ ∀ item ∈ items, ∃ value, R item value := by
  constructor
  · rintro ⟨values, are⟩
    induction are with
    | nil => exact fun _ member => nomatch member
    | cons is _ ih => exact List.forall_mem_cons.2 ⟨⟨_, is⟩, ih⟩
  · intro each
    induction items with
    | nil => exact ⟨[], .nil⟩
    | cons item items ih =>
      obtain ⟨⟨value, is⟩, others⟩ := List.forall_mem_cons.1 each
      obtain ⟨values, are⟩ := ih others
      exact ⟨value :: values, .cons is are⟩

theorem exists_standsFor_of_isSpelled {found : Scalar} (h : found.IsSpelled outline) :
    ∃ json, StandsFor depth outline json :=
  ⟨found.toJson, (standsFor_scalar_iff h).2 rfl⟩

/-- Numbers stand for something if they are not too great. -/
theorem exists_standsFor_number_iff {text : List Char} :
    (∃ json, StandsFor depth (.number text) json) ↔
      ∃ numeral : Numeral, numeral.text = text ∧ numeral.InRange := by
  constructor
  · rintro ⟨json, is⟩
    obtain ⟨n, said⟩ := exists_number_of_standsFor is
    cases said with
    | number value => exact ⟨_, rfl, (Numeral.exists_value?_iff _).1 ⟨n, value⟩⟩
  · rintro ⟨numeral, rfl, inside⟩
    obtain ⟨n, value⟩ := numeral.exists_value?_iff.2 inside
    exact exists_standsFor_of_isSpelled (.number value)

/-- **What stays within the limits stands for a value**, and nothing else does. -/
theorem exists_standsFor_iff : (∃ json, StandsFor depth outline json) ↔ outline.IsWithin depth := by
  induction depth generalizing outline with
  | zero =>
    cases outline with
    | null => exact iff_of_true (exists_standsFor_of_isSpelled .null) trivial
    | boolean b => exact iff_of_true (exists_standsFor_of_isSpelled (.boolean b)) trivial
    | number text => exact exists_standsFor_number_iff
    | string s => exact iff_of_true (exists_standsFor_of_isSpelled (.string s)) trivial
    | array | object =>
      refine iff_of_false (fun ⟨json, is⟩ => ?_) id
      obtain ⟨_, said⟩ := exists_isSpelled_of_standsFor_zero is
      cases said
  | succ depth ih =>
    cases outline with
    | null => exact iff_of_true (exists_standsFor_of_isSpelled .null) trivial
    | boolean b => exact iff_of_true (exists_standsFor_of_isSpelled (.boolean b)) trivial
    | number text => exact exists_standsFor_number_iff
    | string s => exact iff_of_true (exists_standsFor_of_isSpelled (.string s)) trivial
    | array items =>
      simp only [standsFor_array_iff, Outline.IsWithin, ← ih, ← exists_forall₂_iff]
      exact ⟨fun ⟨_, values, are, _⟩ => ⟨values, are⟩, fun ⟨values, are⟩ => ⟨_, values, are, rfl⟩⟩
    | object members =>
      simp only [standsFor_object_iff, Outline.IsWithin, ← ih]
      constructor
      · rintro ⟨_, dict, ⟨entries, are, -⟩, rfl⟩ member isMember
        obtain ⟨entry, -, is⟩ := exists_forall₂_iff.1 ⟨entries, are⟩ member isMember
        exact ⟨entry.2, is⟩
      · intro each
        have entry : ∀ member ∈ members, ∃ entry : String × Json,
            member.1 = entry.1 ∧ StandsFor depth member.2 entry.2 := by
          intro member isMember
          obtain ⟨value, is⟩ := each member isMember
          exact ⟨(member.1, value), rfl, is⟩
        obtain ⟨entries, are⟩ := exists_forall₂_iff.2 entry
        exact ⟨_, .ofList entries, ⟨entries, are, Dict.get?_ofList entries⟩, rfl⟩

end Contracts.Json
