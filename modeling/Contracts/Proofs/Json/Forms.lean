import Contracts.Proofs.Json.Numeral

/-!
# Forms

A reader **recognizes** a form if it finds a value exactly where something is spelled that has
the form of the value, and something behind it ends it: the number `12` also begins with the
number `1`, which no reader finds there.  Readers of lists, objects and values recognize a form
as soon as the readers that they are put together from do, since what stands behind the parts of
lists and objects ends them.

A form is a relation between what is spelled and a value.  Several spellings may have the form of
one value, and none need have it: recognition is said of one value at a time, so that a
reader may recognize some values by a form and not others.

## Main definitions

* `Json.Reader.Recognizes` — a reader finds a value exactly where its form is spelled.
* `Json.Follows` — members that are accepted lead from one state to another.
* `Json.IsDict` — what members say if the last of each key counts.

## Main results

* `Json.finds_readItems_iff`, `Json.finds_readMembers_iff` — lists and objects.
* `Json.finds_readDict_iff` — objects whose values all have one form.
* `Json.recognizes_dispatch` — values.
* `Json.readWhole_eq_ok_iff` — **whole texts.**
-/

namespace Contracts.Json

variable {α β σ : Type} {input start after rest : List Char}

/-! ### Forms -/

/-- A reader finds a value exactly where something of a certain form is spelled, and ends. -/
def Reader.Recognizes (reader : Reader α) (form : Outline → α → Prop) (value : α) : Prop :=
  ∀ input rest, Ends rest → (reader.Finds input value rest ↔
    ∃ outline, Spells (skipBlank input) outline rest ∧ form outline value)

theorem Reader.Recognizes.map {reader : Reader α} {form : Outline → α → Prop}
    (h : ∀ value, reader.Recognizes form value) (f : α → β) (value : β) :
    (Reader.map f reader).Recognizes
      (fun outline value => ∃ found, form outline found ∧ f found = value) value := by
  intro input rest ends
  rw [Reader.finds_map_iff]
  constructor
  · rintro ⟨found, finds, same⟩
    obtain ⟨outline, spelled, is⟩ := (h found input rest ends).1 finds
    exact ⟨outline, spelled, found, is, same⟩
  · rintro ⟨outline, spelled, found, is, same⟩
    exact ⟨found, (h found input rest ends).2 ⟨outline, spelled, is⟩, same⟩

/-! ### Lists -/

section Items

variable {item : Reader α} {form : Outline → α → Prop} {first : Bool} {value : α} {values : List α}

theorem finds_readItems_nil_iff :
    Reader.Finds (readItems item first) input [] rest ↔ Blanks input (']' :: rest) := by
  rw [← listTurn_eq_closed_iff first]
  constructor
  · rintro ⟨shorter, read⟩
    unfold readItems at read
    split at read
    · cases read
    · next turn =>
      cases read
      exact ⟨_, turn⟩
    · split at read
      · cases read
      · split at read <;> cases read
  · rintro ⟨shorter, turn⟩
    exact ⟨shorter, by rw [readItems, turn]⟩

theorem finds_readItems_cons_iff :
    Reader.Finds (readItems item first) input (value :: values) rest ↔
      ∃ start after, Gap first input start ∧ Opens start ∧ item.Finds start value after ∧
        Reader.Finds (readItems item false) after values rest := by
  constructor
  · rintro ⟨shorter, read⟩
    unfold readItems at read
    split at read
    · cases read
    · cases read
    · next start notLonger turn =>
      split at read
      · cases read
      · next found after shorter' one =>
        split at read
        · cases read
        · next more =>
          cases read
          obtain ⟨gap, opens⟩ := listTurn_eq_more_iff.1 ⟨notLonger, turn⟩
          exact ⟨start, after, gap, opens, ⟨shorter', one⟩, Reader.finds_of_read more⟩
  · rintro ⟨start, after, gap, opens, ⟨shorter, one⟩, ⟨shorter', more⟩⟩
    obtain ⟨notLonger, turn⟩ := listTurn_eq_more_iff.2 ⟨gap, opens⟩
    refine ⟨Nat.lt_of_lt_of_le (Nat.lt_trans shorter' shorter) notLonger, ?_⟩
    rw [readItems, turn]
    dsimp only
    rw [one]
    dsimp only
    rw [more]
    rfl

/-- **Lists** are read exactly if their items are of the form that is recognized. -/
theorem finds_readItems_iff (h : ∀ value ∈ values, item.Recognizes form value) :
    Reader.Finds (readItems item first) input values rest ↔
      ∃ items, Sequence ']' Spells first input items rest ∧ List.Forall₂ form items values := by
  -- the values say how many items there are, so they carry the induction in both directions
  induction values generalizing first input with
  | nil =>
    rw [finds_readItems_nil_iff]
    constructor
    · exact fun blanks => ⟨[], .closed blanks, .nil⟩
    · rintro ⟨items, spelled, is⟩
      cases is
      cases spelled with
      | closed blanks => exact blanks
  | cons value values ih =>
    have ⟨one, others⟩ := List.forall_mem_cons.1 h
    rw [finds_readItems_cons_iff]
    constructor
    · rintro ⟨start, after, gap, opens, finds, more⟩
      obtain ⟨items, behind, are⟩ := (ih others).1 more
      obtain ⟨outline, spelled, is⟩ := (one start after (behind.ends (.inl rfl))).1 finds
      rw [skipBlank_of_notBlank opens.notBlank] at spelled
      exact ⟨outline :: items, .cons gap spelled behind, .cons is are⟩
    · rintro ⟨items, spelled, is⟩
      cases is with
      | cons is are =>
        cases spelled with
        | cons gap spelled behind =>
          refine ⟨_, _, gap, spelled.opens, (one _ _ (behind.ends (.inl rfl))).2 ⟨_, ?_, is⟩,
            (ih others).2 ⟨_, behind, are⟩⟩
          rwa [skipBlank_of_notBlank spelled.opens.notBlank]

end Items

/-! ### Objects -/

section Members

variable {member : σ → String → Except Reason (Reader σ)} {first : Bool} {state final : σ}

/-- Members that are accepted one after the other lead from one state to another; `form` says
what a member does to the state. -/
inductive Follows (member : σ → String → Except Reason (Reader σ))
    (form : σ → String → Outline → σ → Prop) : σ → List (String × Outline) → σ → Prop
  /-- Without members nothing changes. -/
  | nil (state : σ) : Follows member form state [] state
  /-- A member is accepted, and others follow. -/
  | cons {state next final : σ} {key : String} {value : Reader σ} {outline : Outline}
      {members : List (String × Outline)} (accepted : member state key = .ok value)
      (is : form state key outline next) (more : Follows member form next members final) :
      Follows member form state ((key, outline) :: members) final

theorem finds_readMembers_unfold :
    Reader.Finds (readMembers member first state) input final rest ↔
      (Blanks input ('\x7d' :: rest) ∧ state = final) ∨
      ∃ start key afterKey value afterColon next after, Gap first input ('"' :: start) ∧
        readString.Finds start key afterKey ∧ member state key = .ok value ∧
        readColon.Finds afterKey () afterColon ∧ value.Finds afterColon next after ∧
        Reader.Finds (readMembers member false next) after final rest := by
  constructor
  · rintro ⟨shorter, read⟩
    unfold readMembers at read
    split at read
    · cases read
    · next turn =>
      cases read
      exact .inl ⟨(objectTurn_eq_closed_iff _).1 ⟨_, turn⟩, rfl⟩
    · next start notLonger turn =>
      split at read
      · cases read
      · next key afterKey h₁ readKey =>
        split at read
        · cases read
        · next value accepted =>
          split at read
          · cases read
          · next afterColon h₂ colon =>
            split at read
            · cases read
            · next next after h₃ valued =>
              split at read
              · cases read
              · next more =>
                cases read
                exact .inr ⟨start, key, afterKey, value, afterColon, next, after,
                  objectTurn_eq_more_iff.1 ⟨notLonger, turn⟩, ⟨h₁, readKey⟩, accepted, ⟨h₂, colon⟩,
                  ⟨h₃, valued⟩, Reader.finds_of_read more⟩
  · rintro (⟨blanks, rfl⟩ | ⟨start, key, afterKey, value, afterColon, next, after, gap,
      ⟨h₁, readKey⟩, accepted, ⟨h₂, colon⟩, ⟨h₃, valued⟩, ⟨h₄, more⟩⟩)
    · obtain ⟨shorter, turn⟩ := (objectTurn_eq_closed_iff first).2 blanks
      exact ⟨shorter, by rw [readMembers, turn]⟩
    · obtain ⟨notLonger, turn⟩ := objectTurn_eq_more_iff.2 gap
      refine ⟨by omega, ?_⟩
      rw [readMembers, turn]
      dsimp only
      rw [readKey]
      dsimp only
      rw [accepted]
      dsimp only
      rw [colon]
      dsimp only
      rw [valued]
      dsimp only
      rw [more]
      rfl

/-- **Objects** are read exactly if their members are accepted one after the other, with
values of the forms that are recognized. -/
theorem finds_readMembers_iff {form : σ → String → Outline → σ → Prop}
    (h : ∀ state key value, member state key = .ok value →
      ∀ next, value.Recognizes (form state key) next) :
    Reader.Finds (readMembers member first state) input final rest ↔
      ∃ members, Sequence '\x7d' (Member Spells) first input members rest ∧
        Follows member form state members final := by
  constructor
  · intro finds
    -- what is left behind each member is shorter
    generalize length : input.length = n
    induction n using Nat.strongRecOn generalizing first state input with
    | ind n ih =>
      subst length
      rcases finds_readMembers_unfold.1 finds with ⟨blanks, rfl⟩ |
        ⟨start, key, afterKey, value, afterColon, next, after, gap, readKey, accepted, colon,
          valued, more⟩
      · exact ⟨[], .closed blanks, .nil _⟩
      · have behind : after.length < input.length := by
          have first := gap.length_le
          have ⟨second, _⟩ := readKey
          have ⟨third, _⟩ := colon
          have ⟨fourth, _⟩ := valued
          rw [List.length_cons] at first
          omega
        obtain ⟨members, spelled, follows⟩ := ih _ behind more rfl
        obtain ⟨characters, quoted, rfl⟩ := finds_readString_iff.1 readKey
        obtain ⟨outline, found, is⟩ :=
          (h _ _ _ accepted _ _ _ (spelled.ends (.inr rfl))).1 valued
        exact ⟨_ :: members,
          .cons gap (.mk quoted (finds_readColon_iff.1 colon) (blanks_skipBlank _) found) spelled,
          .cons accepted is follows⟩
  · rintro ⟨members, spelled, follows⟩
    induction spelled generalizing state with
    | closed blanks =>
      cases follows
      exact finds_readMembers_unfold.2 (.inl ⟨blanks, rfl⟩)
    | cons gap part behind ih =>
      cases part with
      | mk quoted colon blanks found =>
        cases follows with
        | cons accepted is more =>
          have starts := skipBlank_eq_iff.2 ⟨blanks, found.opens.notBlank⟩
          refine finds_readMembers_unfold.2 (.inr ⟨_, _, _, _, _, _, _, gap,
            finds_readString_iff.2 ⟨_, quoted, rfl⟩, accepted, finds_readColon_iff.2 colon,
            (h _ _ _ accepted _ _ _ (behind.ends (.inr rfl))).2 ⟨_, ?_, is⟩, ih more⟩)
          rwa [starts]

end Members

/-- What is bound to keys in turn is what the last of each says. -/
theorem follows_insert_iff {value : Reader β} {form : Outline → β → Prop} {start final : Dict β}
    {members : List (String × Outline)} :
    Follows (fun dict key => .ok (Reader.map (dict.insert key) value))
        (fun dict key outline next => ∃ found, form outline found ∧ dict.insert key found = next)
        start members final ↔
      ∃ entries : List (String × β),
        List.Forall₂ (fun member entry => member.1 = entry.1 ∧ form member.2 entry.2) members
          entries ∧
        entries.foldl (fun dict entry => dict.insert entry.1 entry.2) start = final := by
  constructor
  · intro follows
    induction follows with
    | nil state => exact ⟨[], .nil, rfl⟩
    | cons _ is _ ih =>
      obtain ⟨found, is, rfl⟩ := is
      obtain ⟨entries, are, rfl⟩ := ih
      exact ⟨(_, found) :: entries, .cons ⟨rfl, is⟩ are, rfl⟩
  · rintro ⟨entries, are, rfl⟩
    induction are generalizing start with
    | nil => exact .nil start
    | @cons member entry _ _ is _ ih =>
      obtain ⟨key, outline⟩ := member
      obtain ⟨key', found⟩ := entry
      obtain ⟨same, is⟩ := is
      dsimp only at same is
      subst same
      exact .cons rfl ⟨found, is, rfl⟩ ih

/-- The members of an object say what a dictionary holds, the last of each key. -/
def IsDict (form : Outline → β → Prop) (members : List (String × Outline)) (dict : Dict β) : Prop :=
  ∃ entries : List (String × β),
    List.Forall₂ (fun member entry => member.1 = entry.1 ∧ form member.2 entry.2) members entries ∧
      ∀ key, dict.get? key = entries.reverse.lookup key

/-- **Objects with one reader** are read exactly if their values are of the form. -/
theorem finds_readDict_iff {value : Reader β} {form : Outline → β → Prop} {dict : Dict β}
    (h : ∀ found, value.Recognizes form found) :
    (readDict value).Finds input dict rest ↔
      ∃ members, Sequence '\x7d' (Member Spells) true input members rest ∧
        IsDict form members dict := by
  have values : ∀ (state : Dict β) (key : String) (reader : Reader (Dict β)),
      (Except.ok (Reader.map (state.insert key) value) : Except Reason (Reader (Dict β))) =
        .ok reader →
      ∀ next, reader.Recognizes
        (fun outline next => ∃ found, form outline found ∧ state.insert key found = next) next := by
    rintro state key _ ⟨⟩ next
    exact .map h _ next
  have bound (entries : List (String × β)) :
      Dict.ofList entries = dict ↔ ∀ key, dict.get? key = entries.reverse.lookup key := by
    constructor
    · rintro rfl
      exact Dict.get?_ofList entries
    · intro same
      exact Dict.ext_get? fun key => (Dict.get?_ofList entries key).trans (same key).symm
  refine (finds_readMembers_iff values).trans ?_
  refine exists_congr fun members => and_congr_right fun _ => ?_
  rw [follows_insert_iff]
  exact exists_congr fun entries => and_congr_right fun _ => bound entries

/-! ### Values -/

section Values

variable {scalar : Scalar → Except Reason α} {list object inside : Reader α} {value : α}
  {form : Outline → α → Prop}

theorem finds_stepInside_iff {c : Char} :
    (stepInside inside).Finds (c :: input) value rest ↔ inside.Finds input value rest :=
  widen_eq_ok_iff (length_le_cons c input)

theorem finds_bracketed_iff {inside : Nat → Reader α} {depth : Nat} {c : Char} :
    (bracketed (depth + 1) inside).Finds (c :: input) value rest ↔
      (inside depth).Finds input value rest := finds_stepInside_iff

theorem finds_dispatch_list_iff {inner : List Char} (starts : skipBlank input = '[' :: inner) :
    (dispatch scalar list object).Finds input value rest ↔
      list.Finds ('[' :: inner) value rest := by
  unfold Reader.Finds dispatch
  generalize length_skipBlank_le input = notLonger
  revert notLonger
  rw [starts]
  exact widen_eq_ok_iff

theorem finds_dispatch_object_iff {inner : List Char} (starts : skipBlank input = '\x7b' :: inner) :
    (dispatch scalar list object).Finds input value rest ↔
      object.Finds ('\x7b' :: inner) value rest := by
  unfold Reader.Finds dispatch
  generalize length_skipBlank_le input = notLonger
  revert notLonger
  rw [starts]
  exact widen_eq_ok_iff

theorem finds_dispatch_scalar_iff {start : List Char} (starts : skipBlank input = start)
    (noList : ∀ inner, start ≠ '[' :: inner) (noObject : ∀ inner, start ≠ '\x7b' :: inner) :
    (dispatch scalar list object).Finds input value rest ↔
      ∃ found, readScalar.Finds start found rest ∧ scalar found = .ok value := by
  unfold Reader.Finds dispatch
  generalize length_skipBlank_le input = notLonger
  revert notLonger
  rw [starts]
  intro notLonger
  dsimp only
  split
  · exact absurd rfl (noList _)
  · exact absurd rfl (noObject _)
  · constructor
    · rintro ⟨shorter, read⟩
      split at read
      · cases read
      · next found after shorter' read' =>
        split at read
        · cases read
        · next taken =>
          cases read
          exact ⟨found, ⟨shorter', read'⟩, taken⟩
    · rintro ⟨found, ⟨shorter, read⟩, taken⟩
      refine ⟨Nat.lt_of_lt_of_le shorter notLonger, ?_⟩
      rw [read]
      dsimp only
      rw [taken]

/-- **Values** are read exactly if scalars, lists and objects are, each of the form. -/
theorem recognizes_dispatch
    (scalars : ∀ found outline, found.IsSpelled outline →
      (scalar found = .ok value ↔ form outline value))
    (numbers : ∀ text, form (.number text) value → ∃ n : JsonNumber,
      (Scalar.number n).IsSpelled (.number text))
    (lists : ∀ inner rest, list.Finds ('[' :: inner) value rest ↔
      ∃ items, Sequence ']' Spells true inner items rest ∧ form (.array items) value)
    (objects : ∀ inner rest, object.Finds ('\x7b' :: inner) value rest ↔
      ∃ members, Sequence '\x7d' (Member Spells) true inner members rest ∧
        form (.object members) value) :
    (dispatch scalar list object).Recognizes form value := by
  intro input rest ends
  generalize starts : skipBlank input = start
  -- the first character that is not blank decides
  by_cases isList : ∃ inner, start = '[' :: inner
  · obtain ⟨inner, rfl⟩ := isList
    rw [finds_dispatch_list_iff starts, lists]
    constructor
    · rintro ⟨items, spelled, is⟩
      exact ⟨_, .array spelled, is⟩
    · rintro ⟨outline, spelled, is⟩
      cases spelled with
      | number isNumeral split => exact absurd split (isNumeral.append_ne (by decide) rest inner)
      | array spelled => exact ⟨_, spelled, is⟩
  by_cases isObject : ∃ inner, start = '\x7b' :: inner
  · obtain ⟨inner, rfl⟩ := isObject
    rw [finds_dispatch_object_iff starts, objects]
    constructor
    · rintro ⟨members, spelled, is⟩
      exact ⟨_, .object spelled, is⟩
    · rintro ⟨outline, spelled, is⟩
      cases spelled with
      | number isNumeral split => exact absurd split (isNumeral.append_ne (by decide) rest inner)
      | object spelled => exact ⟨_, spelled, is⟩
  · rw [finds_dispatch_scalar_iff starts (fun inner same => isList ⟨inner, same⟩)
      fun inner same => isObject ⟨inner, same⟩]
    constructor
    · rintro ⟨found, finds, taken⟩
      obtain ⟨outline, spelled, is⟩ := (finds_readScalar_iff ends).1 finds
      exact ⟨outline, spelled, (scalars found outline is).1 taken⟩
    · rintro ⟨outline, spelled, is⟩
      -- lists and objects start with their brackets, so something else is spelled here
      have scalar : ∃ found : Scalar, found.IsSpelled outline := by
        cases spelled with
        | null => exact ⟨_, .null⟩
        | «true» => exact ⟨_, .boolean true⟩
        | «false» => exact ⟨_, .boolean false⟩
        | string => exact ⟨_, .string _⟩
        | number =>
          obtain ⟨n, said⟩ := numbers _ is
          exact ⟨_, said⟩
        | array => exact absurd ⟨_, rfl⟩ isList
        | object => exact absurd ⟨_, rfl⟩ isObject
      obtain ⟨found, said⟩ := scalar
      exact ⟨found, (finds_readScalar_iff ends).2 ⟨outline, spelled, said⟩,
        (scalars found outline said).2 is⟩

end Values

theorem not_finds_refuse {found : Found} {expected : String} {value : α} :
    ¬ (refuse found expected).Finds input value rest := fun ⟨_, read⟩ => nomatch read

/-! ### Whole texts -/

/-- **Whole texts** are read exactly if they spell something of the form. -/
theorem readWhole_eq_ok_iff {reader : Reader α} {form : Outline → α → Prop} {value : α}
    (h : reader.Recognizes form value) {text : String} :
    readWhole reader text = .ok value ↔ ∃ outline, SpelledBy text outline ∧ form outline value := by
  constructor
  · intro whole
    unfold readWhole at whole
    split at whole
    · cases whole
    · next read found =>
      split at whole
      · next nothing =>
        cases whole
        have behind := skipBlank_eq_nil_iff.1 nothing
        obtain ⟨outline, spelled, is⟩ :=
          (h _ _ (behind.ends ends_nil)).1 (Reader.finds_of_read found)
        exact ⟨outline, ⟨_, _, blanks_skipBlank _, spelled, behind⟩, is⟩
      · cases whole
  · rintro ⟨outline, ⟨start, behind, before, spelled, after⟩, is⟩
    have starts := skipBlank_eq_iff.2 ⟨before, spelled.opens.notBlank⟩
    obtain ⟨shorter, found⟩ :=
      (h text.toList behind (after.ends ends_nil)).2 ⟨outline, by rwa [starts], is⟩
    rw [readWhole, found]
    dsimp only
    rw [skipBlank_eq_nil_iff.2 after]

end Contracts.Json
