import Contracts.Format.Fields
import Contracts.Proofs.Json.Forms

/-!
# Formats with named fields, exactly

A format with fields has two spellings.  As an object, each member brings the **part** of
its name into a draft: parts are brought independently of each other, so a draft is complete
whatever the order of the members, and what counts is only which are given.  As a list,
the items are the parts in the order of their names, and the list may end early.

## Main definitions

* `Json.Part`, `Json.Parts` — what members bring into a draft.
* `Json.AreNamed`, `Json.Gives` — parts given by name, and parts given either way.
* `Json.Optional` — a part that may be left out.
* `Json.Reader.Completes` — a reader behind an opening bracket finds a value exactly where the
  items have its form.

## Main results

* `Json.Parts.follows_iff` — **members one after the other** name different parts and fill them.
* `Json.completes_readField` — fields in order.
* `Json.recognizes_readFields` — **formats with fields.**
-/

namespace Contracts.Json

variable {α β σ : Type} {input start after rest : List Char}

/-! ### Parts -/

/-- A part of what the members of an object bring together, each part under its name. -/
structure Part (σ : Type) where
  /-- The name of the part. -/
  name : String
  /-- What the part can be. -/
  Value : Type
  /-- The part so far. -/
  get : σ → Option Value
  /-- Bring the part. -/
  set : σ → Value → σ
  /-- What has to be spelled for the part. -/
  form : Outline → Value → Prop

/-- What consists of parts: they have different names, are brought independently of each
other, and make up the whole. -/
structure Parts (σ : Type) where
  /-- The parts. -/
  all : List (Part σ)
  /-- No two have the same name. -/
  nodup : (all.map Part.name).Nodup
  /-- A part that is brought is there. -/
  get_set : ∀ part ∈ all, ∀ state value, part.get (part.set state value) = some value
  /-- It changes no other. -/
  get_set_of_ne : ∀ part ∈ all, ∀ other ∈ all, other.name ≠ part.name →
    ∀ state value, other.get (part.set state value) = other.get state
  /-- Nothing else is there. -/
  ext : ∀ state state', (∀ part ∈ all, part.get state = part.get state') → state = state'

/-- Members have names out of a list, no two of them the same. -/
structure AreNamed (names : List String) (members : List (String × Outline)) : Prop where
  /-- There are no other names. -/
  only : ∀ member ∈ members, member.1 ∈ names
  /-- No name comes twice. -/
  once : (members.map Prod.fst).Nodup

/-- A part that is given fills its place, which has to be empty before. -/
def Filled (form : Outline → α → Prop) (before : Option α) : Option Outline → Option α → Prop
  | none, after => after = before
  | some outline, after => before = none ∧ ∃ value, form outline value ∧ after = some value

theorem filled_some_iff {form : Outline → α → Prop} {value : α} {given : Option Outline}
    {after : Option α} :
    Filled form (some value) given after ↔ given = none ∧ after = some value := by
  cases given <;> simp [Filled]

/-- A part may be left out, and has a certain value then. -/
def Optional (form : Outline → α → Prop) (absent : α) : Option Outline → α → Prop
  | some outline, value => form outline value
  | none, value => value = absent

/-- What a part is at the end if it was not there before. -/
theorem exists_filled_iff {form : Outline → α → Prop} {absent value : α} {given : Option Outline} :
    (∃ after, Filled form none given after ∧ after.getD absent = value) ↔
      Optional form absent given value := by
  cases given with
  | none =>
    constructor
    · rintro ⟨_, rfl, rfl⟩
      rfl
    · rintro rfl
      exact ⟨none, rfl, rfl⟩
  | some outline =>
    constructor
    · rintro ⟨_, ⟨-, value, is, rfl⟩, rfl⟩
      exact is
    · exact fun is => ⟨some value, ⟨rfl, value, is, rfl⟩, rfl⟩

/-- A part that was not there before is there only if it is given. -/
theorem filled_none_some_iff {form : Outline → α → Prop} {value : α} {given : Option Outline} :
    Filled form none given (some value) ↔ ∃ outline, given = some outline ∧ form outline value := by
  cases given <;> simp [Filled]

theorem lookup_eq_none_iff_notMem {key : String} {members : List (String × β)} :
    members.lookup key = none ↔ key ∉ members.map Prod.fst := by
  simp [List.lookup_eq_none_iff]
  grind

namespace Parts

variable (parts : Parts σ)

/-- The names of the parts. -/
def names : List String := parts.all.map Part.name

/-- A member brings the part of its name. -/
def Brings (state : σ) (key : String) (outline : Outline) (next : σ) : Prop :=
  ∃ part ∈ parts.all, part.name = key ∧ part.get state = none ∧
    ∃ value, part.form outline value ∧ part.set state value = next

/-- **Members that are accepted one after the other** name different parts, and fill them. -/
theorem follows_iff {member : σ → String → Except Reason (Reader σ)}
    (accepts : ∀ part ∈ parts.all, ∀ state, part.get state = none →
      ∃ value, member state part.name = .ok value)
    {state final : σ} {members : List (String × Outline)} :
    Follows member parts.Brings state members final ↔
      AreNamed parts.names members ∧ ∀ part ∈ parts.all,
        Filled part.form (part.get state) (members.lookup part.name) (part.get final) := by
  constructor
  · intro follows
    induction follows with
    | nil state => exact ⟨⟨fun _ member => (nomatch member), .nil⟩, fun _ _ => rfl⟩
    | @cons state next final key _ outline members _ is _ ih =>
      obtain ⟨part, member, rfl, empty, value, is, rfl⟩ := is
      obtain ⟨⟨named, nodup⟩, filled⟩ := ih
      -- the part is there behind its member, so it is not given again
      have here := filled part member
      rw [parts.get_set part member, filled_some_iff] at here
      obtain ⟨notAgain, there⟩ := here
      refine ⟨⟨List.forall_mem_cons.2 ⟨List.mem_map_of_mem member, named⟩,
        List.nodup_cons.2 ⟨lookup_eq_none_iff_notMem.1 notAgain, nodup⟩⟩, fun other member' => ?_⟩
      rw [Dict.lookup_cons_eq_ite]
      by_cases same : other.name = part.name
      · obtain rfl := List.inj_on_of_nodup_map parts.nodup member' member same
        rw [if_pos rfl]
        exact ⟨empty, value, is, there⟩
      · rw [if_neg same, ← parts.get_set_of_ne part member other member' same state value]
        exact filled other member'
  · rintro ⟨⟨named, nodup⟩, filled⟩
    induction members generalizing state with
    | nil =>
      obtain rfl := parts.ext final state filled
      exact .nil final
    | cons entry members ih =>
      obtain ⟨key, outline⟩ := entry
      obtain ⟨isName, others⟩ := List.forall_mem_cons.1 named
      obtain ⟨part, member, rfl⟩ := List.mem_map.1 isName
      obtain ⟨notAgain, others_nodup⟩ := List.nodup_cons.1 nodup
      have here := filled part member
      rw [Dict.lookup_cons_eq_ite, if_pos rfl] at here
      obtain ⟨empty, value, is, there⟩ := here
      obtain ⟨reader, accepted⟩ := accepts part member state empty
      refine .cons accepted ⟨part, member, rfl, empty, value, is, rfl⟩ (ih ?_ others others_nodup)
      -- the part itself has been filled, and the others are as they were
      intro other member'
      by_cases same : other.name = part.name
      · obtain rfl := List.inj_on_of_nodup_map parts.nodup member' member same
        rw [parts.get_set other member', filled_some_iff]
        exact ⟨lookup_eq_none_iff_notMem.2 notAgain, there⟩
      · have := filled other member'
        rw [Dict.lookup_cons_eq_ite, if_neg same] at this
        rwa [parts.get_set_of_ne part member other member' same]

/-- **Members** are read exactly if they name different parts, and each is of its form. -/
theorem finds_readMembers_iff {member : σ → String → Except Reason (Reader σ)}
    (accepts : ∀ part ∈ parts.all, ∀ state, part.get state = none →
      ∃ value, member state part.name = .ok value)
    (brings : ∀ state key value, member state key = .ok value →
      ∀ next, value.Recognizes (parts.Brings state key) next)
    {first : Bool} {state final : σ} :
    Reader.Finds (readMembers member first state) input final rest ↔
      ∃ members, Sequence '\x7d' (Member Spells) first input members rest ∧
        AreNamed parts.names members ∧ ∀ part ∈ parts.all,
          Filled part.form (part.get state) (members.lookup part.name) (part.get final) := by
  rw [Json.finds_readMembers_iff brings]
  exact exists_congr fun members => and_congr_right fun _ => parts.follows_iff accepts

theorem brings_name_iff {part : Part σ} (member : part ∈ parts.all) {state next : σ}
    {outline : Outline} :
    parts.Brings state part.name outline next ↔
      part.get state = none ∧ ∃ value, part.form outline value ∧ part.set state value = next := by
  constructor
  · rintro ⟨other, member', same, brought⟩
    obtain rfl := List.inj_on_of_nodup_map parts.nodup member' member same
    exact brought
  · exact fun brought => ⟨part, member, rfl, brought⟩

/-- A part that may be given once is brought. -/
theorem recognizes_once (part : Part σ) (member : part ∈ parts.all) {reader : Reader part.Value}
    (h : ∀ found, reader.Recognizes part.form found) {state : σ} {value : Reader σ}
    (accepted : once part.name (part.get state) (Reader.map (part.set state) reader) = .ok value)
    (next : σ) : value.Recognizes (parts.Brings state part.name) next := by
  unfold once at accepted
  split at accepted
  · cases accepted
  · next empty =>
    cases accepted
    intro input rest ends
    rw [Reader.Recognizes.map h (part.set state) next input rest ends]
    refine exists_congr fun outline => and_congr_right fun _ => ?_
    rw [parts.brings_name_iff member, and_iff_right empty]

end Parts

/-! ### Fields -/

section Fields

variable {form : Outline → α → Prop} {field : Reader α} {absent : Except Reason β}
  {present : α → Reader β} {first : Bool} {value : β}

theorem finds_requiring_iff {check : α → Except Reason β} {reader : Reader α} :
    (requiring check reader).Finds input value rest ↔
      ∃ found, reader.Finds input found rest ∧ check found = .ok value := by
  constructor
  · rintro ⟨shorter, read⟩
    unfold requiring at read
    split at read
    · cases read
    · next found after shorter' read' =>
      split at read
      · next checked =>
        cases read
        exact ⟨found, ⟨shorter', read'⟩, checked⟩
      · cases read
  · rintro ⟨found, ⟨shorter, read⟩, checked⟩
    refine ⟨shorter, ?_⟩
    rw [requiring, read]
    dsimp only
    rw [checked]

/-- A reader inside a list finds a value exactly where the items up to the closing bracket are
of a certain form. -/
def Reader.Completes (reader : Reader β) (first : Bool) (form : List Outline → β → Prop)
    (value : β) : Prop :=
  ∀ input rest, reader.Finds input value rest ↔
    ∃ items, Sequence ']' Spells first input items rest ∧ form items value

theorem Reader.Completes.congr {reader : Reader β} {form form' : List Outline → β → Prop}
    (h : reader.Completes first form value) (same : ∀ items, form items value ↔ form' items value) :
    reader.Completes first form' value := fun input rest =>
  (h input rest).trans (exists_congr fun items => and_congr_right fun _ => same items)

theorem completes_endFields (last : β) :
    (endFields last).Completes false (fun items value => items = [] ∧ last = value) value := by
  intro input rest
  have closes : (endFields last).Finds input value rest ↔
      last = value ∧ Blanks input (']' :: rest) := by
    rw [← skipBlank_eq_cons_iff (by decide)]
    constructor
    · rintro ⟨shorter, read⟩
      unfold endFields at read
      split at read
      · cases read
      · next starts =>
        split at read
        · next close =>
          cases read
          exact ⟨rfl, by rw [starts, close]⟩
        · split at read
          · split at read <;> cases read
          · cases read
    · rintro ⟨rfl, starts⟩
      refine ⟨length_lt_of_skipBlank starts, ?_⟩
      unfold endFields
      split
      · next starts' => rw [starts] at starts'; cases starts'
      · next starts' =>
        rw [starts] at starts'
        cases starts'
        rw [if_pos rfl]
  rw [closes]
  constructor
  · rintro ⟨same, blanks⟩
    exact ⟨[], .closed blanks, rfl, same⟩
  · rintro ⟨items, spelled, rfl, same⟩
    cases spelled with
    | closed blanks => exact ⟨same, blanks⟩

/-- A field is read, or the list ends before it. -/
theorem finds_readField_iff :
    (readField first field absent present).Finds input value rest ↔
      (Blanks input (']' :: rest) ∧ absent = .ok value) ∨
      ∃ start found after, Gap first input start ∧ Opens start ∧ field.Finds start found after ∧
        (present found).Finds after value rest := by
  constructor
  · rintro ⟨shorter, read⟩
    unfold readField at read
    split at read
    · cases read
    · next turn =>
      split at read
      · cases read
        exact .inl ⟨(listTurn_eq_closed_iff _).1 ⟨_, turn⟩, rfl⟩
      · cases read
    · next start notLonger turn =>
      split at read
      · cases read
      · next found after shorter' one =>
        obtain ⟨gap, opens⟩ := listTurn_eq_more_iff.1 ⟨notLonger, turn⟩
        exact .inr ⟨start, found, after, gap, opens, ⟨shorter', one⟩,
          (widen_eq_ok_iff _).1 ⟨shorter, read⟩⟩
  · rintro (⟨blanks, rfl⟩ | ⟨start, found, after, gap, opens, ⟨shorter, one⟩, more⟩)
    · obtain ⟨shorter, turn⟩ := (listTurn_eq_closed_iff first).2 blanks
      exact ⟨shorter, by rw [readField, turn]⟩
    · obtain ⟨notLonger, turn⟩ := listTurn_eq_more_iff.2 ⟨gap, opens⟩
      obtain ⟨shorter', read⟩ :=
        (widen_eq_ok_iff (Nat.le_of_lt (Nat.lt_of_lt_of_le shorter notLonger))).2 more
      refine ⟨shorter', ?_⟩
      rw [readField, turn]
      dsimp only
      rw [one]
      exact read

/-- What the items of a list say if a field is due: without an item it is absent, and otherwise
the first item says what it is. -/
def FieldForm (form : Outline → α → Prop) (absent : Except Reason β)
    (present : α → List Outline → β → Prop) : List Outline → β → Prop
  | [], value => absent = .ok value
  | outline :: more, value => ∃ found, form outline found ∧ present found more value

/-- **Fields in order** are read exactly if each is of its form. -/
theorem completes_readField {formPresent : α → List Outline → β → Prop}
    (h : ∀ found, field.Recognizes form found)
    (h' : ∀ found, (present found).Completes false (formPresent found) value) :
    (readField first field absent present).Completes first (FieldForm form absent formPresent)
      value := by
  intro input rest
  rw [finds_readField_iff]
  constructor
  · rintro (⟨blanks, gone⟩ | ⟨start, found, after, gap, opens, one, more⟩)
    · exact ⟨[], .closed blanks, gone⟩
    · obtain ⟨items, behind, are⟩ := (h' found after rest).1 more
      obtain ⟨outline, spelled, is⟩ := (h found start after (behind.ends (.inl rfl))).1 one
      rw [skipBlank_of_notBlank opens.notBlank] at spelled
      exact ⟨outline :: items, .cons gap spelled behind, found, is, are⟩
  · rintro ⟨items, spelled, is⟩
    cases spelled with
    | closed blanks => exact .inl ⟨blanks, is⟩
    | cons gap spelled behind =>
      obtain ⟨found, is, are⟩ := is
      refine .inr ⟨_, found, _, gap, spelled.opens,
        (h found _ _ (behind.ends (.inl rfl))).2 ⟨_, ?_, is⟩, (h' found _ _).2 ⟨_, behind, are⟩⟩
      rwa [skipBlank_of_notBlank spelled.opens.notBlank]

/-- Parts are given by name, none twice and no others, or as a list in the order of the
names. -/
inductive Gives (names : List String) : Outline → List (String × Outline) → Prop
  /-- The members of an object. -/
  | named {members : List (String × Outline)} (h : AreNamed names members) :
      Gives names (.object members) members
  /-- The items of a list. -/
  | listed {items : List Outline} (fits : items.length ≤ names.length) :
      Gives names (.array items) (names.zip items)

/-- **Formats with fields** are read exactly if their fields are given in either way. -/
theorem recognizes_readFields {names : List String} {form : List (String × Outline) → β → Prop}
    {expected : String} {depth : Nat} {list object : Nat → Reader β}
    (lists : (list depth).Completes true
      (fun items value => items.length ≤ names.length ∧ form (names.zip items) value) value)
    (objects : ∀ inner rest, (object depth).Finds inner value rest ↔
      ∃ members, Sequence '\x7d' (Member Spells) true inner members rest ∧
        AreNamed names members ∧ form members value) :
    (readFields expected (depth + 1) list object).Recognizes
      (fun outline value => ∃ given, Gives names outline given ∧ form given value) value := by
  refine recognizes_dispatch (fun found outline said => ?_) (fun _ is => ?_)
    (fun inner rest => ?_) fun inner rest => ?_
  · refine iff_of_false (fun accepted => nomatch accepted) ?_
    rintro ⟨given, gives, -⟩
    cases said <;> cases gives
  · obtain ⟨given, gives, _⟩ := is
    cases gives
  · refine finds_bracketed_iff.trans ((lists inner rest).trans ?_)
    refine exists_congr fun items => and_congr_right fun _ => ?_
    constructor
    · exact fun ⟨fits, is⟩ => ⟨_, .listed fits, is⟩
    · rintro ⟨given, gives, is⟩
      cases gives with
      | listed fits => exact ⟨fits, is⟩
  · refine finds_bracketed_iff.trans ((objects inner rest).trans ?_)
    refine exists_congr fun members => and_congr_right fun _ => ?_
    constructor
    · exact fun ⟨named, is⟩ => ⟨_, .named named, is⟩
    · rintro ⟨given, gives, is⟩
      cases gives with
      | named named => exact ⟨named, is⟩

end Fields

end Contracts.Json
