import Contracts.Heap.Exchange
import Contracts.Proofs.Session.Seeding

/-!
# Records made from JSON objects

Whether a value may be written to a field depends on its sort only, and the sort of a value
that is made from a JSON value can be told from the latter.  So what is wrong with a record
that is made from an object can be told from the object.

## Main definitions

* `Json.tag?`, `Json.category` — the sort of a JSON value.
* `Shape.objection` — what is wrong with a member of a record.

## Main results

* `Interface.check_addMembers` — the check of a record, member by member.
* `Interface.first?_addMembers` — **what a record made from an object is refused for.**
-/

namespace Contracts

/-! ### Sorts of JSON values -/

namespace Json

/-- The tag of a JSON value.  Null has none. -/
def tag? : Json → Option Tag
  | .null => none
  | .boolean _ => some .boolean
  | .number _ => some .number
  | .string _ => some .string
  | .array _ | .object _ => some .object

/-- What a value made from a JSON value reports to be. -/
def category : Json → Category
  | .boolean _ => .boolean
  | .number _ => .number
  | .string _ => .string
  | .null | .array _ | .object _ => .object

end Json

/-- What is wrong with a member of a record whose value is of a certain sort: its field is not
declared, or has a kind that does not name the tag of the value. -/
def Shape.objectionTo (shape : Shape) (interface key : String) (tag : Option Tag)
    (category : Category) : Option Violation :=
  match shape.fields.get? key with
  | none => some (.undeclaredField interface key .write)
  | some none => none
  | some (some kind) =>
      if ∃ named ∈ kind.tags, tag = some named then none
      else some (.wrongKind (some key) kind category)

/-- What is wrong with a member of a record. -/
def Shape.objection (shape : Shape) (interface key : String) (json : Json) : Option Violation :=
  shape.objectionTo interface key json.tag? json.category

/-! ### Records made from objects -/

namespace Store

variable (store : Store)

theorem category_addJson (json : Json) : (store.addJson json).2.category = json.category := by
  cases json <;> rfl

theorem fits_addJson (tag : Tag) (json : Json) :
    tag.fits (store.addJson json).2 = decide (json.tag? = some tag) := by
  cases json <;> cases tag <;> simp [addJson, Tag.fits, Json.tag?, Value.category, Value.isNull]

end Store

theorem Kind.accepts_addJson (kind : Kind) (store : Store) (json : Json) :
    kind.accepts (store.addJson json).2 = true ↔ ∃ tag ∈ kind.tags, json.tag? = some tag := by
  cases kind with
  | single tag => simp [accepts, tags, store.fits_addJson]
  | anyOf tags => simp [accepts, Kind.tags, store.fits_addJson]

/-- What is checked of a value made from a JSON value can be told from the latter. -/
theorem Interface.check_addJson (interface : Interface) (store : Store) (key : String)
    (json : Json) :
    Violation.of? (interface.check key (store.addJson json).2) =
      interface.shape.objection interface.name key json := by
  unfold check Shape.declares Shape.kindOf Shape.objection Shape.objectionTo Dict.contains
  cases found : interface.shape.fields.get? key with
  | none => rfl
  | some declared =>
    cases declared with
    | none => rfl
    | some kind =>
      by_cases accepted : kind.accepts (store.addJson json).2 = true
      · simp [accepted, (kind.accepts_addJson store json).1 accepted, Violation.of?]
      · have refused : ¬ ∃ tag ∈ kind.tags, json.tag? = some tag :=
          fun named => accepted ((kind.accepts_addJson store json).2 named)
        simp [accepted, refused, Violation.of?, store.category_addJson]

/-- So it is with the members of an object, one by one. -/
theorem Interface.check_addMembers (interface : Interface) (store : Store)
    (members : List (String × Json)) :
    ((store.addMembers members).2.map fun entry =>
        (entry.1, Violation.of? (interface.check entry.1 entry.2))) =
      members.map fun entry =>
        (entry.1, interface.shape.objection interface.name entry.1 entry.2) := by
  induction members generalizing store with
  | nil => rfl
  | cons entry rest ih =>
    obtain ⟨key, json⟩ := entry
    rw [Store.addMembers, List.map_cons, List.map_cons, ih, interface.check_addJson]

/-- **What a record made from an object is refused for** is the first objection to a member. -/
theorem Interface.first?_addMembers (interface : Interface) (store : Store) (members : Dict Json) :
    Violation.first?
        ((Dict.ofList (store.addMembers members.entries).2).entries.map fun entry =>
          interface.check entry.1 entry.2) =
      members.entries.findSome? fun entry =>
        interface.shape.objection interface.name entry.1 entry.2 := by
  have same := interface.check_addMembers store members.entries
  have keys : (store.addMembers members.entries).2.map Prod.fst = members.keys := by
    have firsts := congrArg (List.map Prod.fst) same
    rwa [List.map_map, List.map_map] at firsts
  have ascending : (store.addMembers members.entries).2.Pairwise fun a b => a.1 < b.1 :=
    List.pairwise_map.1 (keys ▸ members.pairwise_keys)
  have objections := congrArg (List.findSome? Prod.snd) same
  rw [List.findSome?_map, List.findSome?_map] at objections
  rw [Dict.entries_ofList_of_ascending ascending, Violation.first?, List.findSome?_map]
  exact objections

end Contracts
