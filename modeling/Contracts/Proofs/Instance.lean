import Contracts.Instance.Record
import Contracts.Instance.Slot
import Contracts.Proofs.Dict

/-!
# Instances

What an interface **admits** are the entries each of which may be written.  A validated
seed is admitted, and a field that is written leaves admitted entries admitted.  For each
operation on an instance of an interface, or on a slot, there is one fact that says what
it does to the store and what it gives.

## Main definitions

* `Interface.Admits` — every entry is declared and of its kind.
* `SlotType.permits` — whether a value may be written under a name, or without one.

## Main results

* `Interface.check_eq_ok` — what may be written.
* `Interface.checkEntries_eq_ok` — a seed is accepted exactly if it is admitted.
* `World.constructWith_eq_ok` — what an instance made from a seed is bound to.
* `World.setField_eq` — a write is refused, or it is one insertion.
* `World.set_eq` — a write of a slot is accepted or logged, whichever way it was written to.
-/

namespace Contracts

/-! ### What may be written -/

namespace Interface

variable {interface : Interface} {entries : Dict Value}

/-- A value may be written to a field that is declared and, if it has a kind, takes
values of it. -/
theorem check_eq_ok {field : String} {value : Value} :
    interface.check field value = .ok () ↔
      interface.shape.declares field = true ∧
        ∀ kind, interface.shape.kindOf field = some kind → kind.accepts value = true := by
  unfold check
  split
  · next declared =>
    split
    · next kind typed =>
      simp only [typed, Option.some.injEq, declared, true_and]
      split
      · next accepted =>
        refine ⟨fun _ other same => ?_, fun _ => rfl⟩
        rw [← same]
        exact accepted
      · next refused =>
        constructor
        · intro wrong
          cases wrong
        · intro accepts
          exact absurd (accepts kind rfl) refused
    · next untyped =>
      simp only [untyped, declared, true_and]
      exact ⟨fun _ _ wrong => (nomatch wrong), fun _ => trivial⟩
  · next undeclared =>
    constructor
    · intro wrong
      cases wrong
    · intro right
      exact absurd right.1 undeclared

theorem check_of_not_declares {field : String} (h : interface.shape.declares field = false)
    (value : Value) :
    interface.check field value = .error (.undeclaredField interface.name field .write) := by
  rw [check, h]
  rfl

/-- Every entry may be written. -/
def Admits (interface : Interface) (entries : Dict Value) : Prop :=
  ∀ key value, entries.get? key = some value → interface.check key value = .ok ()

theorem admits_empty : interface.Admits .empty := fun _ _ found => nomatch found

/-- One entry more is admitted if it may be written. -/
theorem Admits.insert (h : interface.Admits entries) {key : String} {value : Value}
    (checked : interface.check key value = .ok ()) :
    interface.Admits (entries.insert key value) := by
  intro other found bound
  rw [Dict.get?_insert] at bound
  split at bound
  · next same =>
    cases bound
    rw [same]
    exact checked
  · exact h other found bound

theorem checkEntries_eq_ok {listed : List (String × Value)} :
    interface.checkEntries listed = .ok () ↔
      ∀ entry ∈ listed, interface.check entry.1 entry.2 = .ok () := by
  induction listed with
  | nil => exact ⟨fun _ _ member => (nomatch member), fun _ => rfl⟩
  | cons entry rest ih =>
    obtain ⟨field, value⟩ := entry
    rw [checkEntries, List.forall_mem_cons]
    cases interface.check field value with
    | error violation =>
      constructor
      · intro wrong
        cases wrong
      · intro right
        cases right.1
    | ok _ =>
      rw [ih]
      exact ⟨fun others => ⟨rfl, others⟩, fun both => both.2⟩

/-- A seed is accepted exactly if its entries are admitted. -/
theorem checkEntries_entries_eq_ok :
    interface.checkEntries entries.entries = .ok () ↔ interface.Admits entries := by
  rw [checkEntries_eq_ok]
  constructor
  · intro checked key value found
    exact checked (key, value) (Dict.mem_entries.2 found)
  · intro admitted entry member
    exact admitted entry.1 entry.2 (Dict.mem_entries.1 member)

end Interface

/-! ### Making instances -/

namespace World

variable {world next : World} {interface : Interface} {inst : Instance}

/-- An instance from a seed has a copy of it under the one policy, and the seed itself
under the other. -/
theorem constructWith_eq_ok {seed : RecordId}
    (h : world.constructWith interface seed = .ok (next, inst)) :
    inst.interface = interface ∧
      (interface.seeds = .validate ∧ interface.Admits (world.store.record seed) ∧
          next.store = (world.store.newRecord (world.store.record seed)).1 ∧
          inst.record = (world.store.newRecord (world.store.record seed)).2 ∨
        interface.seeds = .trust ∧ next.store = world.store ∧ inst.record = seed) := by
  unfold constructWith at h
  cases policy : interface.seeds with
  | trust =>
    simp only [policy] at h
    cases h
    exact ⟨rfl, .inr ⟨rfl, rfl, rfl⟩⟩
  | validate =>
    simp only [policy] at h
    cases checked : interface.checkEntries (world.store.record seed).entries with
    | error violation => rw [checked] at h; cases h
    | ok _ =>
      rw [checked] at h
      cases h
      exact ⟨rfl, .inl ⟨rfl, Interface.checkEntries_entries_eq_ok.1 checked, rfl, rfl⟩⟩

/-! ### Writing fields -/

/-- A write is refused and leaves the store alone, or it is one insertion into the record
of the instance. -/
theorem setField_eq (world : World) (inst : Instance) (field : String) (value : Value) :
    (∃ violation, inst.interface.check field value = .error violation ∧
        (world.setField inst field value).2 = .error violation ∧
        (world.setField inst field value).1.store = world.store) ∨
      inst.interface.check field value = .ok () ∧
        (world.setField inst field value).2 = .ok () ∧
        (world.setField inst field value).1.store =
          world.store.insert inst.record field value := by
  unfold setField
  cases checked : inst.interface.check field value with
  | error violation => exact .inl ⟨violation, rfl, rfl, rfl⟩
  | ok _ => exact .inr ⟨rfl, rfl, rfl⟩

end World

/-! ### What may be written to slots -/

namespace SlotType

variable {type : SlotType} {value : Value}

theorem check_eq_ok : type.check value = .ok () ↔ type.kind.accepts value = true := by
  unfold check
  split
  · next accepted => exact ⟨fun _ => accepted, fun _ => rfl⟩
  · next refused => exact ⟨fun wrong => (nomatch wrong), fun accepted => absurd accepted refused⟩

theorem check_of_not_accepts (refused : type.kind.accepts value = false) :
    type.check value = .error (.wrongKind none type.kind value.category) := by
  rw [check, refused]
  rfl

/-- Whether a value may be written under a name, or without one. -/
def permits (type : SlotType) : Option String → Value → Except Violation Unit
  | some field, value =>
      if field = Slot.accessor then type.check value
      else .error (.wrongAccessor type.name field)
  | none, value => type.check value

/-- The name of the slot may be left out. -/
theorem permits_of_named {key : Option String} (named : key = none ∨ key = some Slot.accessor) :
    type.permits key value = type.check value := by
  rcases named with rfl | rfl
  · rfl
  · rw [permits, if_pos rfl]

/-- Under another name nothing may be written, whatever it is. -/
theorem permits_of_ne {field : String} (other : field ≠ Slot.accessor) :
    type.permits (some field) value = .error (.wrongAccessor type.name field) := by
  rw [permits, if_neg other]

/-- What may be written is of the kind. -/
theorem accepts_of_permits {key : Option String} (permitted : type.permits key value = .ok ()) :
    type.kind.accepts value = true := by
  cases key with
  | none => exact check_eq_ok.1 permitted
  | some field =>
    by_cases named : field = Slot.accessor
    · rw [permits_of_named (.inr (congrArg some named))] at permitted
      exact check_eq_ok.1 permitted
    · cases (permits_of_ne named).symm.trans permitted

end SlotType

namespace World

/-- Write under a name, or without one. -/
def set (world : World) (slot : Slot) (key : Option String) (value : Value) :
    World × Except Violation Slot :=
  match key with
  | some key => world.setSlot slot key value
  | none => world.setSlotValue slot value

/-- Either way there is one test, and what fails it is logged. -/
theorem set_eq (world : World) (slot : Slot) (key : Option String) (value : Value) :
    world.set slot key value =
      match slot.type.permits key value with
      | .ok _ => (world, .ok { slot with held := value })
      | .error violation =>
          (world.emit (slot.refusal (key.getD Slot.accessor) violation), .error violation) := by
  have unnamed : world.setSlotValue slot value =
      match slot.type.check value with
      | .ok _ => (world, .ok { slot with held := value })
      | .error violation =>
          (world.emit (slot.refusal Slot.accessor violation), .error violation) := by
    unfold setSlotValue
    cases slot.type.check value <;> rfl
  cases key with
  | none => exact unnamed
  | some field =>
    by_cases named : field = Slot.accessor
    · rw [SlotType.permits_of_named (.inr (congrArg some named)), set, setSlot, if_pos named, named]
      exact unnamed
    · rw [SlotType.permits_of_ne named, set, setSlot, if_neg named]
      rfl

/-- A slot is refused only for its first value, and only if that is checked. -/
theorem constructSlot_eq (world : World) (type : SlotType) (initial : Value) :
    (type.seeds = .validate ∧ type.kind.accepts initial = false ∧
        world.constructSlot type initial =
          .error (.wrongKind none type.kind initial.category)) ∨
      (type.seeds = .validate → type.kind.accepts initial = true) ∧
        ∃ next id, world.constructSlot type initial = .ok (next, ⟨id, type, initial⟩) ∧
          next.store = world.store ∧ next.log = world.log := by
  unfold constructSlot
  cases policy : type.seeds with
  | trust => exact .inr ⟨fun wrong => (nomatch wrong), _, _, rfl, rfl, rfl⟩
  | validate =>
    cases accepted : type.kind.accepts initial with
    | false =>
      dsimp only
      rw [SlotType.check_of_not_accepts accepted]
      exact .inl ⟨rfl, rfl, rfl⟩
    | true =>
      dsimp only
      rw [SlotType.check_eq_ok.2 accepted]
      exact .inr ⟨fun _ => rfl, _, _, rfl, rfl, rfl⟩

end World

end Contracts
