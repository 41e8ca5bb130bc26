import Contracts.Definition.Shape
import Contracts.Dict.Lemmas
import Contracts.Event
import Contracts.Policy
import Contracts.Text.Identifier

/-!
# Registries

A **registry** keeps definitions of one sort under names, all of which are identifiers.
A definition is admitted if its name is an identifier, if the name is free or may be
taken over, and if the definition itself can be made, in this order.

## Main definitions

* `Registry` — definitions under names.
* `Registry.permit` — the conditions of a registration.
* `Registry.insert`, `Registry.erase` — take a definition in, or drop one.
* `Registry.resolve` — the fields of an interface together with those of its base.
* `Registry.registerInterface`, `Registry.registerType` — a whole registration, with the
  event that is logged for it.
-/

namespace Contracts

/-- Definitions under names that are identifiers. -/
structure Registry (β : Type) where
  /-- The definition of each name. -/
  entries : Dict β
  /-- Every name is an identifier. -/
  named : ∀ name, entries.contains name = true → Text.IsIdentifier name

namespace Registry

variable {β : Type}

/-- The registry without definitions. -/
def empty : Registry β := ⟨.empty, fun _ held => nomatch held⟩

instance : Inhabited (Registry β) := ⟨empty⟩

/-- The definition of a name. -/
def get? (registry : Registry β) (name : String) : Option β := registry.entries.get? name

/-- Whether a name has a definition. -/
def contains (registry : Registry β) (name : String) : Bool := registry.entries.contains name

/-- The names, ascending. -/
def names (registry : Registry β) : List String := registry.entries.keys

/-- How many names have a definition. -/
def size (registry : Registry β) : Nat := registry.entries.size

/-- Take a definition in, in place of an earlier one. -/
def insert (registry : Registry β) (name : String) (definition : β)
    (h : Text.IsIdentifier name) : Registry β where
  entries := registry.entries.insert name definition
  named other held := by
    rw [Dict.contains_insert, Bool.or_eq_true, beq_iff_eq] at held
    exact held.elim (fun same => same ▸ h) (registry.named other)

/-- Drop a definition. -/
def erase (registry : Registry β) (name : String) : Registry β where
  entries := registry.entries.erase name
  named other held := by
    rw [Dict.contains_erase, Bool.and_eq_true] at held
    exact registry.named other held.2

/-- Whether a definition may be registered under a name: the definition if so, and the
first reason if not. -/
def permit (registry : Registry β) (policy : RegistrationPolicy) (name : String)
    (definition : Except Violation β) :
    Except Violation { _definition : β // Text.IsIdentifier name } :=
  if h : Text.IsIdentifier name then
    if policy = .reject ∧ registry.contains name = true then .error (.alreadyRegistered name)
    else definition.map (⟨·, h⟩)
  else .error (.invalidName name)

/-- A registration that is admitted. -/
structure Admitted (registry : Registry β) (name : String) where
  /-- The definition. -/
  definition : β
  /-- The name can be registered under. -/
  isIdentifier : Text.IsIdentifier name
  /-- What is logged. -/
  event : Event

/-- The registry with an admitted definition. -/
def Admitted.registry {registry : Registry β} {name : String}
    (admitted : Admitted registry name) : Registry β :=
  registry.insert name admitted.definition admitted.isIdentifier

/-- The fields of an interface: its own over those of its base, which has to be
registered. -/
def resolve (registry : Registry Shape) (fields : Shape) : Option String → Except Violation Shape
  | none => .ok fields
  | some base =>
      match registry.get? base with
      | some shape => .ok (shape.extending fields)
      | none => .error (.unknownInterface base)

/-- Register an interface. -/
def registerInterface (registry : Registry Shape) (policy : RegistrationPolicy)
    (name : String) (fields : Shape) (base : Option String) :
    Except Violation (Admitted registry name) :=
  (registry.permit policy name (registry.resolve fields base)).map fun ⟨shape, h⟩ =>
    ⟨shape, h, .interfaceRegistered name shape.size base (registry.contains name)⟩

/-- Register a type. -/
def registerType (registry : Registry Kind) (policy : RegistrationPolicy) (name : String)
    (kind : Kind) : Except Violation (Admitted registry name) :=
  (registry.permit policy name (.ok kind)).map fun ⟨kind, h⟩ =>
    ⟨kind, h, .typeRegistered name kind (registry.contains name)⟩

/-! ### Laws -/

@[simp] theorem get?_empty (name : String) : (empty : Registry β).get? name = none := rfl

theorem get?_insert (registry : Registry β) (name other : String) (definition : β)
    (h : Text.IsIdentifier name) :
    (registry.insert name definition h).get? other =
      if other = name then some definition else registry.get? other :=
  Dict.get?_insert ..

theorem get?_erase (registry : Registry β) (name other : String) :
    (registry.erase name).get? other = if other = name then none else registry.get? other :=
  Dict.get?_erase ..

theorem contains_insert (registry : Registry β) (name other : String) (definition : β)
    (h : Text.IsIdentifier name) :
    (registry.insert name definition h).contains other =
      (other == name || registry.contains other) :=
  Dict.contains_insert ..

theorem contains_registry {registry : Registry β} {name : String}
    (admitted : Admitted registry name) (other : String) :
    admitted.registry.contains other = (other == name || registry.contains other) :=
  contains_insert ..

theorem contains_erase (registry : Registry β) (name other : String) :
    (registry.erase name).contains other = (other != name && registry.contains other) :=
  Dict.contains_erase ..

end Registry

end Contracts
