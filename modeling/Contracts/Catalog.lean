import Contracts.Catalog.Registry
import Contracts.Definition.Interface

/-!
# Catalogs

A **catalog** keeps interfaces and types under one set of names: a name belongs to an
interface or to a type, never to both.  Whether a name that is taken can be defined
again is up to the policy; if it can, and the name was of the other sort, that
definition is evicted.

## Main definitions

* `Catalog` — the registries of both sorts and the policy.
* `Catalog.defineInterface`, `Catalog.defineType` — register a definition.
* `Catalog.interface`, `Catalog.type` — look a definition up.
-/

namespace Contracts

/-- Interfaces and types under one set of names. -/
structure Catalog where
  /-- What is done with seeds and with names that are taken. -/
  policy : Policy
  /-- The interfaces. -/
  interfaces : Registry Shape
  /-- The types. -/
  types : Registry Kind
  /-- No name is both. -/
  exclusive : ∀ name, interfaces.contains name = true → types.contains name = false

namespace Catalog

/-- The catalog without definitions. -/
def empty (policy : Policy) : Catalog := ⟨policy, .empty, .empty, fun _ _ => rfl⟩

instance : Inhabited Catalog := ⟨empty {}⟩

/-- A definition with the catalog that has taken it in. -/
structure Defined (α : Type) where
  /-- What is handed out. -/
  handle : α
  /-- The catalog with the definition. -/
  catalog : Catalog
  /-- What is logged, in order. -/
  events : List Event

/-- Whether a name is kept from a definition of one sort by one of the other. -/
def isClaimed (catalog : Catalog) (heldByOther : Bool) : Bool :=
  heldByOther && catalog.policy.registration == .reject

/-- Define an interface, with the fields of a base under its own. -/
def defineInterface (catalog : Catalog) (name : String) (fields : Shape)
    (base : Option String) : Except Violation (Defined Interface) :=
  let evicts := catalog.types.contains name
  if catalog.isClaimed evicts then .error (.alreadyRegistered name)
  else
    (catalog.interfaces.registerInterface catalog.policy.registration name fields base).map
      fun admitted =>
        { handle := ⟨name, admitted.definition, catalog.policy.seeds⟩
          catalog :=
            { policy := catalog.policy
              interfaces := admitted.registry
              types := catalog.types.erase name
              exclusive := fun other held => by
                rw [Registry.contains_registry, Bool.or_eq_true, beq_iff_eq] at held
                rw [Registry.contains_erase]
                rcases held with same | held
                · simp [same]
                · simp [catalog.exclusive other held] }
          events := admitted.event :: if evicts then [.typeEvicted name] else [] }

/-- Define a type. -/
def defineType (catalog : Catalog) (name : String) (kind : Kind) :
    Except Violation (Defined SlotType) :=
  let evicts := catalog.interfaces.contains name
  if catalog.isClaimed evicts then .error (.alreadyRegistered name)
  else
    (catalog.types.registerType catalog.policy.registration name kind).map fun admitted =>
      { handle := ⟨name, admitted.definition, catalog.policy.seeds⟩
        catalog :=
          { policy := catalog.policy
            interfaces := catalog.interfaces.erase name
            types := admitted.registry
            exclusive := fun other held => by
              rw [Registry.contains_erase, Bool.and_eq_true, bne_iff_ne] at held
              rw [Registry.contains_registry, catalog.exclusive other held.2]
              simp [held.1] }
        events := admitted.event :: if evicts then [.interfaceEvicted name] else [] }

/-- The interface that has a name now. -/
def interface (catalog : Catalog) (name : String) : Except Violation Interface :=
  match catalog.interfaces.get? name with
  | some shape => .ok ⟨name, shape, catalog.policy.seeds⟩
  | none => .error (.unknownInterface name)

/-- The type that has a name now. -/
def type (catalog : Catalog) (name : String) : Except Violation SlotType :=
  match catalog.types.get? name with
  | some kind => .ok ⟨name, kind, catalog.policy.seeds⟩
  | none => .error (.unknownType name)

end Catalog

end Contracts
