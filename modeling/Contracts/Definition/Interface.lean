import Contracts.Definition.Shape
import Contracts.Policy

/-!
# Interfaces and slot types

What a registration hands out: a definition as it stood when it was registered, under
its name, and with what is to be done with the values that instances start from.  A
later registration of the name does not reach it.

## Main definitions

* `Interface` — a named shape.
* `SlotType` — a named kind.
-/

namespace Contracts

/-- A named shape, from which records are built. -/
structure Interface where
  /-- The name it was registered under. -/
  name : String
  /-- The fields. -/
  shape : Shape
  /-- What is done with the values of a new instance. -/
  seeds : SeedPolicy
  deriving DecidableEq, Repr

/-- A named kind, from which slots are built. -/
structure SlotType where
  /-- The name it was registered under. -/
  name : String
  /-- The kind of what the slot holds. -/
  kind : Kind
  /-- What is done with the first value of a new instance. -/
  seeds : SeedPolicy
  deriving DecidableEq, Repr

end Contracts
