import Contracts.Definition.Interface
import Contracts.World

/-!
# Instances of interfaces

An **instance** binds a record to an interface: a field is read and written only if it
is declared, and what is written has to be of the kind of the field.  An instance with a
validated seed has a record of its own; one with a trusted seed shares the seed's.

## Main definitions

* `Interface.check` — whether a value may be written to a field.
* `Interface.checkEntries` — the same for every entry of a seed, by ascending key.
* `Instance` — a record bound to an interface.
* `World.construct`, `World.constructWith` — make an instance.
* `World.getField`, `World.setField` — read and write a field; what is refused is logged.
-/

namespace Contracts

namespace Interface

/-- Whether a value may be written to a field. -/
def check (interface : Interface) (field : String) (value : Value) : Except Violation Unit :=
  if interface.shape.declares field then
    match interface.shape.kindOf field with
    | some kind =>
        if kind.accepts value then .ok ()
        else .error (.wrongKind (some field) kind value.category)
    | none => .ok ()
  else .error (.undeclaredField interface.name field .write)

/-- Whether each entry may be written; the first that may not is the reason. -/
def checkEntries (interface : Interface) : List (String × Value) → Except Violation Unit
  | [] => .ok ()
  | (field, value) :: rest =>
      match interface.check field value with
      | .error violation => .error violation
      | .ok () => interface.checkEntries rest

end Interface

/-- A record bound to an interface. -/
structure Instance where
  /-- Its identity in the log. -/
  id : InstanceId
  /-- The interface, as it was when the instance was made. -/
  interface : Interface
  /-- The record. -/
  record : RecordId
  deriving DecidableEq, Repr

namespace Instance

/-- The event of a refused access to a field. -/
def refusal (inst : Instance) (field : String) (cause : Violation) : Event :=
  .fieldRefused inst.id inst.interface.name field cause

end Instance

namespace World

/-- Bind a record to an interface. -/
def bind (world : World) (interface : Interface) (record : RecordId) : World × Instance :=
  let (world, id) := world.newInstance
  (world, ⟨id, interface, record⟩)

/-- Make an instance with a new record without entries. -/
def construct (world : World) (interface : Interface) : World × Instance :=
  let (store, record) := world.store.newRecord .empty
  { world with store }.bind interface record

/-- Make an instance from the entries of a seed.  A validated seed is checked and
copied; a trusted seed becomes the record of the instance. -/
def constructWith (world : World) (interface : Interface) (seed : RecordId) :
    Except Violation (World × Instance) :=
  match interface.seeds with
  | .validate =>
      let entries := world.store.record seed
      match interface.checkEntries entries.entries with
      | .error violation => .error violation
      | .ok () =>
          let (store, record) := world.store.newRecord entries
          .ok ({ world with store }.bind interface record)
  | .trust => .ok (world.bind interface seed)

/-- Read a field. -/
def getField (world : World) (inst : Instance) (field : String) :
    World × Except Violation Value :=
  if inst.interface.shape.declares field then (world, .ok (world.store.read inst.record field))
  else
    let violation := .undeclaredField inst.interface.name field .read
    (world.emit (inst.refusal field violation), .error violation)

/-- Write a field. -/
def setField (world : World) (inst : Instance) (field : String) (value : Value) :
    World × Except Violation Unit :=
  match inst.interface.check field value with
  | .error violation => (world.emit (inst.refusal field violation), .error violation)
  | .ok () => ({ world with store := world.store.insert inst.record field value }, .ok ())

end World

end Contracts
