import Contracts.Definition.Interface
import Contracts.World

/-!
# Instances of slot types

A **slot** holds one value of the kind of its type.  It is reached under one name,
`value`, and under no other.

## Main definitions

* `SlotType.check` — whether a value may be held.
* `Slot` — a held value and its type.
* `World.constructSlot` — make a slot.
* `World.getSlot`, `World.setSlot` — read and write under a name.
* `World.setSlotValue` — write.
-/

namespace Contracts

/-- Whether a value is of the kind of a type. -/
def SlotType.check (type : SlotType) (value : Value) : Except Violation Unit :=
  if type.kind.accepts value then .ok ()
  else .error (.wrongKind none type.kind value.category)

/-- A value held under a type. -/
structure Slot where
  /-- Its identity in the log. -/
  id : InstanceId
  /-- The type, as it was when the slot was made. -/
  type : SlotType
  /-- The value. -/
  held : Value

namespace Slot

/-- The name a slot is reached under. -/
def accessor : String := "value"

/-- The event of a refused access. -/
def refusal (slot : Slot) (field : String) (cause : Violation) : Event :=
  .slotRefused slot.id slot.type.name field cause

end Slot

namespace World

/-- Make a slot.  Its first value is checked unless seeds are trusted. -/
def constructSlot (world : World) (type : SlotType) (initial : Value) :
    Except Violation (World × Slot) :=
  let made : World × Slot :=
    let (world, id) := world.newInstance
    (world, ⟨id, type, initial⟩)
  match type.seeds with
  | .validate => (type.check initial).map fun _ => made
  | .trust => .ok made

/-- Read under a name. -/
def getSlot (world : World) (slot : Slot) (field : String) : World × Except Violation Value :=
  if field = Slot.accessor then (world, .ok slot.held)
  else
    let violation := .wrongAccessor slot.type.name field
    (world.emit (slot.refusal field violation), .error violation)

/-- Write: the slot with the new value. -/
def setSlotValue (world : World) (slot : Slot) (value : Value) :
    World × Except Violation Slot :=
  match slot.type.check value with
  | .error violation => (world.emit (slot.refusal Slot.accessor violation), .error violation)
  | .ok () => (world, .ok { slot with held := value })

/-- Write under a name. -/
def setSlot (world : World) (slot : Slot) (field : String) (value : Value) :
    World × Except Violation Slot :=
  if field = Slot.accessor then world.setSlotValue slot value
  else
    let violation := .wrongAccessor slot.type.name field
    (world.emit (slot.refusal field violation), .error violation)

end World

end Contracts
