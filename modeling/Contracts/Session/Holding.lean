import Contracts.Catalog.Document
import Contracts.Heap.Application
import Contracts.Instance.Frozen
import Contracts.Instance.Record
import Contracts.Instance.Slot

/-!
# Holdings

What a session holds under names, between one action and the next.

## Main definitions

* `Holding` — one thing that is held.
* `Holdings` — all that is held, with a look-up for each sort of things.
-/

namespace Contracts

/-- What a session can hold. -/
inductive Holding where
  /-- A value. -/
  | value (value : Value) : Holding
  /-- A shape. -/
  | shape (shape : Shape) : Holding
  /-- A catalog. -/
  | catalog (catalog : Catalog) : Holding
  /-- A registry of shapes. -/
  | shapes (registry : Registry Shape) : Holding
  /-- A registry of kinds. -/
  | kinds (registry : Registry Kind) : Holding
  /-- An interface. -/
  | interface (interface : Interface) : Holding
  /-- A slot type. -/
  | type (type : SlotType) : Holding
  /-- An instance of an interface. -/
  | inst (inst : Instance) : Holding
  /-- An instance of a slot type. -/
  | slot (slot : Slot) : Holding
  /-- A frozen view. -/
  | frozen (view : FrozenView) : Holding
  /-- An application. -/
  | application (application : Application) : Holding

/-- What a session holds, by name. -/
abbrev Holdings := Dict Holding

namespace Holdings

/-- The value held under a name. -/
def value? (holdings : Holdings) (name : String) : Option Value :=
  match holdings.get? name with
  | some (.value value) => some value
  | _ => none

/-- The shape held under a name. -/
def shape? (holdings : Holdings) (name : String) : Option Shape :=
  match holdings.get? name with
  | some (.shape shape) => some shape
  | _ => none

/-- The catalog held under a name. -/
def catalog? (holdings : Holdings) (name : String) : Option Catalog :=
  match holdings.get? name with
  | some (.catalog catalog) => some catalog
  | _ => none

/-- The registry of shapes held under a name. -/
def shapes? (holdings : Holdings) (name : String) : Option (Registry Shape) :=
  match holdings.get? name with
  | some (.shapes registry) => some registry
  | _ => none

/-- The registry of kinds held under a name. -/
def kinds? (holdings : Holdings) (name : String) : Option (Registry Kind) :=
  match holdings.get? name with
  | some (.kinds registry) => some registry
  | _ => none

/-- The interface held under a name. -/
def interface? (holdings : Holdings) (name : String) : Option Interface :=
  match holdings.get? name with
  | some (.interface interface) => some interface
  | _ => none

/-- The slot type held under a name. -/
def type? (holdings : Holdings) (name : String) : Option SlotType :=
  match holdings.get? name with
  | some (.type type) => some type
  | _ => none

/-- The instance of an interface held under a name. -/
def inst? (holdings : Holdings) (name : String) : Option Instance :=
  match holdings.get? name with
  | some (.inst inst) => some inst
  | _ => none

/-- The slot held under a name. -/
def slot? (holdings : Holdings) (name : String) : Option Slot :=
  match holdings.get? name with
  | some (.slot slot) => some slot
  | _ => none

/-- The identity of the instance, of an interface or of a slot type, held under a name. -/
def instanceId? (holdings : Holdings) (name : String) : Option InstanceId :=
  match holdings.get? name with
  | some (.inst inst) => some inst.id
  | some (.slot slot) => some slot.id
  | _ => none

/-- The frozen view held under a name. -/
def frozen? (holdings : Holdings) (name : String) : Option FrozenView :=
  match holdings.get? name with
  | some (.frozen view) => some view
  | _ => none

/-- The application held under a name. -/
def application? (holdings : Holdings) (name : String) : Option Application :=
  match holdings.get? name with
  | some (.application application) => some application
  | _ => none

end Holdings

end Contracts
