import Contracts.World

/-!
# Frozen views

A **frozen view** reads a record and refuses every change to it.  It is no copy: what is
written to the record by other means is seen through the view, and records inside it
are not frozen.

## Main definitions

* `FrozenView` — a view of a record.
* `Store.readFrozen` — read an entry.
* `World.refuseChange` — what comes of a change.
-/

namespace Contracts

/-- A view of a record that refuses changes. -/
structure FrozenView where
  /-- The record. -/
  record : RecordId
  deriving DecidableEq, Repr

/-- Read an entry of the record; what was never written is undefined. -/
def Store.readFrozen (store : Store) (view : FrozenView) (key : String) : Value :=
  store.read view.record key

/-- Refuse a change, and log that. -/
def World.refuseChange (world : World) (_view : FrozenView) (change : Change) (key : String) :
    World × Except Violation Unit :=
  (world.emit (.changeRefused change key), .error (.frozen change key))

end Contracts
