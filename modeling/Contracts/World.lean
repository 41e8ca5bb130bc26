import Contracts.Event
import Contracts.Heap.Store

/-!
# The world of instances

What the operations on instances work on: the store, the log, and the count of
instances from which each new one has its identity.

## Main definitions

* `World` — all of it.
* `World.emit` — log an event.
* `World.newInstance` — the identity of a new instance.
-/

namespace Contracts

/-- What operations on instances work on. -/
structure World where
  /-- The contents of records and arrays. -/
  store : Store
  /-- What was logged, the first event first. -/
  log : Array Event
  /-- How many instances were made. -/
  instances : Nat

namespace World

/-- The world in which nothing has happened yet. -/
def empty : World := ⟨.empty, #[], 0⟩

instance : Inhabited World := ⟨empty⟩

/-- Log an event. -/
def emit (world : World) (event : Event) : World := { world with log := world.log.push event }

/-- Log events in order. -/
def emitAll (world : World) (events : List Event) : World :=
  { world with log := world.log ++ events.toArray }

/-- The identity of a new instance. -/
def newInstance (world : World) : World × InstanceId :=
  ({ world with instances := world.instances + 1 }, ⟨world.instances⟩)

end World

end Contracts
