import Contracts.Dict.Lemmas
import Contracts.Heap.Value

/-!
# Stores

A **store** holds the contents of records and arrays, which values name.  Whoever has
the name of a record reads what was written to it through any other copy of the name.
A store also keeps the history of the calls of native functions, since what a function
returns may depend on how often it was called.

## Main definitions

* `Store` — contents of records and arrays, and the history of calls.
* `Store.record`, `Store.array` — the contents of a record or an array.
* `Store.newRecord`, `Store.newArray`, `Store.newFunction` — names that nothing had before.
* `Store.insert`, `Store.remove`, `Store.push` — change a record or an array.

## Main results

* `Store.record_newRecord`, `Store.record_insert`, `Store.array_push` — an operation changes
  the contents that it names and no others.
-/

namespace Contracts

/-- A call of a native function. -/
structure Invocation where
  /-- The function. -/
  function : FunctionId
  /-- Its name. -/
  name : String
  /-- How many arguments it was called with. -/
  arguments : Nat
  deriving DecidableEq, Repr

/-- Contents of records and arrays, and the history of calls. -/
structure Store where
  /-- The entries of each record. -/
  records : Array (Dict Value)
  /-- The items of each array. -/
  arrays : Array (Array Value)
  /-- How many functions have been made. -/
  functions : Nat
  /-- The calls of native functions, the first one first. -/
  history : Array Invocation

namespace Store

/-- The store in which nothing was made yet. -/
def empty : Store := ⟨#[], #[], 0, #[]⟩

instance : Inhabited Store := ⟨empty⟩

/-! ### Records -/

/-- The entries of a record. -/
def record (store : Store) (id : RecordId) : Dict Value :=
  (store.records[id.index]?).getD .empty

/-- Make a record. -/
def newRecord (store : Store) (entries : Dict Value) : Store × RecordId :=
  let id := ⟨store.records.size⟩
  ({ store with records := store.records.push entries }, id)

/-- Give a record other entries. -/
def setRecord (store : Store) (id : RecordId) (entries : Dict Value) : Store :=
  { store with records := store.records.setIfInBounds id.index entries }

/-- Write an entry of a record. -/
def insert (store : Store) (id : RecordId) (key : String) (value : Value) : Store :=
  store.setRecord id ((store.record id).insert key value)

/-- Remove an entry of a record. -/
def remove (store : Store) (id : RecordId) (key : String) : Store :=
  store.setRecord id ((store.record id).erase key)

/-- The value of an entry; what was never written is undefined. -/
def read (store : Store) (id : RecordId) (key : String) : Value :=
  ((store.record id).get? key).getD .undefined

/-! ### Arrays -/

/-- The items of an array. -/
def array (store : Store) (id : ArrayId) : Array Value :=
  (store.arrays[id.index]?).getD #[]

/-- Make an array. -/
def newArray (store : Store) (items : Array Value) : Store × ArrayId :=
  let id := ⟨store.arrays.size⟩
  ({ store with arrays := store.arrays.push items }, id)

/-- Add an item at the end of an array. -/
def push (store : Store) (id : ArrayId) (item : Value) : Store :=
  { store with arrays := store.arrays.setIfInBounds id.index ((store.array id).push item) }

/-! ### Functions -/

/-- Make the name of a function. -/
def newFunction (store : Store) : Store × FunctionId :=
  ({ store with functions := store.functions + 1 }, ⟨store.functions⟩)

/-- Record a call. -/
def recordCall (store : Store) (call : Invocation) : Store :=
  { store with history := store.history.push call }

/-- How often a function has been called. -/
def callCount (store : Store) (id : FunctionId) : Nat :=
  store.history.countP fun call => call.function == id

/-! ### What the operations do to the contents -/

/-- The record has been made. -/
def HasRecord (store : Store) (id : RecordId) : Prop := id.index < store.records.size

/-- The array has been made. -/
def HasArray (store : Store) (id : ArrayId) : Prop := id.index < store.arrays.size

instance (store : Store) (id : RecordId) : Decidable (store.HasRecord id) :=
  Nat.decLt _ _

instance (store : Store) (id : ArrayId) : Decidable (store.HasArray id) :=
  Nat.decLt _ _

theorem hasRecord_newRecord (store : Store) (entries : Dict Value) :
    (store.newRecord entries).1.HasRecord (store.newRecord entries).2 := by
  simp [newRecord, HasRecord]

theorem hasArray_newArray (store : Store) (items : Array Value) :
    (store.newArray items).1.HasArray (store.newArray items).2 := by
  simp [newArray, HasArray]

/-- A new record has its entries, and the others keep theirs. -/
theorem record_newRecord (store : Store) (entries : Dict Value) (id : RecordId) :
    (store.newRecord entries).1.record id =
      if id = (store.newRecord entries).2 then entries else store.record id := by
  rcases id with ⟨index⟩
  simp only [newRecord, record, Array.getElem?_push, RecordId.mk.injEq]
  split <;> rfl

/-- A new array has its items, and the others keep theirs. -/
theorem array_newArray (store : Store) (items : Array Value) (id : ArrayId) :
    (store.newArray items).1.array id =
      if id = (store.newArray items).2 then items else store.array id := by
  rcases id with ⟨index⟩
  simp only [newArray, array, Array.getElem?_push, ArrayId.mk.injEq]
  split <;> rfl

/-- Other entries reach one record only. -/
theorem record_setRecord {store : Store} {id : RecordId} (made : store.HasRecord id)
    (entries : Dict Value) (other : RecordId) :
    (store.setRecord id entries).record other =
      if other = id then entries else store.record other := by
  rcases id with ⟨index⟩
  rcases other with ⟨index'⟩
  simp only [setRecord, record, Array.getElem?_setIfInBounds, RecordId.mk.injEq,
    eq_comm (a := index)]
  split
  · rw [if_pos (show index < _ from made)]
    rfl
  · rfl

/-- What is written to a record is read from it, and nothing else changes. -/
theorem record_insert {store : Store} {id : RecordId} (made : store.HasRecord id)
    (key : String) (value : Value) (other : RecordId) :
    (store.insert id key value).record other =
      if other = id then (store.record id).insert key value else store.record other :=
  record_setRecord made _ other

theorem record_remove {store : Store} {id : RecordId} (made : store.HasRecord id)
    (key : String) (other : RecordId) :
    (store.remove id key).record other =
      if other = id then (store.record id).erase key else store.record other :=
  record_setRecord made _ other

/-- A pushed item reaches one array only. -/
theorem array_push {store : Store} {id : ArrayId} (made : store.HasArray id) (item : Value)
    (other : ArrayId) :
    (store.push id item).array other =
      if other = id then (store.array id).push item else store.array other := by
  rcases id with ⟨index⟩
  rcases other with ⟨index'⟩
  simp only [push, array, Array.getElem?_setIfInBounds, ArrayId.mk.injEq,
    eq_comm (a := index)]
  split
  · rw [if_pos (show index < _ from made)]
    rfl
  · rfl

end Store

end Contracts
