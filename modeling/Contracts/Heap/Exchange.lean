import Contracts.Heap.Tree
import Contracts.Json

/-!
# Values and JSON

Values made from JSON values, in containers of their own, and JSON values made from
values.  A number without fraction whose neighbours are all numbers becomes an integer;
what JSON cannot say becomes null.

## Main definitions

* `Store.addJson` — make a value from a JSON value.
* `Tree.toJson`, `Store.toJson` — the JSON value of a value.
-/

namespace Contracts

/-- The nearest number to a JSON number. -/
def JsonNumber.toNumber : JsonNumber → Number
  | .integer i => .ofInt i
  | .float x => x

/-- The JSON value of a number. -/
def Number.toJson (x : Number) : Json :=
  match x.safeInteger? with
  | some i => .number (.integer i)
  | none => if x.isFinite then .number (.float x) else .null

namespace Store

mutual

/-- Make a value from a JSON value. -/
def addJson (store : Store) : Json → Store × Value
  | .null => (store, .null)
  | .boolean b => (store, .boolean b)
  | .number n => (store, .number n.toNumber)
  | .string s => (store, .string s)
  | .array items =>
      let (store, values) := store.addItems items
      let (store, id) := store.newArray values.toArray
      (store, .array id)
  | .object members =>
      let (store, entries) := store.addMembers members
      let (store, id) := store.newRecord (.ofList entries)
      (store, .record id)

/-- Make the items of an array. -/
def addItems (store : Store) : List Json → Store × List Value
  | [] => (store, [])
  | item :: rest =>
      let (store, value) := store.addJson item
      let (store, values) := store.addItems rest
      (store, value :: values)

/-- Make the entries of a record. -/
def addMembers (store : Store) : List (String × Json) → Store × List (String × Value)
  | [] => (store, [])
  | (key, member) :: rest =>
      let (store, value) := store.addJson member
      let (store, entries) := store.addMembers rest
      (store, (key, value) :: entries)

end

end Store

namespace Tree

mutual

/-- The JSON value of a tree. -/
def toJson : Tree → Json
  | .undefined | .null | .function .. | .enclosing => .null
  | .boolean b => .boolean b
  | .number x => x.toJson
  | .string s => .string s
  | .array items => .array (toJsonItems items)
  | .record entries => .object (toJsonMembers entries)

/-- The JSON values of the items of an array. -/
def toJsonItems : List Tree → List Json
  | [] => []
  | item :: rest => item.toJson :: toJsonItems rest

/-- The JSON values of the entries of a record. -/
def toJsonMembers : List (String × Tree) → List (String × Json)
  | [] => []
  | (key, value) :: rest => (key, value.toJson) :: toJsonMembers rest

end

end Tree

/-- The JSON value of a value. -/
def Store.toJson (store : Store) (value : Value) : Json := (store.unfold value).toJson

end Contracts
