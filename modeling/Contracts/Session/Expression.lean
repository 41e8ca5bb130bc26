import Contracts.Heap.Exchange
import Contracts.Heap.Routine
import Contracts.Session.Holding

/-!
# Expressions

Expressions describe values: scalars, new arrays, records and functions, and values
that a session holds already.  Each evaluation of a container or a function makes a
new one.

## Main definitions

* `Expression` — the expressions.
* `Session.evaluate` — the value of an expression, and what was made for it.
-/

namespace Contracts

/-- The description of a value. -/
inductive Expression where
  /-- What was never written. -/
  | undefined : Expression
  /-- The value `null`. -/
  | null : Expression
  /-- A truth value. -/
  | boolean (b : Bool) : Expression
  /-- A number. -/
  | number (x : Number) : Expression
  /-- A text. -/
  | string (s : String) : Expression
  /-- A new array. -/
  | array (items : List Expression) : Expression
  /-- A new record; of two entries with one key the later counts. -/
  | record (entries : List (String × Expression)) : Expression
  /-- A value made from a JSON value. -/
  | json (json : Json) : Expression
  /-- A new native function. -/
  | function (name : String) (arity : Nat) (routine : Routine) : Expression
  /-- The value that is held under a name. -/
  | held (name : String) : Expression

namespace Holdings

mutual

/-- The value of an expression and the store in which it was made.  There is none if a
name is used under which no value is held. -/
def evaluate (holdings : Holdings) (store : Store) : Expression → Option (Store × Value)
  | .undefined => some (store, .undefined)
  | .null => some (store, .null)
  | .boolean b => some (store, .boolean b)
  | .number x => some (store, .number x)
  | .string s => some (store, .string s)
  | .array items => do
      let (store, values) ← holdings.evaluateItems store items
      let (store, id) := store.newArray values.toArray
      return (store, .array id)
  | .record entries => do
      let (store, entries) ← holdings.evaluateEntries store entries
      let (store, id) := store.newRecord (.ofList entries)
      return (store, .record id)
  | .json json => some (store.addJson json)
  | .function name arity routine =>
      let (store, id) := store.newFunction
      some (store, .function (.native id name arity routine.body))
  | .held name => do
      let value ← holdings.value? name
      return (store, value)

/-- The values of expressions, from left to right. -/
def evaluateItems (holdings : Holdings) (store : Store) :
    List Expression → Option (Store × List Value)
  | [] => some (store, [])
  | item :: rest => do
      let (store, value) ← holdings.evaluate store item
      let (store, values) ← holdings.evaluateItems store rest
      return (store, value :: values)

/-- The values of entries, from left to right. -/
def evaluateEntries (holdings : Holdings) (store : Store) :
    List (String × Expression) → Option (Store × List (String × Value))
  | [] => some (store, [])
  | (key, entry) :: rest => do
      let (store, value) ← holdings.evaluate store entry
      let (store, entries) ← holdings.evaluateEntries store rest
      return (store, (key, value) :: entries)

end

end Holdings

end Contracts
