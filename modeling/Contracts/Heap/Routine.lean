import Contracts.Heap.Application
import Contracts.Heap.Display

/-!
# Routines

Ten bodies for native functions, with which a session makes its functions.  One of them
calls a function, the first of its arguments, whose body may be a routine again.  As the
arguments of that call are fewer, calls do not nest without end.

## Main definitions

* `Routine` — the routines, with `Routine.body` and `Routine.of?`.
* `Routine.Effect`, `Routine.effect` — what a routine does with its arguments.
* `Routine.step` — what routines do, where it is known what is done by the bodies that they
  call.
* `Routine.bodies` — **what routines do.**
-/

namespace Contracts

/-! ### Names -/

/-- What a native function does with its arguments. -/
inductive Routine where
  /-- Return the first argument. -/
  | first : Routine
  /-- Return the last argument. -/
  | last : Routine
  /-- Return how many arguments there are. -/
  | count : Routine
  /-- Return the sum of the arguments that are numbers. -/
  | sum : Routine
  /-- Return the displayed arguments, joined by hyphens. -/
  | join : Routine
  /-- Return a new array of the arguments. -/
  | list : Routine
  /-- Return how often the function has been called. -/
  | tick : Routine
  /-- Return nothing. -/
  | ignore : Routine
  /-- Write to the record that is the first argument, and return it. -/
  | put : Routine
  /-- Call the function that is the first argument with the others. -/
  | apply : Routine
  deriving DecidableEq, Repr

namespace Routine

/-- The word for a routine. -/
def word : Routine → String
  | first => "first"
  | last => "last"
  | count => "count"
  | sum => "sum"
  | join => "join"
  | list => "list"
  | tick => "tick"
  | ignore => "ignore"
  | put => "put"
  | apply => "apply"

/-- A routine as a body. -/
def body (routine : Routine) : Body := ⟨routine.word⟩

/-- All routines. -/
def all : List Routine := [first, last, count, sum, join, list, tick, ignore, put, apply]

/-- The routine that a body is, if it is one. -/
def of? (body : Body) : Option Routine := all.find? fun routine => routine.body = body

/-! ### Effects -/

/-- What is done by a routine. -/
inductive Effect where
  /-- A value is returned. -/
  | give (value : Value) : Effect
  /-- A new array is returned. -/
  | list (items : List Value) : Effect
  /-- An entry of a record is written, and the record is returned. -/
  | put (record : RecordId) (key : String) (value : Value) : Effect
  /-- A function is called, and what it returns is returned. -/
  | call (f : Callable) (arguments : List Value) : Effect

/-- The sum of the values that are numbers, from left to right. -/
def sumNumbers (values : List Value) : Number :=
  values.foldl (fun total value =>
    match value with
    | .number x => total.add x
    | _ => total) (.zero false)

/-- What is done when the function `id` is called whose body is a routine.  The call has been
recorded by then. -/
def effect (routine : Routine) (store : Store) (id : FunctionId) (arguments : List Value) :
    Effect :=
  match routine with
  | first => .give (arguments.head?.getD .undefined)
  | last => .give (arguments.getLast?.getD .undefined)
  | count => .give (.number (.ofNat arguments.length))
  | sum => .give (.number (sumNumbers arguments))
  | join => .give (.string ("-".intercalate (arguments.map store.display)))
  | list => .list arguments
  | tick => .give (.number (.ofNat (store.callCount id)))
  | ignore => .give .undefined
  | put =>
      match arguments.head?.getD .undefined with
      | .record record =>
          .put record (store.display ((arguments[1]?).getD .undefined))
            ((arguments[2]?).getD .undefined)
      | other => .give other
  | apply =>
      match arguments with
      | .function f :: rest => .call f rest
      | _ => .give .undefined

/-- Do it. -/
def Effect.on (store : Store) (bodies : Bodies) : Effect → Store × Value
  | give value => (store, value)
  | list items =>
      let (store, array) := store.newArray items.toArray
      (store, .array array)
  | put record key value => (store.insert record key value, .record record)
  | call f arguments => store.call bodies f arguments

/-! ### Bodies -/

/-- What routines do, where it is known what is done by the bodies that they call.  A body that
is no routine does nothing. -/
def step (bodies : Bodies) : Bodies := fun body id store arguments =>
  match of? body with
  | some routine => (routine.effect store id arguments).on store bodies
  | none => (store, .undefined)

/-- What routines do, as far as their calls are nested up to a depth. -/
def nested : Nat → Bodies
  | 0 => fun _ _ store _ => (store, .undefined)
  | depth + 1 => step (nested depth)

mutual

/-- How many functions and values there are to a value. -/
def valueWeight : Value → Nat
  | .function f => functionWeight f + 1
  | _ => 1

/-- How many there are to a function. -/
def functionWeight : Callable → Nat
  | .native .. => 1
  | .applied _ target supplied => functionWeight target + listWeight supplied + 1

/-- How many there are to values. -/
def listWeight : List Value → Nat
  | [] => 0
  | value :: rest => valueWeight value + listWeight rest

end

/-- **What routines do.**  No call is nested deeper than there are functions and values among
the arguments. -/
def bodies : Bodies := fun body id store arguments =>
  nested (listWeight arguments + 1) body id store arguments

end Routine

end Contracts
