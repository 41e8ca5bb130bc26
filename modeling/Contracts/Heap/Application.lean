import Contracts.Heap.Call

/-!
# Partial application

A function can be given its arguments a few at a time.  An **application** collects
them until the function has all it waits for; then it is called with exactly so many,
and what was given beyond that is dropped.  Giving arguments to an application leaves
it as it is, so that different arguments can be tried on it.

## Main definitions

* `Application` — a function and the arguments given to it so far.
* `Store.apply` — give more arguments.
* `Store.toFunction` — the application as a function.
-/

namespace Contracts

/-- A function with the arguments given to it so far. -/
structure Application where
  /-- The function. -/
  target : Callable
  /-- The arguments. -/
  supplied : List Value

namespace Application

/-- The application of a function to nothing yet. -/
def of (target : Callable) : Application := ⟨target, []⟩

/-- How many arguments the function has. -/
def arity (application : Application) : Nat := application.target.arity

/-- How many arguments are still to be given. -/
def remaining (application : Application) : Nat :=
  application.target.arity - application.supplied.length

end Application

/-- What giving arguments leads to. -/
inductive Applied where
  /-- The function was called and returned this. -/
  | complete (value : Value) : Applied
  /-- More arguments are needed. -/
  | incomplete (application : Application) : Applied

namespace Store

/-- Give arguments to an application. -/
def apply (store : Store) (bodies : Bodies) (application : Application)
    (arguments : List Value) : Store × Applied :=
  let all := application.supplied ++ arguments
  if application.target.arity ≤ all.length then
    let (store, value) :=
      store.call bodies application.target (all.take application.target.arity)
    (store, .complete value)
  else (store, .incomplete ⟨application.target, all⟩)

/-- The application as a function of the arguments still to be given. -/
def toFunction (store : Store) (application : Application) : Store × Callable :=
  let (store, id) := store.newFunction
  (store, .applied id application.target application.supplied)

/-- What giving arguments leads to, as a value. -/
def toValue (store : Store) : Applied → Store × Value
  | .complete value => (store, value)
  | .incomplete application =>
      let (store, f) := store.toFunction application
      (store, .function f)

/-- Calling a function that came from an application is giving the arguments to that
application. -/
theorem call_applied (store : Store) (bodies : Bodies) (id : FunctionId) (target : Callable)
    (supplied arguments : List Value) :
    store.call bodies (.applied id target supplied) arguments =
      (store.apply bodies ⟨target, supplied⟩ arguments).1.toValue
        (store.apply bodies ⟨target, supplied⟩ arguments).2 := by
  rw [call, apply]
  split <;> rfl

end Store

end Contracts
