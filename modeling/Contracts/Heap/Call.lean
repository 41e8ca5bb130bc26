import Contracts.Heap.Store

/-!
# Calling functions

A call of a native function is recorded, and then its body runs.  A function to which
arguments have been applied puts those before the ones it is called with: once the target
has all it waits for, the target is called with exactly so many, and before that the result
is another function.

What a body does is not known here.  It may be any function of the store and the arguments,
whatever it calls, changes or makes on its way being part of what it leaves behind.

## Main definitions

* `Bodies` — what the bodies of native functions do.
* `Store.call` — call a function.
-/

namespace Contracts

/-- What the bodies of native functions do.  A body is told which function it is run for, and
with which arguments; it leaves a store behind and returns a value. -/
abbrev Bodies := Body → FunctionId → Store → List Value → Store × Value

namespace Store

/-- Call a function: the store afterwards and the value returned. -/
def call (store : Store) (bodies : Bodies) : Callable → List Value → Store × Value
  | .native id name _ body, arguments =>
      bodies body id (store.recordCall ⟨id, name, arguments.length⟩) arguments
  | .applied _ target supplied, arguments =>
      if target.arity ≤ (supplied ++ arguments).length then
        store.call bodies target ((supplied ++ arguments).take target.arity)
      else
        let (store, id) := store.newFunction
        (store, .function (.applied id target (supplied ++ arguments)))

end Store

end Contracts
