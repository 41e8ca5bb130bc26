import Contracts.Number

/-!
# Values

The values that contracts are about.  Records and arrays are held by name only: their
contents are in a store, and two values with one name share them.  A function is either
a native one, with a body that the host has given it, or another function to which some
arguments have been applied already.

## Main definitions

* `RecordId`, `ArrayId`, `FunctionId` — the names of what is compared by identity.
* `Body` — the code of a native function.
* `Value`, `Callable` — values and functions.
* `Value.category` — what a value reports to be.
* `Value.same` — equality of values.
-/

namespace Contracts

/-! ### Identities -/

/-- The name of a record. -/
structure RecordId where
  /-- The place of the record in the store. -/
  index : Nat
  deriving DecidableEq, Repr

/-- The name of an array. -/
structure ArrayId where
  /-- The place of the array in the store. -/
  index : Nat
  deriving DecidableEq, Repr

/-- The name of a function. -/
structure FunctionId where
  /-- How many functions were made before. -/
  index : Nat
  deriving DecidableEq, Repr

/-! ### Values and functions -/

/-- The body of a native function.  It is host code, of which no more than a name is known
here: what it does is said by whoever calls the function. -/
structure Body where
  /-- The name of the body. -/
  name : String
  deriving DecidableEq, Repr

mutual

/-- A value. -/
inductive Value where
  /-- The value of what was never written. -/
  | undefined : Value
  /-- The value `null`. -/
  | null : Value
  /-- A truth value. -/
  | boolean (b : Bool) : Value
  /-- A number. -/
  | number (x : Number) : Value
  /-- A text. -/
  | string (s : String) : Value
  /-- An array in the store. -/
  | array (id : ArrayId) : Value
  /-- A record in the store. -/
  | record (id : RecordId) : Value
  /-- A function. -/
  | function (f : Callable) : Value

/-- A function. -/
inductive Callable where
  /-- A function with a body of its own. -/
  | native (id : FunctionId) (name : String) (arity : Nat) (body : Body) : Callable
  /-- A function that waits for the arguments of `target` that are not in `supplied`. -/
  | applied (id : FunctionId) (target : Callable) (supplied : List Value) : Callable

end

instance : Inhabited Value := ⟨.undefined⟩

namespace Callable

/-- The identity of a function. -/
def id : Callable → FunctionId
  | .native id .. => id
  | .applied id .. => id

/-- The name of a function; arguments applied to it do not change it. -/
def name : Callable → String
  | .native _ name .. => name
  | .applied _ target _ => target.name

/-- How many arguments a function waits for. -/
def arity : Callable → Nat
  | .native _ _ arity _ => arity
  | .applied _ target supplied => target.arity - supplied.length

end Callable

/-! ### Categories -/

/-- What a value reports to be. -/
inductive Category where
  /-- Nothing was ever written. -/
  | undefined : Category
  /-- A record, an array or null. -/
  | object : Category
  /-- A truth value. -/
  | boolean : Category
  /-- A number. -/
  | number : Category
  /-- A text. -/
  | string : Category
  /-- A function. -/
  | function : Category
  deriving DecidableEq, Repr

/-- The word for a category. -/
def Category.text : Category → String
  | .undefined => "undefined"
  | .object => "object"
  | .boolean => "boolean"
  | .number => "number"
  | .string => "string"
  | .function => "function"

namespace Value

/-- What a value reports to be. -/
def category : Value → Category
  | .undefined => .undefined
  | .null | .array _ | .record _ => .object
  | .boolean _ => .boolean
  | .number _ => .number
  | .string _ => .string
  | .function _ => .function

/-- Whether a value is the one of what was never written. -/
def isUndefined : Value → Bool
  | .undefined => true
  | _ => false

/-- Whether a value is null. -/
def isNull : Value → Bool
  | .null => true
  | _ => false

/-- Equality of values: scalars by what they are, the rest by identity. -/
def same : Value → Value → Bool
  | .undefined, .undefined => true
  | .null, .null => true
  | .boolean a, .boolean b => a == b
  | .number a, .number b => a.equal b
  | .string a, .string b => a == b
  | .array a, .array b => a == b
  | .record a, .record b => a == b
  | .function a, .function b => a.id == b.id
  | _, _ => false

end Value

end Contracts
