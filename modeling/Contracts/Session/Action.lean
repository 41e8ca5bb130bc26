import Contracts.Heap.Tree
import Contracts.Journal.Entry
import Contracts.Json.Fault
import Contracts.Session.Expression

/-!
# Actions and replies

What can be asked of a session, and what it replies.  An action names the things it is
done on by the names under which they are held; the values it needs are its operands.

## Main definitions

* `Action` — what is to be done.
* `Step` — an action with the expressions of its operands, and the name under which
  the result is to be held.
* `Answer` — what comes of an action that succeeds.
* `Refusal` — why an action does not.
* `Reply` — either, with the state that a write has left behind.
-/

namespace Contracts

/-! ### Actions -/

/-- Where the fields of a shape come from. -/
inductive FieldSource where
  /-- Declarations, made in order. -/
  | declared (declarations : List (String × Option Kind)) : FieldSource
  /-- A shape that is held. -/
  | held (name : String) : FieldSource
  /-- A JSON text. -/
  | text (text : String) : FieldSource

/-- What is to be done. -/
inductive Action where
  /-- Take the operand as it is. -/
  | take : Action
  /-- Describe the operand in every way. -/
  | profile : Action
  /-- Tell the category of the operand. -/
  | category : Action
  /-- Inspect the operand. -/
  | inspect : Action
  /-- Compare two operands, either way round. -/
  | compare : Action
  /-- Tell whether the operand is of a kind. -/
  | accepts (kind : Kind) : Action
  /-- Make a record. -/
  | newRecord : Action
  /-- Read an entry of a record. -/
  | getEntry (key : String) : Action
  /-- Write the second operand to an entry of a record, and tell what was there. -/
  | insertEntry (key : String) : Action
  /-- Remove an entry of a record, and tell what was there. -/
  | removeEntry (key : String) : Action
  /-- Describe a record, and tell whether it has an entry. -/
  | recordInfo (key : String) : Action
  /-- Tell whether two operands are one record. -/
  | sameRecord : Action
  /-- Make an array. -/
  | newArray : Action
  /-- Read an item of an array. -/
  | getItem (index : Nat) : Action
  /-- Add the second operand to an array. -/
  | pushItem : Action
  /-- Describe an array. -/
  | arrayInfo : Action
  /-- Tell whether two operands are one array. -/
  | sameArray : Action
  /-- Call the first operand with the others. -/
  | call : Action
  /-- List the calls of native functions since they were last listed. -/
  | listCalls : Action
  /-- List the events since they were last listed. -/
  | listEvents : Action
  /-- Make a shape, one declaration after the other. -/
  | shape (fields : FieldSource) : Action
  /-- Make a shape from all declarations at once. -/
  | collectShape (fields : FieldSource) : Action
  /-- Declare a field of a shape. -/
  | declareField (on name : String) (kind : Option Kind) : Action
  /-- Lay one shape over another. -/
  | extendShape (base derived : FieldSource) : Action
  /-- Look a field of a shape up. -/
  | lookUpField (on name : String) : Action
  /-- Tell whether two shapes are equal. -/
  | sameShape (left right : FieldSource) : Action
  /-- Make a catalog. -/
  | newCatalog (policy : Policy) : Action
  /-- Define an interface. -/
  | defineInterface (on name : String) (fields : FieldSource) (base : Option String) : Action
  /-- Define a type. -/
  | defineType (on name : String) (kind : Kind) : Action
  /-- Look an interface up. -/
  | lookUpInterface (on name : String) : Action
  /-- Look a type up. -/
  | lookUpType (on name : String) : Action
  /-- Look both definitions of a name up. -/
  | lookUpDefinitions (on name : String) : Action
  /-- List the names of a catalog. -/
  | listNames (on : String) : Action
  /-- Load a document into a catalog. -/
  | load (on text : String) : Action
  /-- Make a registry of shapes. -/
  | newShapes : Action
  /-- Make a registry of kinds. -/
  | newKinds : Action
  /-- Register a shape. -/
  | registerShape (on name : String) (fields : FieldSource) (policy : RegistrationPolicy)
      (base : Option String) : Action
  /-- Register a kind. -/
  | registerKind (on name : String) (kind : Kind) (policy : RegistrationPolicy) : Action
  /-- Describe a registry, and look a name up in it. -/
  | registryInfo (on name : String) : Action
  /-- Make an instance of an interface without entries. -/
  | construct (on : String) : Action
  /-- Make an instance of an interface from a seed. -/
  | constructWith (on : String) : Action
  /-- Read a field. -/
  | getField (on key : String) : Action
  /-- Write a field. -/
  | setField (on key : String) : Action
  /-- Describe an instance of an interface. -/
  | instanceInfo (on : String) : Action
  /-- Tell whether two instances are one. -/
  | sameInstance (left right : String) : Action
  /-- Make a slot that holds the operand. -/
  | newSlot (on : String) : Action
  /-- Read a slot under a name. -/
  | getSlot (on key : String) : Action
  /-- Write a slot, under a name or without one. -/
  | setSlot (on : String) (key : Option String) : Action
  /-- Take the value out of a slot, which is then no longer held. -/
  | takeSlot (on : String) : Action
  /-- View a record without being able to change it. -/
  | freeze : Action
  /-- Read an entry through a frozen view. -/
  | getFrozen (on key : String) : Action
  /-- Try to change an entry through a frozen view. -/
  | changeFrozen (on : String) (change : Change) (key : String) : Action
  /-- Describe a frozen view, and tell whether its record has an entry. -/
  | frozenInfo (on key : String) : Action
  /-- Begin to apply a function. -/
  | curry : Action
  /-- Give arguments to an application. -/
  | apply (on : String) : Action
  /-- Give arguments to an application, and take what comes of it as a value. -/
  | applyToValue (on : String) : Action
  /-- Take an application as a function. -/
  | toFunction (on : String) : Action

/-- An action as it is asked for. -/
structure Step where
  /-- What is to be done. -/
  action : Action
  /-- The values it is done with. -/
  operands : List Expression
  /-- The name under which the result is held if the action succeeds. -/
  into : Option String

/-! ### Replies -/

/-- A value described in every way. -/
structure Profile where
  /-- The value. -/
  value : Value
  /-- What it reports to be. -/
  category : Category
  /-- The value as text. -/
  display : String
  /-- The value as a JSON text. -/
  json : String
  /-- How many entries it has, if it is a record. -/
  entries : Option Nat
  /-- How many items it has, if it is an array. -/
  items : Option Nat

/-- A value with what it is described by. -/
def Store.profile (store : Store) (value : Value) : Profile where
  value := value
  category := value.category
  display := store.display value
  json := (store.toJson value).print
  entries := match value with
    | .record id => some (store.record id).size
    | _ => none
  items := match value with
    | .array id => some (store.array id).size
    | _ => none

/-- The entries of a record, written out. -/
abbrev Entries := List (String × Tree)

/-- What comes of an action that succeeds. -/
inductive Answer where
  /-- Nothing more than that it did. -/
  | done : Answer
  /-- Yes or no. -/
  | truth (b : Bool) : Answer
  /-- Yes or no, twice. -/
  | truths (first second : Bool) : Answer
  /-- How many. -/
  | count (n : Nat) : Answer
  /-- A text. -/
  | text (s : String) : Answer
  /-- A value. -/
  | value (tree : Tree) : Answer
  /-- A value, if there is one. -/
  | maybe (tree : Option Tree) : Answer
  /-- A value described in every way. -/
  | profile (profile : Profile) : Answer
  /-- A record, and whether it has an entry. -/
  | record (entries : Entries) (contains : Bool) : Answer
  /-- An array. -/
  | array (items : List Tree) : Answer
  /-- Calls of native functions. -/
  | calls (calls : List Invocation) : Answer
  /-- What was logged. -/
  | entries (entries : List Entry) : Answer
  /-- A shape with all about it. -/
  | shape (shape : Shape) : Answer
  /-- The declarations of a shape. -/
  | fields (shape : Shape) : Answer
  /-- Whether a field is declared, and its kind. -/
  | field (declared : Bool) (kind : Option Kind) : Answer
  /-- A kind. -/
  | kind (kind : Kind) : Answer
  /-- A policy. -/
  | policy (policy : Policy) : Answer
  /-- An interface. -/
  | interface (interface : Interface) : Answer
  /-- A slot type. -/
  | type (type : SlotType) : Answer
  /-- Both definitions of a name. -/
  | definitions (shape : Option Shape) (kind : Option Kind) : Answer
  /-- The names of a catalog. -/
  | names (interfaces types : List String) : Answer
  /-- How many declarations of each sort were made. -/
  | loaded (kinds interfaces : Nat) : Answer
  /-- The names of a registry of shapes, and the definition of one. -/
  | shapes (names : List String) (found : Option Shape) : Answer
  /-- The names of a registry of kinds, and the definition of one. -/
  | kinds (names : List String) (found : Option Kind) : Answer
  /-- A new instance of an interface. -/
  | inst (interface : Interface) (entries : Entries) : Answer
  /-- An instance of an interface with its JSON text. -/
  | instanceInfo (interface : Interface) (entries : Entries) (json : String) : Answer
  /-- A new slot. -/
  | slot (type : SlotType) (held : Tree) : Answer
  /-- The keys of a frozen record. -/
  | frozen (keys : List String) : Answer
  /-- The keys of a frozen record, and whether it has an entry. -/
  | frozenInfo (keys : List String) (contains : Bool) : Answer
  /-- An application: the arity of its function, the arguments that remain, and those
  that were supplied. -/
  | application (arity remaining : Nat) (supplied : List Tree) : Answer
  /-- What a function returned. -/
  | complete (tree : Tree) : Answer
  /-- An application that waits for more arguments. -/
  | incomplete (arity remaining : Nat) (supplied : List Tree) : Answer

/-- Why an action does not succeed. -/
inductive Refusal where
  /-- It is not allowed. -/
  | violation (violation : Violation) : Refusal
  /-- A text cannot be read. -/
  | unreadable (faultClass : Json.FaultClass) (message : String) : Refusal
  /-- Nothing fitting is held under a name, or an operand is not of the right sort. -/
  | misuse : Refusal

/-- What a write has left behind. -/
inductive Remains where
  /-- The entries of a record. -/
  | record (entries : Entries) : Remains
  /-- The value of a slot. -/
  | slot (held : Tree) : Remains

/-- What a session replies. -/
structure Reply where
  /-- What came of the action. -/
  outcome : Except Refusal Answer
  /-- What a write has left behind, whether it succeeded or not. -/
  remains : Option Remains

end Contracts
