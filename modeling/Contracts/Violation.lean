import Contracts.Definition.Kind

/-!
# Violations

What an operation is refused for, the words in which it is reported, and the short code
under which it is logged.

## Main definitions

* `Violation` — the causes.
* `Violation.message`, `Violation.code` — their wording and their codes.
-/

namespace Contracts

/-- What was tried on a field. -/
inductive Access where
  /-- To read it. -/
  | read : Access
  /-- To write to it. -/
  | write : Access
  deriving DecidableEq, Repr

/-- What was tried on an entry of a frozen record. -/
inductive Change where
  /-- To write it. -/
  | write : Change
  /-- To delete it. -/
  | delete : Change
  deriving DecidableEq, Repr

/-- The cause for which an operation is refused. -/
inductive Violation where
  /-- No interface has the name. -/
  | unknownInterface (name : String) : Violation
  /-- No type has the name. -/
  | unknownType (name : String) : Violation
  /-- The interface does not declare the field. -/
  | undeclaredField (interface field : String) (access : Access) : Violation
  /-- The value is not of the kind of the field or, without a field, of the slot. -/
  | wrongKind (field : Option String) (expected : Kind) (actual : Category) : Violation
  /-- The slot of a type was reached for under another name than its own. -/
  | wrongAccessor (type field : String) : Violation
  /-- The record is frozen. -/
  | frozen (change : Change) (key : String) : Violation
  /-- The name is no identifier. -/
  | invalidName (name : String) : Violation
  /-- The name is registered, and registrations are not replaced. -/
  | alreadyRegistered (name : String) : Violation
  deriving DecidableEq, Repr

namespace Violation

/-- The wording of a violation. -/
def message : Violation → String
  | unknownInterface name => "Interface " ++ name ++ " does not exist"
  | unknownType name => "Type " ++ name ++ " does not exist"
  | undeclaredField interface field .write =>
      "Property '" ++ field ++ "' is not allowed on interface " ++ interface
  | undeclaredField interface field .read =>
      "Property '" ++ field ++ "' does not exist on interface " ++ interface
  | wrongKind (some field) expected actual =>
      "Property '" ++ field ++ "' should be '" ++ expected.display ++ "', got '" ++
        actual.text ++ "'"
  | wrongKind none expected actual =>
      "Value should be '" ++ expected.display ++ "', got '" ++ actual.text ++ "'"
  | wrongAccessor type _ => "Only 'value' property allowed for type " ++ type
  | frozen .write _ => "Cannot modify top-level properties"
  | frozen .delete _ => "Cannot delete top-level properties"
  | invalidName name => "registration name is not a valid identifier: " ++ name
  | alreadyRegistered name => "name already registered: " ++ name

/-- The code of a violation. -/
def code : Violation → String
  | unknownInterface _ => "unknown_shape"
  | unknownType _ => "unknown_kind"
  | undeclaredField .. => "unknown_field"
  | wrongKind .. => "type_mismatch"
  | wrongAccessor .. => "invalid_access"
  | frozen .write _ => "immutable_write"
  | frozen .delete _ => "immutable_delete"
  | invalidName _ => "invalid_name"
  | alreadyRegistered _ => "already_registered"

end Violation

end Contracts
