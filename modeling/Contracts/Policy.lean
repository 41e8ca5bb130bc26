/-!
# Policies

Two switches of a catalog: what is done with the values an instance starts from, and
with a name that is registered again.

## Main definitions

* `SeedPolicy`, `RegistrationPolicy` — the switches.
* `Policy` — both together; the default is to validate and to replace.
-/

namespace Contracts

/-- What is done with the values that an instance starts from. -/
inductive SeedPolicy where
  /-- They are checked like writes. -/
  | validate : SeedPolicy
  /-- They are taken as they are. -/
  | trust : SeedPolicy
  deriving DecidableEq, Repr

/-- The word for a seed policy. -/
def SeedPolicy.text : SeedPolicy → String
  | .validate => "validate"
  | .trust => "trust"

/-- What is done with a name that is registered already. -/
inductive RegistrationPolicy where
  /-- The new definition takes its place. -/
  | replace : RegistrationPolicy
  /-- The registration fails. -/
  | reject : RegistrationPolicy
  deriving DecidableEq, Repr

/-- The word for a registration policy. -/
def RegistrationPolicy.text : RegistrationPolicy → String
  | .replace => "replace"
  | .reject => "reject"

/-- The switches of a catalog. -/
structure Policy where
  /-- What is done with seeds. -/
  seeds : SeedPolicy := .validate
  /-- What is done with names that are registered again. -/
  registration : RegistrationPolicy := .replace
  deriving DecidableEq, Repr

instance : Inhabited Policy := ⟨{}⟩

/-- The policy that checks and refuses least. -/
def Policy.permissive : Policy := ⟨.trust, .replace⟩

end Contracts
