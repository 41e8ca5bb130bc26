import Contracts.Definition.Kind
import Contracts.Dict

/-!
# Shapes

A **shape** says which fields a record may have and, for each of them, of which kind its
value has to be; a field without a kind takes any value.  A shape that extends another
has the fields of both, its own declarations counting where both declare a field.

## Main definitions

* `Shape` — the declared fields.
* `Shape.field`, `Shape.untyped`, `Shape.declare` — add one declaration.
* `Shape.ofList` — the shape of a list of declarations.
* `Shape.extending` — a base with the declarations of another shape over it.
-/

namespace Contracts

/-- The fields of an interface. -/
structure Shape where
  /-- Each declared field with its kind, if it has one. -/
  fields : Dict (Option Kind)
  deriving DecidableEq, Repr

namespace Shape

/-- The shape without fields. -/
def empty : Shape := ⟨.empty⟩

instance : Inhabited Shape := ⟨empty⟩

/-- Declare a field, with or without a kind, in place of an earlier declaration. -/
def declare (shape : Shape) (name : String) (kind : Option Kind) : Shape :=
  ⟨shape.fields.insert name kind⟩

/-- Declare a field of a kind. -/
def field (shape : Shape) (name : String) (kind : Kind) : Shape :=
  shape.declare name (some kind)

/-- Declare a field that takes any value. -/
def untyped (shape : Shape) (name : String) : Shape := shape.declare name none

/-- The shape of a list of declarations, the last of each field counting. -/
def ofList (declarations : List (String × Option Kind)) : Shape :=
  ⟨.ofList declarations⟩

/-- The fields of `base`, with the declarations of `derived` over them. -/
def extending (base derived : Shape) : Shape := ⟨base.fields.merge derived.fields⟩

/-- Whether a field is declared. -/
def declares (shape : Shape) (name : String) : Bool := shape.fields.contains name

/-- The kind of a field, unless it has none or is not declared. -/
def kindOf (shape : Shape) (name : String) : Option Kind := (shape.fields.get? name).join

/-- The declared fields, ascending. -/
def names (shape : Shape) : List String := shape.fields.keys

/-- How many fields are declared. -/
def size (shape : Shape) : Nat := shape.fields.size

end Shape

end Contracts
