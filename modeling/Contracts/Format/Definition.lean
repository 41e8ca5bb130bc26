import Contracts.Definition.Shape
import Contracts.Format.Fields

/-!
# Kinds and shapes as JSON

A kind is written as its tag, or as the list of its tags.  A shape is written as an
object with a member for each field: its kind, or null if it has none.

## Main definitions

* `Kind.toJson`, `Kind.ofJson?` — kinds as JSON values.
* `Shape.toJson` — shapes as JSON values.
* `Format.readKind`, `Format.readShape` — their readers.
* `Kind.parse`, `Shape.parse` — kinds and shapes from their texts.
-/

namespace Contracts

open Json

/-! ### Written definitions -/

/-- The JSON value of a kind. -/
def Kind.toJson : Kind → Json
  | .single tag => .string tag.text
  | .anyOf tags => .array (tags.map fun tag => .string tag.text)

/-- The tag that a JSON value spells. -/
def Tag.ofJson? : Json → Option Tag
  | .string spelling => some (.of spelling)
  | _ => none

/-- The kind that a JSON value stands for. -/
def Kind.ofJson? : Json → Option Kind
  | .string spelling => some (.single (.of spelling))
  | .array items => (items.mapM Tag.ofJson?).map .anyOf
  | _ => none

/-- The JSON value of the kind of a field. -/
def Kind.fieldToJson : Option Kind → Json
  | some kind => kind.toJson
  | none => .null

/-- The kind of a field that a JSON value stands for. -/
def Kind.fieldOfJson? : Json → Option (Option Kind)
  | .null => some none
  | json => (Kind.ofJson? json).map some

/-- The JSON value of a shape. -/
def Shape.toJson (shape : Shape) : Json :=
  .object (shape.fields.entries.map fun entry => (entry.1, Kind.fieldToJson entry.2))

/-! ### Readers -/

namespace Format

/-- Read a JSON value in full, and then take it as a definition. -/
def readAs {α : Type} (decode : Json → Option α) (depth : Nat) : Reader α := fun input =>
  match readJson depth input with
  | .error fault => .error fault
  | .ok ⟨json, rest, h⟩ =>
      match decode json with
      | some value => .ok ⟨value, rest, h⟩
      | none => .error (.pending (.noForm "KindDef") rest)

/-- Read a kind. -/
def readKind (depth : Nat) : Reader Kind := readAs Kind.ofJson? depth

/-- Read the kind of a field. -/
def readFieldKind (depth : Nat) : Reader (Option Kind) := readAs Kind.fieldOfJson? depth

/-- Read an object of anything. -/
def readMap {β : Type} (value : Nat → Reader β) (depth : Nat) : Reader (Dict β) :=
  dispatch (refuseScalar "a map") (refuse .list "a map")
    (bracketed depth fun depth => readDict (value depth))

/-- Read a shape. -/
def readShape (depth : Nat) : Reader Shape := Reader.map Shape.mk (readMap readFieldKind depth)

end Format

/-- The kind that a text stands for. -/
def Kind.parse (text : String) : Except Fault Kind :=
  readWhole (Format.readKind nestingLimit) text

/-- The shape that a text stands for. -/
def Shape.parse (text : String) : Except Fault Shape :=
  readWhole (Format.readShape nestingLimit) text

end Contracts
