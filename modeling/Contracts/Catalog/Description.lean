import Contracts.Catalog
import Contracts.Text.Blank

/-!
# Descriptions

A catalog in words: the interfaces with their fields, then the types, all by ascending
name, on a line each.  Blanks at the end are dropped.

## Main definitions

* `Shape.lines` — the lines of the fields of an interface.
* `Catalog.lines`, `Catalog.describe` — a catalog as lines and as a text.
-/

namespace Contracts

/-- The lines of the fields of an interface. -/
def Shape.lines (shape : Shape) : List String :=
  shape.fields.entries.map fun field =>
    "  " ++ field.1 ++ ": " ++ match field.2 with
      | some kind => kind.display
      | none => "any"

namespace Catalog

/-- The lines of a catalog. -/
def lines (catalog : Catalog) : List String :=
  (catalog.interfaces.entries.entries.flatMap fun entry =>
      ("interface " ++ entry.1) :: entry.2.lines) ++
    catalog.types.entries.entries.map fun entry =>
      "type " ++ entry.1 ++ " = " ++ entry.2.display

/-- A catalog in words. -/
def describe (catalog : Catalog) : String := Text.trimEnd ("\n".intercalate catalog.lines)

end Catalog

end Contracts
