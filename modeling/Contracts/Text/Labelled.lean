/-!
# Labelled parts

What consists of parts can be shown by its name and the parts in braces, each after its
label.

## Main definitions

* `Text.labelled` — a name with its labelled parts.
-/

namespace Contracts.Text

/-- A name with its labelled parts in braces. -/
def labelled (name : String) (parts : List (String × String)) : String :=
  name ++ " \x7b " ++ ", ".intercalate (parts.map fun part => part.1 ++ ": " ++ part.2) ++
    " \x7d"

end Contracts.Text
