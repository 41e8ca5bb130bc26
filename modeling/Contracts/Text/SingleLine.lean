/-!
# Text on a single line

Text from outside is put on one line and cut to a limit before it is logged.

## Main definitions

* `Text.flatten` — every line break replaced by a space.
* `Text.singleLine` — the flattened text, cut after a number of characters with a
  mark that it was cut.
-/

namespace Contracts.Text

/-- A space in place of each line break character. -/
def flatten (characters : List Char) : List Char :=
  characters.map fun c => if c = '\n' ∨ c = '\r' then ' ' else c

/-- The mark of a text that was cut. -/
def cutMark : List Char := ['.', '.', '.']

/-- The text on one line: its first `limit` characters, followed by the mark if
there were more. -/
def singleLine (text : String) (limit : Nat) : String :=
  let flat := flatten text.toList
  String.ofList (flat.take limit ++ if limit < flat.length then cutMark else [])

end Contracts.Text
