/-!
# Identifiers

The names that definitions can be registered under: an ASCII letter, underscore or
dollar sign, followed by any number of those and of ASCII digits.

## Main definitions

* `Text.IsIdentifier` — the property, which is decidable.
-/

namespace Contracts.Text

/-- A character that an identifier can begin with. -/
def isIdentifierStart (c : Char) : Bool :=
  ('A' ≤ c && c ≤ 'Z') || ('a' ≤ c && c ≤ 'z') || c == '_' || c == '$'

/-- A character that an identifier can go on with. -/
def isIdentifierPart (c : Char) : Bool :=
  isIdentifierStart c || ('0' ≤ c && c ≤ '9')

/-- Whether characters spell an identifier. -/
def spellsIdentifier : List Char → Bool
  | [] => false
  | first :: rest => isIdentifierStart first && rest.all isIdentifierPart

/-- The texts that are identifiers. -/
def IsIdentifier (text : String) : Prop := spellsIdentifier text.toList = true

instance (text : String) : Decidable (IsIdentifier text) :=
  inferInstanceAs (Decidable (spellsIdentifier text.toList = true))

end Contracts.Text
