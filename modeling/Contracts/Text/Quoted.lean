import Contracts.Text.Visible

/-!
# Quoted text

A text shown between double quotes, so that a reader can tell where it ends and
what is in it: the quote and the backslash are escaped, and so is every character
that would not be seen or would join its neighbour.

## Main definitions

* `Text.escape` — how one character is shown.
* `Text.quoted` — a text between quotes.
-/

namespace Contracts.Text

/-- A character as it is shown inside quotes. -/
def escape (c : Char) : List Char :=
  match c with
  | '\x00' => ['\\', '0']
  | '\t' => ['\\', 't']
  | '\r' => ['\\', 'r']
  | '\n' => ['\\', 'n']
  | '"' => ['\\', '"']
  | '\\' => ['\\', '\\']
  | c =>
      if extendsGrapheme c || isInvisible c then
        ['\\', 'u', '\x7b'] ++ Nat.toDigits 16 c.toNat ++ ['\x7d']
      else [c]

/-- A text between double quotes. -/
def quoted (text : String) : String :=
  String.ofList ('"' :: text.toList.flatMap escape ++ ['"'])

end Contracts.Text
