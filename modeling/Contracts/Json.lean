import Contracts.Number.Style

/-!
# JSON values

The values that JSON texts stand for.  Integers of up to 64 bits are kept apart from
other numbers, since they are printed without a fraction.  An object lists its members
in the order in which they are printed; one that was read lists them by ascending key,
each key once.

## Main definitions

* `Json` — the values.
* `Json.printChars` — the characters of the compact text of a value.
* `Json.print` — that text, put together from behind.
* `Json.floatStyle` — how numbers that are not integers are written.
-/

namespace Contracts

/-- A number in a JSON text. -/
inductive JsonNumber where
  /-- An integer of 64 bits, written without fraction and exponent. -/
  | integer (i : Int) : JsonNumber
  /-- Any other number. -/
  | float (x : Number) : JsonNumber

/-- A JSON value. -/
inductive Json where
  /-- The value `null`. -/
  | null : Json
  /-- A truth value. -/
  | boolean (b : Bool) : Json
  /-- A number. -/
  | number (n : JsonNumber) : Json
  /-- A text. -/
  | string (s : String) : Json
  /-- A list. -/
  | array (items : List Json) : Json
  /-- An object: its members in the order of the text. -/
  | object (members : List (String × Json)) : Json

instance : Inhabited Json := ⟨.null⟩

namespace Json

/-! ### Printed values -/

/-- Numbers keep a fraction, and an exponent is used below `10 ^ -5` and from
`10 ^ 16`.  Infinities and not-a-number have no JSON form. -/
def floatStyle : NumberStyle where
  plainFrom := some (-5)
  exponentFrom := some 16
  keepsFraction := true
  signsExponent := true
  tie := .toEven
  nan := "null"
  infinity := "null"

/-- A character as it stands in a JSON string. -/
def escape (c : Char) : List Char :=
  match c with
  | '"' => ['\\', '"']
  | '\\' => ['\\', '\\']
  | '\x08' => ['\\', 'b']
  | '\x0c' => ['\\', 'f']
  | '\n' => ['\\', 'n']
  | '\r' => ['\\', 'r']
  | '\t' => ['\\', 't']
  | c =>
      if c.toNat < 0x20 then
        ['\\', 'u', '0', '0', Nat.digitChar (c.toNat / 16), Nat.digitChar (c.toNat % 16)]
      else [c]

/-- A text as a JSON string. -/
def printString (s : String) : List Char := '"' :: s.toList.flatMap escape ++ ['"']

/-- The text of a number. -/
def printNumber : JsonNumber → List Char
  | .integer i => (toString i).toList
  | .float x => (floatStyle.write x).toList

/-- Texts joined by commas. -/
def commaSeparated : List (List Char) → List Char
  | [] => []
  | [text] => text
  | text :: rest => text ++ ',' :: commaSeparated rest

mutual

/-- The compact text of a value, as characters. -/
def printChars : Json → List Char
  | .null => ['n', 'u', 'l', 'l']
  | .boolean true => ['t', 'r', 'u', 'e']
  | .boolean false => ['f', 'a', 'l', 's', 'e']
  | .number n => printNumber n
  | .string s => printString s
  | .array items => '[' :: commaSeparated (printItems items) ++ [']']
  | .object members => '\x7b' :: commaSeparated (printMembers members) ++ ['\x7d']

/-- The texts of the items of a list. -/
def printItems : List Json → List (List Char)
  | [] => []
  | item :: rest => printChars item :: printItems rest

/-- The texts of the members of an object. -/
def printMembers : List (String × Json) → List (List Char)
  | [] => []
  | (key, value) :: rest => (printString key ++ ':' :: printChars value) :: printMembers rest

end

mutual

/-- The compact text of a value, followed by other characters. -/
def printOnto (follow : List Char) : Json → List Char
  | .array items => '[' :: printItemsOnto (']' :: follow) items
  | .object members => '\x7b' :: printMembersOnto ('\x7d' :: follow) members
  | .null => printChars .null ++ follow
  | .boolean b => printChars (.boolean b) ++ follow
  | .number n => printChars (.number n) ++ follow
  | .string s => printChars (.string s) ++ follow

/-- The items of a list with commas between them, followed by other characters. -/
def printItemsOnto (follow : List Char) : List Json → List Char
  | [] => follow
  | [item] => printOnto follow item
  | item :: rest => printOnto (',' :: printItemsOnto follow rest) item

/-- The members of an object with commas between them, followed by other characters. -/
def printMembersOnto (follow : List Char) : List (String × Json) → List Char
  | [] => follow
  | [(key, value)] => printString key ++ ':' :: printOnto follow value
  | (key, value) :: rest =>
      printString key ++ ':' :: printOnto (',' :: printMembersOnto follow rest) value

end

mutual

/-- Nothing of a value depends on what follows it. -/
theorem printOnto_eq_append (follow : List Char) (json : Json) :
    json.printOnto follow = json.printChars ++ follow := by
  match json with
  | .array items =>
    rw [printOnto, printItemsOnto_eq_append, printChars]
    simp only [List.cons_append, List.append_assoc, List.nil_append]
  | .object members =>
    rw [printOnto, printMembersOnto_eq_append, printChars]
    simp only [List.cons_append, List.append_assoc, List.nil_append]
  | .null | .boolean _ | .number _ | .string _ => rw [printOnto]

/-- Nothing of the items of a list depends on what follows them. -/
theorem printItemsOnto_eq_append (follow : List Char) (items : List Json) :
    printItemsOnto follow items = commaSeparated (printItems items) ++ follow := by
  match items with
  | [] => rfl
  | [item] => rw [printItemsOnto, printOnto_eq_append]; rfl
  | item :: next :: rest =>
    rw [printItemsOnto, printOnto_eq_append, printItemsOnto_eq_append]
    · simp only [printItems, commaSeparated, List.append_assoc, List.cons_append]
    · simp

/-- Nothing of the members of an object depends on what follows them. -/
theorem printMembersOnto_eq_append (follow : List Char) (members : List (String × Json)) :
    printMembersOnto follow members = commaSeparated (printMembers members) ++ follow := by
  match members with
  | [] => rfl
  | [(key, value)] =>
    rw [printMembersOnto, printOnto_eq_append]
    simp only [printMembers, commaSeparated, List.append_assoc, List.cons_append]
  | (key, value) :: next :: rest =>
    rw [printMembersOnto, printOnto_eq_append, printMembersOnto_eq_append]
    · simp only [printMembers, commaSeparated, List.append_assoc, List.cons_append]
    · simp

end

/-- The compact text of a value. -/
def print (json : Json) : String := String.ofList (json.printOnto [])

/-- The text is the characters of the value and nothing else. -/
theorem print_eq (json : Json) : json.print = String.ofList json.printChars := by
  rw [print, printOnto_eq_append, List.append_nil]

end Json

end Contracts
