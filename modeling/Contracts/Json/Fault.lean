import Contracts.Json
import Contracts.Text.Quoted

/-!
# Faults in JSON texts

What can be wrong with a JSON text, and where.  A fault found in the characters
themselves has its place at once.  A fault found in a value that has been read, such
as a missing member, gets its place only when the list or object around the value
is closed, and has none if there is nothing around it.

## Main definitions

* `Json.Reason` — what is wrong; `Json.Reason.faultClass` and `Json.Reason.text`.
* `Json.Place` — where reading stood.
* `Json.Fault` — a reason at a place; `Json.Fault.message`.
-/

namespace Contracts.Json

/-! ### Reasons -/

/-- What a value was found to be where another sort was expected. -/
inductive Found where
  /-- The value `null`. -/
  | null : Found
  /-- A truth value. -/
  | boolean (b : Bool) : Found
  /-- A number. -/
  | number (n : JsonNumber) : Found
  /-- A text. -/
  | string (s : String) : Found
  /-- A list, not read further. -/
  | list : Found
  /-- An object, not read further. -/
  | object : Found

/-- How a found value is described. -/
def Found.text : Found → String
  | .null => "null"
  | .boolean b => "boolean `" ++ toString b ++ "`"
  | .number (.integer i) => "integer `" ++ toString i ++ "`"
  | .number (.float x) => "floating point `" ++ floatStyle.write x ++ "`"
  | .string s => "string " ++ Text.quoted s
  | .list => "sequence"
  | .object => "map"

/-- The brackets that enclose a value. -/
inductive Bracket where
  /-- Square brackets. -/
  | list : Bracket
  /-- Braces. -/
  | object : Bracket
  deriving DecidableEq, Repr

/-- What is wrong with a text. -/
inductive Reason where
  /-- The text ends where a value is due. -/
  | endInValue : Reason
  /-- The text ends inside brackets. -/
  | endIn (bracket : Bracket) : Reason
  /-- The text ends inside a string. -/
  | endInString : Reason
  /-- Something else stands where a value is due. -/
  | expectedValue : Reason
  /-- A word other than `null`, `true` and `false`. -/
  | expectedWord : Reason
  /-- No colon after the key of a member. -/
  | expectedColon : Reason
  /-- Neither a comma nor the closing bracket. -/
  | expectedCommaOr (bracket : Bracket) : Reason
  /-- A comma before the closing bracket. -/
  | trailingComma : Reason
  /-- Something after the end of the value. -/
  | trailingCharacters : Reason
  /-- A key that is not a string. -/
  | keyNotString : Reason
  /-- A control character inside a string. -/
  | controlCharacter : Reason
  /-- A backslash before a character that it does not escape. -/
  | invalidEscape : Reason
  /-- A surrogate without its partner. -/
  | loneSurrogate : Reason
  /-- A high surrogate that no second escape follows. -/
  | brokenSurrogate : Reason
  /-- A number that breaks the grammar. -/
  | invalidNumber : Reason
  /-- A number greater than the greatest finite one. -/
  | numberOutOfRange : Reason
  /-- Brackets nested too deeply. -/
  | nestingTooDeep : Reason
  /-- A value of the wrong sort. -/
  | wrongSort (found : Found) (expected : String) : Reason
  /-- A list with too few items. -/
  | wrongLength (length : Nat) (expected : String) : Reason
  /-- A member that the format does not have. -/
  | unknownMember (key : String) (known : List String) : Reason
  /-- A member that was given twice. -/
  | repeatedMember (key : String) : Reason
  /-- A member that the format requires. -/
  | missingMember (key : String) : Reason
  /-- A word that names none of the choices. -/
  | unknownChoice (word : String) (known : List String) : Reason
  /-- A value that fits none of the forms of a format. -/
  | noForm (format : String) : Reason

/-- How a text fails. -/
inductive FaultClass where
  /-- The text ends too early. -/
  | ending : FaultClass
  /-- The text is no JSON. -/
  | grammar : FaultClass
  /-- The text is JSON but not of the expected format. -/
  | content : FaultClass
  deriving DecidableEq, Repr

/-- How a text fails for a reason. -/
def Reason.faultClass : Reason → FaultClass
  | .endInValue | .endIn _ | .endInString => .ending
  | .wrongSort .. | .wrongLength .. | .unknownMember .. | .repeatedMember ..
  | .missingMember .. | .unknownChoice .. | .noForm .. => .content
  | _ => .grammar

/-- The list of the words that would have been right. -/
def alternatives : List String → String
  | [] => "nothing"
  | [a] => "`" ++ a ++ "`"
  | [a, b] => "`" ++ a ++ "` or `" ++ b ++ "`"
  | words => "one of " ++ ", ".intercalate (words.map fun word => "`" ++ word ++ "`")

/-- The wording of a reason. -/
def Reason.text : Reason → String
  | .endInValue => "EOF while parsing a value"
  | .endIn .list => "EOF while parsing a list"
  | .endIn .object => "EOF while parsing an object"
  | .endInString => "EOF while parsing a string"
  | .expectedValue => "expected value"
  | .expectedWord => "expected ident"
  | .expectedColon => "expected `:`"
  | .expectedCommaOr .list => "expected `,` or `]`"
  | .expectedCommaOr .object => "expected `,` or `\x7d`"
  | .trailingComma => "trailing comma"
  | .trailingCharacters => "trailing characters"
  | .keyNotString => "key must be a string"
  | .controlCharacter => "control character (\\u0000-\\u001F) found while parsing a string"
  | .invalidEscape => "invalid escape"
  | .loneSurrogate => "lone leading surrogate in hex escape"
  | .brokenSurrogate => "unexpected end of hex escape"
  | .invalidNumber => "invalid number"
  | .numberOutOfRange => "number out of range"
  | .nestingTooDeep => "recursion limit exceeded"
  | .wrongSort found expected => "invalid type: " ++ found.text ++ ", expected " ++ expected
  | .wrongLength length expected =>
      "invalid length " ++ toString length ++ ", expected " ++ expected
  | .unknownMember key known =>
      "unknown field `" ++ key ++ "`, expected " ++ alternatives known
  | .repeatedMember key => "duplicate field `" ++ key ++ "`"
  | .missingMember key => "missing field `" ++ key ++ "`"
  | .unknownChoice word known =>
      "unknown variant `" ++ word ++ "`, expected " ++ alternatives known
  | .noForm format => "data did not match any variant of untagged enum " ++ format

/-! ### Places -/

/-- The bytes that characters take in UTF-8. -/
def byteCount (characters : List Char) : Nat :=
  characters.foldr (fun c count => c.utf8Size + count) 0

/-- Where reading stood when a fault was found. -/
inductive Place where
  /-- Before the last `unread` bytes of the text. -/
  | settled (unread : Nat) : Place
  /-- Not settled yet: reading goes on at `rest` until the brackets around it close. -/
  | unsettled (rest : List Char) : Place

/-- What is wrong with a text, and where. -/
structure Fault where
  /-- What is wrong. -/
  reason : Reason
  /-- Where. -/
  place : Place

/-- A fault before the characters that are left. -/
def Fault.before (reason : Reason) (rest : List Char) : Fault :=
  ⟨reason, .settled (byteCount rest)⟩

/-- A fault just after the first byte of the characters that are left. -/
def Fault.onto (reason : Reason) (rest : List Char) : Fault :=
  ⟨reason, .settled (byteCount rest - 1)⟩

/-- A fault whose place is found when the brackets around it close. -/
def Fault.pending (reason : Reason) (rest : List Char) : Fault :=
  ⟨reason, .unsettled rest⟩

/-- A line, counted from one, and the bytes before the place on it. -/
structure Position where
  /-- One more than the line breaks before the place. -/
  line : Nat
  /-- The bytes since the last line break. -/
  column : Nat
  deriving DecidableEq, Repr

/-- The position reached from another after a number of bytes. -/
def Position.advance (position : Position) : List Char → Nat → Position
  | [], _ => position
  | c :: rest, bytes =>
      if bytes = 0 then position
      else if bytes < c.utf8Size then { position with column := position.column + bytes }
      else if c = '\n' then
        Position.advance ⟨position.line + 1, 0⟩ rest (bytes - c.utf8Size)
      else
        Position.advance { position with column := position.column + c.utf8Size } rest
          (bytes - c.utf8Size)

/-- The position of a settled place in a text. -/
def Place.position? (text : List Char) : Place → Option Position
  | .settled unread => some (Position.advance ⟨1, 0⟩ text (byteCount text - unread))
  | .unsettled _ => none

/-- The wording of a fault in a text, with its position if it has one. -/
def Fault.message (text : String) (fault : Fault) : String :=
  fault.reason.text ++
    match fault.place.position? text.toList with
    | none => ""
    | some position =>
        " at line " ++ toString position.line ++ " column " ++ toString position.column

end Contracts.Json
