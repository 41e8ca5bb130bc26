import Contracts.Json.Scanner
import Contracts.Dict

/-!
# Reading JSON texts

Readers for lists and objects of anything, for JSON values, and for whole texts.  The
readers of formats, which accept only some values, are put together from the same
parts, so that every text is read once, from front to back, and of two faults in it
the first is found.

## Main definitions

* `Json.readItems`, `Json.readMembers` — the rest of a list or an object after its
  opening bracket, over a reader of what is in it.
* `Json.dispatch` — choose between scalars, lists and objects.
* `Json.bracketed` — step inside a bracket, if the nesting allows it.
* `Json.readJson` — a JSON value.
* `Json.readWhole` — a text that holds one value and nothing else.
* `Json.parse` — the JSON value that a text is.
-/

namespace Contracts.Json

variable {α β σ : Type}

/-! ### Closing brackets around a fault -/

/-- The characters after the bracket that closes a list, as far as they are looked at
behind a fault. -/
def closeList (rest : List Char) : List Char :=
  match skipBlank rest with
  | ']' :: after => after
  | ',' :: after => skipBlank after
  | rest => rest

/-- The characters after the brace that closes an object, as far as they are looked at
behind a fault. -/
def closeObject (rest : List Char) : List Char :=
  match skipBlank rest with
  | '\x7d' :: after => after
  | rest => rest

/-- A fault from inside brackets: if its place is not settled yet, it is where the
brackets close. -/
def Fault.closedBy (close : List Char → List Char) (fault : Fault) : Fault :=
  match fault.place with
  | .settled _ => fault
  | .unsettled rest => .before fault.reason (close rest)

/-! ### Turns

Before each item of a list, and before each key of an object, comes a turn: either the
brackets close, or there is something to read. -/

/-- What comes next inside brackets. -/
inductive Turn (input : List Char) where
  /-- The brackets close. -/
  | closed (rest : List Char) (shorter : rest.length < input.length) : Turn input
  /-- There is an item, or a key after its opening quote. -/
  | more (rest : List Char) (notLonger : rest.length ≤ input.length) : Turn input

/-- The turn before an item; after the first one a comma is due. -/
def listTurn (first : Bool) (input : List Char) : Except Fault (Turn input) :=
  match h : skipBlank input with
  | [] => .error (.before (.endIn .list) [])
  | c :: rest =>
      have shorter := length_lt_of_skipBlank h
      if c = ']' then .ok (.closed rest shorter)
      else if first then .ok (.more (c :: rest) shorter)
      else if c = ',' then
        match h' : skipBlank rest with
        | [] => .error (.before .endInValue [])
        | d :: after =>
            if d = ']' then .error (.onto .trailingComma (d :: after))
            else
              .ok (.more (d :: after)
                (Nat.le_of_lt (Nat.lt_of_le_of_lt (length_le_of_skipBlank h') shorter)))
      else .error (.onto (.expectedCommaOr .list) (c :: rest))

/-- The turn before a key; after the first one a comma is due. -/
def objectTurn (first : Bool) (input : List Char) : Except Fault (Turn input) :=
  match h : skipBlank input with
  | [] => .error (.before (.endIn .object) [])
  | c :: rest =>
      have shorter := length_lt_of_skipBlank h
      if c = '\x7d' then .ok (.closed rest shorter)
      else if first then
        if c = '"' then .ok (.more rest (Nat.le_of_lt shorter))
        else .error (.onto .keyNotString (c :: rest))
      else if c = ',' then
        match h' : skipBlank rest with
        | [] => .error (.before .endInValue [])
        | d :: after =>
            if d = '"' then
              have behind := Nat.lt_trans (length_lt_of_skipBlank h') shorter
              .ok (.more after (Nat.le_of_lt behind))
            else if d = '\x7d' then .error (.onto .trailingComma (d :: after))
            else .error (.onto .keyNotString (d :: after))
      else .error (.onto (.expectedCommaOr .object) (c :: rest))

/-- Read the colon between a key and its value. -/
def readColon : Reader Unit := fun input =>
  match h : skipBlank input with
  | [] => .error (.before (.endIn .object) [])
  | c :: rest =>
      if c = ':' then
        .ok ⟨(), rest, length_lt_of_skipBlank h⟩
      else .error (.onto .expectedColon (c :: rest))

/-! ### Lists and objects -/

/-- Read the items of a list up to its closing bracket. -/
def readItems (item : Reader α) (first : Bool) (input : List Char) :
    Except Fault (Read (List α) input) :=
  match listTurn first input with
  | .error fault => .error fault
  | .ok (.closed rest h) => .ok ⟨[], rest, h⟩
  | .ok (.more rest h) =>
      match item rest with
      | .error fault => .error (fault.closedBy closeList)
      | .ok ⟨value, after, h'⟩ =>
          have shorter := Nat.lt_of_lt_of_le h' h
          match readItems item false after with
          | .error fault => .error fault
          | .ok more => .ok ((more.map (value :: ·)).widen (Nat.le_of_lt shorter))
termination_by input.length
decreasing_by omega

/-- Read the members of an object up to its closing brace, from a state that each
member changes.  `member` looks at a key and either refuses it or gives the reader of
its value. -/
def readMembers (member : σ → String → Except Reason (Reader σ)) (first : Bool) (state : σ)
    (input : List Char) : Except Fault (Read σ input) :=
  match objectTurn first input with
  | .error fault => .error fault
  | .ok (.closed rest h) => .ok ⟨state, rest, h⟩
  | .ok (.more rest h) =>
      match readString rest with
      | .error fault => .error fault
      | .ok ⟨key, afterKey, h₁⟩ =>
          match member state key with
          | .error reason => .error ((Fault.pending reason afterKey).closedBy closeObject)
          | .ok value =>
              match readColon afterKey with
              | .error fault => .error fault
              | .ok ⟨(), afterColon, h₂⟩ =>
                  match value afterColon with
                  | .error fault => .error (fault.closedBy closeObject)
                  | .ok ⟨next, after, h₃⟩ =>
                      match readMembers member false next after with
                      | .error fault => .error fault
                      | .ok read => .ok (read.widen (by omega))
termination_by input.length
decreasing_by omega

/-- Read the members of an object, all with one reader; of two with one key the later
counts. -/
def readDict (value : Reader β) : Reader (Dict β) :=
  readMembers (fun dict key => .ok (Reader.map (dict.insert key) value)) true .empty

/-! ### Values -/

/-- Choose a reader by the first character that is not blank.  Lists and objects are
handed over with their bracket. -/
def dispatch (scalar : Scalar → Except Reason α) (list object : Reader α) : Reader α :=
  fun input =>
    have h := length_skipBlank_le input
    match skipBlank input, h with
    | '[' :: rest, h => (list ('[' :: rest)).map (·.widen h)
    | '\x7b' :: rest, h => (object ('\x7b' :: rest)).map (·.widen h)
    | rest, h =>
        match readScalar rest with
        | .error fault => .error fault
        | .ok ⟨found, after, h'⟩ =>
            match scalar found with
            | .error reason => .error (.before reason after)
            | .ok value => .ok ⟨value, after, Nat.lt_of_lt_of_le h' h⟩

/-- Refuse a list or an object, without reading it, where another sort is expected. -/
def refuse (found : Found) (expected : String) : Reader α :=
  fun input => .error (.before (.wrongSort found expected) input)

/-- Refuse a scalar where another sort is expected. -/
def refuseScalar (expected : String) (found : Scalar) : Except Reason α :=
  .error (.wrongSort found.found expected)

/-- How deeply brackets may be nested. -/
abbrev nestingLimit : Nat := 127

/-- Refuse a bracket that is nested too deeply. -/
def tooDeep : Reader α := fun input => .error (.onto .nestingTooDeep input)

/-- Step over a bracket and read what is inside. -/
def stepInside (inside : Reader α) : Reader α := fun input =>
  match input with
  | [] => .error (.before .endInValue [])
  | c :: rest => (inside rest).map (·.widen (length_le_cons c rest))

/-- Read inside a bracket with what is left of the allowed nesting. -/
def bracketed (depth : Nat) (inside : Nat → Reader α) : Reader α :=
  match depth with
  | 0 => tooDeep
  | depth + 1 => stepInside (inside depth)

/-- Read a text where another sort is a fault. -/
def readText (expected : String) : Reader String :=
  dispatch
    (fun
      | .string s => .ok s
      | found => refuseScalar expected found)
    (refuse .list expected) (refuse .object expected)

/-- Read a JSON value with brackets nested up to a depth. -/
def readJson : (depth : Nat) → Reader Json
  | 0 => dispatch (fun scalar => .ok scalar.toJson) tooDeep tooDeep
  | depth + 1 =>
      dispatch (fun scalar => .ok scalar.toJson)
        (stepInside (Reader.map Json.array (readItems (readJson depth) true)))
        (stepInside
          (Reader.map (fun dict => Json.object dict.entries) (readDict (readJson depth))))

/-! ### Whole texts -/

/-- Read a text that holds one value and, blanks apart, nothing else. -/
def readWhole (reader : Reader α) (text : String) : Except Fault α :=
  match reader text.toList with
  | .error fault => .error fault
  | .ok read =>
      match skipBlank read.rest with
      | [] => .ok read.value
      | rest => .error (.onto .trailingCharacters rest)

/-- The JSON value that a text is. -/
def parse (text : String) : Except Fault Json := readWhole (readJson nestingLimit) text

end Contracts.Json
