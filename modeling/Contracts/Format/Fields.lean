import Contracts.Json.Reader

/-!
# Formats with named fields

A format with fixed fields can be written as an object that names them, or as a list
that gives them in order.  At the end of the list fields may be left out.

## Main definitions

* `Json.readField` — the next field of a list, or the end of the list.
* `Json.endFields` — the end of a list whose fields have all been read.
* `Json.readFields` — either of the two forms.
-/

namespace Contracts.Json

variable {α β : Type}

/-- Read the next field of a list.  `absent` is what the value is if the list ends
here, `present` reads on after the field. -/
def readField (first : Bool) (field : Reader α) (absent : Except Reason β)
    (present : α → Reader β) : Reader β := fun input =>
  match listTurn first input with
  | .error fault => .error fault
  | .ok (.closed rest h) =>
      match absent with
      | .ok value => .ok ⟨value, rest, h⟩
      | .error reason => .error (.before reason rest)
  | .ok (.more rest h) =>
      match field rest with
      | .error fault => .error (fault.closedBy closeList)
      | .ok ⟨value, after, h'⟩ =>
          (present value after).map (·.widen (Nat.le_of_lt (Nat.lt_of_lt_of_le h' h)))

/-- Read the closing bracket of a list in which no further field is due. -/
def endFields (value : β) : Reader β := fun input =>
  match h : skipBlank input with
  | [] => .error (.before (.endIn .list) [])
  | c :: rest =>
      if c = ']' then
        .ok ⟨value, rest, length_lt_of_skipBlank h⟩
      else if c = ',' then
        match skipBlank rest with
        | ']' :: after => .error (.onto .trailingComma (']' :: after))
        | after => .error (.onto .trailingCharacters after)
      else .error (.onto .trailingCharacters (c :: rest))

/-- Read a format with fields in either form, given the readers of both behind their
brackets. -/
def readFields (expected : String) (depth : Nat) (list object : Nat → Reader β) : Reader β :=
  dispatch (refuseScalar expected) (bracketed depth list) (bracketed depth object)

/-- Require what the members of an object have to bring. -/
def requiring (check : α → Except Reason β) (reader : Reader α) : Reader β := fun input =>
  match reader input with
  | .error fault => .error fault
  | .ok ⟨value, rest, h⟩ =>
      match check value with
      | .ok value => .ok ⟨value, rest, h⟩
      | .error reason => .error (.before reason rest)

/-- Read a member that may be given once. -/
def once (key : String) (given : Option α) (value : Reader β) : Except Reason (Reader β) :=
  match given with
  | some _ => .error (.repeatedMember key)
  | none => .ok value

end Contracts.Json
