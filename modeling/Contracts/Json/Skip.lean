import Contracts.Json.Reader

/-!
# Skipping JSON values

A value that a format does not ask for is passed over without being kept.  Skipping
checks less than reading does: brackets may be nested to any depth, numbers may be of
any size, and surrogates need no partner.

The brackets that are open are kept on a stack; every step passes over at least one
character.

## Main definitions

* `Json.skipValue` — pass over a value.
-/

namespace Contracts.Json

/-! ### Strings and numbers -/

/-- Pass over an escape after its backslash; what it stands for does not matter. -/
def skipEscape : Reader Char := fun input =>
  match input with
  | [] => .error (.before .endInString [])
  | c :: rest =>
      if c = 'u' then
        match readHexQuad rest with
        | .error fault => .error fault
        | .ok ⟨_, after, h⟩ => .ok ⟨c, after, length_lt_cons_of_lt c h⟩
      else if (unescape? c).isSome then .ok ⟨c, rest, length_lt_cons c rest⟩
      else .error (.onto .invalidEscape (c :: rest))

/-- Pass over a string after its opening quote. -/
def skipString : Reader Unit :=
  Reader.map (fun _ => ()) (readCharacters skipEscape (.before .controlCharacter))

/-- Pass over the digits that have to follow. -/
def skipDigits (input : List Char) : Except Fault (Read Unit input) :=
  match input with
  | [] => .error (.before .invalidNumber [])
  | c :: rest =>
      if c.isDigit then
        .ok ⟨(), rest.dropWhile Char.isDigit, length_dropWhile_lt_cons Char.isDigit c rest⟩
      else .error (.onto .invalidNumber (c :: rest))

/-- Pass over the exponent of a number, if there is one. -/
def skipExponent (whole rest : List Char) (h : rest.length < whole.length) :
    Except Fault (Read Unit whole) :=
  match rest, h with
  | [], h => .ok ⟨(), [], h⟩
  | c :: after, h =>
      if c = 'e' ∨ c = 'E' then
        have h' := length_exponentSign_le after
        (skipDigits (exponentSign after).2).map
          (·.widen (Nat.le_trans h' (Nat.le_of_lt (Nat.lt_of_succ_lt h))))
      else .ok ⟨(), c :: after, h⟩

/-- Pass over the fraction and the exponent of a number, if there are any. -/
def skipFraction (whole rest : List Char) (h : rest.length < whole.length) :
    Except Fault (Read Unit whole) :=
  match rest, h with
  | '.' :: after, h =>
      match skipDigits after with
      | .error _ => .error (.onto .invalidNumber after)
      | .ok ⟨(), behind, h'⟩ =>
          skipExponent whole behind (Nat.lt_trans h' (Nat.lt_of_succ_lt h))
  | rest, h => skipExponent whole rest h

/-- Pass over a number without its sign. -/
def skipUnsigned (input : List Char) : Except Fault (Read Unit input) :=
  match input with
  | [] => .error (.before .invalidNumber [])
  | c :: rest =>
      if c = '0' then
        if rest.head?.any Char.isDigit then .error (.onto .invalidNumber rest)
        else skipFraction _ rest (length_lt_cons c rest)
      else if c.isDigit then
        skipFraction _ (rest.dropWhile Char.isDigit)
          (length_dropWhile_lt_cons Char.isDigit c rest)
      else .error (.onto .invalidNumber (c :: rest))

/-- Pass over a value without brackets. -/
def skipScalar (input : List Char) : Except Fault (Read Unit input) :=
  match input with
  | [] => .error (.before .endInValue [])
  | c :: rest =>
      if c = '"' then (skipString rest).map (·.widen (length_le_cons c rest))
      else if c = '-' then (skipUnsigned rest).map (·.widen (length_le_cons c rest))
      else if c.isDigit then skipUnsigned (c :: rest)
      else (readScalar (c :: rest)).map (Read.map fun _ => ())

/-! ### Brackets -/

/-- The character that closes a bracket. -/
def Bracket.closing : Bracket → Char
  | .list => ']'
  | .object => '\x7d'

/-- Pass over a key and its colon, where an object is open. -/
def skipKey (input : List Char) : Except Fault (Read Unit input) :=
  match h : skipBlank input with
  | [] => .error (.before (.endIn .object) [])
  | c :: rest =>
      have shorter := length_lt_of_skipBlank h
      if c = '"' then
        match skipString rest with
        | .error fault => .error fault
        | .ok ⟨(), after, h'⟩ =>
            (readColon after).map (·.widen (Nat.le_of_lt (Nat.lt_trans h' shorter)))
      else .error (.onto .keyNotString (c :: rest))

/-- The open brackets and the characters left, when the next value is due or, with no
bracket open, when all is passed over. -/
structure Due (input : List Char) where
  /-- The open brackets, the innermost first. -/
  stack : List Bracket
  /-- The characters left. -/
  rest : List Char
  /-- Nothing was added. -/
  notLonger : rest.length ≤ input.length

/-- The same state, seen from longer characters. -/
def Due.widen {input whole : List Char} (due : Due input) (h : input.length < whole.length) :
    Due whole :=
  ⟨due.stack, due.rest, Nat.le_of_lt (Nat.lt_of_le_of_lt due.notLonger h)⟩

/-- Go on to the next value inside a bracket: in an object its key comes first. -/
def dueInside (bracket : Bracket) (stack : List Bracket) (input : List Char) :
    Except Fault (Due input) :=
  match bracket with
  | .list => .ok ⟨.list :: stack, input, Nat.le_refl _⟩
  | .object => (skipKey input).map fun read =>
      ⟨.object :: stack, read.rest, Nat.le_of_lt read.shorter⟩

/-- Behind a value: close brackets until a comma announces the next value or no
bracket is open. -/
def dueAfter : (stack : List Bracket) → (input : List Char) → Except Fault (Due input)
  | [], input => .ok ⟨[], input, Nat.le_refl _⟩
  | bracket :: stack, input =>
      match h : skipBlank input with
      | [] => .error (.before (.endIn bracket) [])
      | c :: rest =>
          have shorter := length_lt_of_skipBlank h
          if c = ',' then (dueInside bracket stack rest).map (·.widen shorter)
          else if c = bracket.closing then (dueAfter stack rest).map (·.widen shorter)
          else .error (.onto (.expectedCommaOr bracket) (c :: rest))

/-- Behind an opening bracket: close it at once or go on to the first value in it. -/
def dueOpened (bracket : Bracket) (stack : List Bracket) (input : List Char) :
    Except Fault (Due input) :=
  match h : skipBlank input with
  | [] => .error (.before (.endIn bracket) [])
  | c :: rest =>
      if c = bracket.closing then
        have shorter := length_lt_of_skipBlank h
        (dueAfter stack rest).map (·.widen shorter)
      else dueInside bracket stack input

/-! ### Values -/

/-- Pass over one scalar or opening bracket, and what then leads to the next value. -/
def skipStep (stack : List Bracket) (input : List Char) :
    Except Fault { due : List Bracket × List Char // due.2.length < input.length } :=
  match h : skipBlank input with
  | [] => .error (.before .endInValue [])
  | c :: rest =>
      have whole := length_cons_le_of_skipBlank h
      if c = '[' then (dueOpened .list stack rest).map fun due =>
        ⟨(due.stack, due.rest), Nat.lt_of_le_of_lt due.notLonger whole⟩
      else if c = '\x7b' then (dueOpened .object stack rest).map fun due =>
        ⟨(due.stack, due.rest), Nat.lt_of_le_of_lt due.notLonger whole⟩
      else
        match skipScalar (c :: rest) with
        | .error fault => .error fault
        | .ok ⟨(), after, shorter⟩ => (dueAfter stack after).map fun due =>
            ⟨(due.stack, due.rest),
              Nat.lt_of_le_of_lt due.notLonger (Nat.lt_of_lt_of_le shorter whole)⟩

/-- Pass over values until no bracket is open. -/
def skipFrom (stack : List Bracket) (input : List Char) : Except Fault (Read Unit input) :=
  match skipStep stack input with
  | .error fault => .error fault
  | .ok ⟨([], rest), h⟩ => .ok ⟨(), rest, h⟩
  | .ok ⟨(bracket :: stack, rest), h⟩ =>
      match skipFrom (bracket :: stack) rest with
      | .error fault => .error fault
      | .ok read => .ok (read.widen (Nat.le_of_lt h))
termination_by input.length

/-- Pass over a value. -/
def skipValue : Reader Unit := skipFrom []

end Contracts.Json
