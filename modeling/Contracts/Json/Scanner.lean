import Contracts.Json.Fault

/-!
# Scanning JSON texts

Readers for the smallest parts of a JSON text: blanks, words, strings and numbers.  A
**reader** takes a value from the front of the characters it is given and leaves fewer
of them, so that whatever repeats a reader comes to an end.

## Main definitions

* `Json.Read`, `Json.Reader` — what a reader returns, and readers.
* `Json.skipBlank` — the characters from the first that is not blank.
* `Json.readString` — the rest of a string after its opening quote.
* `Json.readNumber` — a number.
* `Json.Scalar`, `Json.readScalar` — values without brackets.
-/

namespace Contracts.Json

variable {α β : Type}

/-! ### Readers -/

/-- What was taken from the front of `input`. -/
structure Read (α : Type) (input : List Char) where
  /-- The value read. -/
  value : α
  /-- The characters that are left. -/
  rest : List Char
  /-- Something was read. -/
  shorter : rest.length < input.length

/-- Take a value from the front of the characters, or find a fault in them. -/
abbrev Reader (α : Type) := (input : List Char) → Except Fault (Read α input)

/-- The same reading with another value. -/
def Read.map (f : α → β) {input : List Char} (read : Read α input) : Read β input :=
  ⟨f read.value, read.rest, read.shorter⟩

/-- A reading from the back part of longer characters. -/
def Read.widen {input whole : List Char} (read : Read α input)
    (h : input.length ≤ whole.length) : Read α whole :=
  ⟨read.value, read.rest, Nat.lt_of_lt_of_le read.shorter h⟩

/-- Pass every value that is read through a function. -/
def Reader.map (f : α → β) (reader : Reader α) : Reader β :=
  fun input => (reader input).map (Read.map f)

/-! ### Progress

What is left is shorter than what there was: the facts by which readers that are put
together come to an end. -/

theorem length_lt_cons (c : Char) (rest : List Char) : rest.length < (c :: rest).length :=
  Nat.lt_succ_self _

theorem length_le_cons (c : Char) (rest : List Char) : rest.length ≤ (c :: rest).length :=
  Nat.le_succ _

theorem length_lt_cons_of_lt {after rest : List Char} (c : Char) (h : after.length < rest.length) :
    after.length < (c :: rest).length :=
  Nat.lt_succ_of_lt h

theorem length_le_of_cons_lt {c : Char} {rest input : List Char}
    (h : (c :: rest).length < input.length) : rest.length ≤ input.length :=
  Nat.le_of_lt (Nat.lt_of_succ_lt h)

/-! ### Blanks and words -/

/-- The blanks of JSON. -/
def isBlank (c : Char) : Bool := c == ' ' || c == '\t' || c == '\n' || c == '\r'

/-- The characters from the first that is not blank. -/
def skipBlank (input : List Char) : List Char := input.dropWhile isBlank

theorem length_skipBlank_le (input : List Char) : (skipBlank input).length ≤ input.length :=
  (List.dropWhile_sublist _).length_le

theorem length_le_of_skipBlank {input rest : List Char} (h : skipBlank input = rest) :
    rest.length ≤ input.length :=
  h ▸ length_skipBlank_le input

theorem length_cons_le_of_skipBlank {input rest : List Char} {c : Char}
    (h : skipBlank input = c :: rest) : (c :: rest).length ≤ input.length :=
  length_le_of_skipBlank h

theorem length_lt_of_skipBlank {input rest : List Char} {c : Char}
    (h : skipBlank input = c :: rest) : rest.length < input.length :=
  length_le_of_skipBlank h

theorem length_dropWhile_lt_cons (p : Char → Bool) (c : Char) (rest : List Char) :
    (rest.dropWhile p).length < (c :: rest).length :=
  Nat.lt_succ_of_le (List.dropWhile_sublist _).length_le

/-- Read the letters of a word, one after the other. -/
def readLetters (value : α) : (letters : List Char) → (input : List Char) →
    Except Fault { read : α × List Char // read.2.length ≤ input.length }
  | [], input => .ok ⟨(value, input), Nat.le_refl _⟩
  | _ :: _, [] => .error (.before .endInValue [])
  | letter :: letters, c :: rest =>
      if letter = c then
        match readLetters value letters rest with
        | .error fault => .error fault
        | .ok ⟨read, h⟩ => .ok ⟨read, Nat.le_succ_of_le h⟩
      else .error (.onto .expectedWord (c :: rest))

/-! ### Strings -/

/-- The value of a hexadecimal digit. -/
def hexDigit? (c : Char) : Option Nat :=
  if '0' ≤ c ∧ c ≤ '9' then some (c.toNat - '0'.toNat)
  else if 'a' ≤ c ∧ c ≤ 'f' then some (c.toNat - 'a'.toNat + 10)
  else if 'A' ≤ c ∧ c ≤ 'F' then some (c.toNat - 'A'.toNat + 10)
  else none

/-- The value of four hexadecimal digits. -/
def hexQuad? (a b c d : Char) : Option Nat := do
  return ((← hexDigit? a) * 16 + (← hexDigit? b)) * 256 +
    ((← hexDigit? c) * 16 + (← hexDigit? d))

/-- Read the four hexadecimal digits of an escape.  They are taken as four bytes before
they are looked at. -/
def readHexQuad : Reader Nat := fun input =>
  match input with
  | a :: b :: c :: d :: rest =>
      match hexQuad? a b c d with
      | some unit => .ok ⟨unit, rest, by simp only [List.length_cons]; omega⟩
      | none => .error ⟨.invalidEscape, .settled (byteCount input - 4)⟩
  | short =>
      if byteCount short < 4 then .error (.before .endInString [])
      else .error ⟨.invalidEscape, .settled (byteCount short - 4)⟩

/-- Whether a code unit is the first half of a surrogate pair. -/
def isHighSurrogate (unit : Nat) : Bool := 0xD800 ≤ unit && unit < 0xDC00

/-- Whether a code unit is the second half of a surrogate pair. -/
def isLowSurrogate (unit : Nat) : Bool := 0xDC00 ≤ unit && unit < 0xE000

/-- The character that a surrogate pair stands for. -/
def surrogatePair (high low : Nat) : Char :=
  Char.ofNat (0x10000 + (high - 0xD800) * 0x400 + (low - 0xDC00))

/-- Read the escape of a low surrogate after that of a high one. -/
def readPartner (high : Nat) : Reader Char := fun input =>
  match input with
  | '\\' :: 'u' :: digits =>
      match readHexQuad digits with
      | .error fault => .error fault
      | .ok read =>
          if isLowSurrogate read.value then
            .ok ((read.map (surrogatePair high)).widen (by simp only [List.length_cons]; omega))
          else .error (.before .loneSurrogate read.rest)
  | [] => .error (.before .endInString [])
  | ['\\'] => .error (.before .endInString [])
  | '\\' :: c :: rest => .error (.onto .brokenSurrogate (c :: rest))
  | c :: rest => .error (.onto .brokenSurrogate (c :: rest))

/-- The character that a letter stands for after a backslash. -/
def unescape? : Char → Option Char
  | '"' => some '"'
  | '\\' => some '\\'
  | '/' => some '/'
  | 'b' => some '\x08'
  | 'f' => some '\x0c'
  | 'n' => some '\n'
  | 'r' => some '\r'
  | 't' => some '\t'
  | _ => none

/-- Read an escape after its backslash. -/
def readEscape : Reader Char := fun input =>
  match input with
  | [] => .error (.before .endInString [])
  | c :: rest =>
      if c = 'u' then
        match readHexQuad rest with
        | .error fault => .error fault
        | .ok ⟨unit, after, h⟩ =>
            if isLowSurrogate unit then .error (.before .loneSurrogate after)
            else if isHighSurrogate unit then
              match readPartner unit after with
              | .error fault => .error fault
              | .ok read => .ok (read.widen (by simp only [List.length_cons]; omega))
            else .ok ⟨Char.ofNat unit, after, by simp only [List.length_cons]; omega⟩
      else match unescape? c with
        | some meant => .ok ⟨meant, rest, by simp only [List.length_cons]; omega⟩
        | none => .error (.onto .invalidEscape (c :: rest))

/-- Read the characters of a string after its opening quote, over a reader of escapes
after their backslash; `control` is the fault of a control character. -/
def readCharacters (escape : Reader Char) (control : List Char → Fault) (input : List Char) :
    Except Fault (Read (List Char) input) :=
  match input with
  | [] => .error (.before .endInString [])
  | c :: rest =>
      if c = '"' then .ok ⟨[], rest, length_lt_cons c rest⟩
      else if c = '\\' then
        match escape rest with
        | .error fault => .error fault
        | .ok ⟨meant, after, h⟩ =>
            match readCharacters escape control after with
            | .error fault => .error fault
            | .ok read =>
                .ok ((read.map (meant :: ·)).widen
                  (Nat.le_of_lt (length_lt_cons_of_lt c h)))
      else if c.toNat < 0x20 then .error (control (c :: rest))
      else
        match readCharacters escape control rest with
        | .error fault => .error fault
        | .ok read => .ok ((read.map (c :: ·)).widen (length_le_cons c rest))
termination_by input.length
decreasing_by
  · exact length_lt_cons_of_lt c h
  · exact length_lt_cons c rest

/-- Read a string after its opening quote. -/
def readString : Reader String :=
  Reader.map String.ofList (readCharacters readEscape (.onto .controlCharacter))

/-! ### Numbers -/

/-- The greatest exponent that is taken into account. -/
abbrev largestExponent : Nat := 1 <<< 31 - 1

/-- The digits of an exponent: their value, or the characters left when they have
become too great. -/
inductive ExponentDigits (input : List Char) where
  /-- The exponent is `value`. -/
  | value (value : Nat) (rest : List Char) (shorter : rest.length ≤ input.length) :
      ExponentDigits input
  /-- The exponent is past the greatest, and perhaps not read to its end. -/
  | tooGreat (rest : List Char) (shorter : rest.length ≤ input.length) : ExponentDigits input

/-- Read the digits of an exponent, `start` being the value of those before. -/
def readExponentDigits (start : Nat) : (input : List Char) → ExponentDigits input
  | [] => .value start [] (Nat.le_refl _)
  | c :: rest =>
      if c.isDigit then
        let value := 10 * start + (c.toNat - '0'.toNat)
        if largestExponent < value then .tooGreat rest (Nat.le_succ _)
        else match readExponentDigits value rest with
          | .value value after h => .value value after (Nat.le_succ_of_le h)
          | .tooGreat after h => .tooGreat after (Nat.le_succ_of_le h)
      else .value start (c :: rest) (Nat.le_refl _)

/-- Append digits to a whole number for as long as it fits 64 bits.  The second component
counts the digits that are left over. -/
def appendDigits (n : Nat) : List Char → Nat × Nat
  | [] => (n, 0)
  | c :: rest =>
      let longer := 10 * n + (c.toNat - '0'.toNat)
      if longer < 1 <<< 64 then appendDigits longer rest else (n, (c :: rest).length)

theorem appendDigits_lt {n : Nat} (h : n < 1 <<< 64) (digits : List Char) :
    (appendDigits n digits).1 < 1 <<< 64 := by
  fun_induction appendDigits n digits with
  | case1 => exact h
  | case2 _ _ _ _ fits ih => exact ih fits
  | case3 => exact h

/-- The digits of a number as far as they are taken into account. -/
structure Significand where
  /-- Whether a minus sign stands first. -/
  negative : Bool
  /-- The digits that are taken, as one number. -/
  digits : Nat
  /-- The power of ten that the digits count in. -/
  power : Int
  /-- The digits fit 64 bits. -/
  fits : digits < 1 <<< 64

/-- The digits in front of the point.  Those left over are taken for zeros. -/
def Significand.ofWhole (negative : Bool) (whole : List Char) : Significand where
  negative := negative
  digits := (appendDigits 0 whole).1
  power := (appendDigits 0 whole).2
  fits := appendDigits_lt (by decide) whole

/-- Append the digits behind the point.  Those left over are dropped. -/
def Significand.withFraction (significand : Significand) (fraction : List Char) : Significand where
  negative := significand.negative
  digits := (appendDigits significand.digits fraction).1
  power :=
    significand.power - (fraction.length - (appendDigits significand.digits fraction).2 : Nat)
  fits := appendDigits_lt significand.fits fraction

/-- The greatest power of ten that is near a number. -/
abbrev largestPower : Nat := 308

/-- The nearest number to a power of ten. -/
def powerOfTen (n : Nat) : Number := Number.ofNat (Nat.pow 10 n)

/-- Divide a number by a power of ten, by one that is near a number at a time. -/
def divideByPower (x : Number) (n : Nat) : Number :=
  if n ≤ largestPower then x.divide (powerOfTen n)
  else if x.equal (.zero false) then x
  else divideByPower (x.divide (powerOfTen largestPower)) (n - largestPower)
termination_by n
decreasing_by exact Nat.sub_lt (by omega) (by decide)

/-- A number times a power of ten, unless that is too great. -/
def timesPower? (x : Number) : Int → Option Number
  | .ofNat n =>
      if n ≤ largestPower then
        let product := x.multiply (powerOfTen n)
        if product.isFinite then some product else none
      else if x.equal (.zero false) then some x
      else none
  | .negSucc n => some (divideByPower x (n + 1))

/-- The number with an exponent, unless it is too great. -/
def Significand.float? (significand : Significand) (exponent : Int) : Option JsonNumber :=
  (timesPower? (.ofNat significand.digits) (significand.power + exponent)).map fun x =>
    .float (if significand.negative then x.negate else x)

/-- The number without fraction and exponent: an integer if it fits 64 bits, where
negative zero is not one. -/
def Significand.integer? (significand : Significand) : Option JsonNumber :=
  if significand.power ≠ 0 then significand.float? 0
  else if significand.negative then
    if 0 < significand.digits ∧ significand.digits ≤ 1 <<< 63 then
      some (.integer (-(significand.digits : Int)))
    else significand.float? 0
  else some (.integer significand.digits)

/-- What was read, unless it is too great. -/
def inRange (number : Option JsonNumber) {input : List Char} (rest : List Char)
    (h : rest.length < input.length) : Except Fault (Read JsonNumber input) :=
  match number with
  | some number => .ok ⟨number, rest, h⟩
  | none => .error (.before .numberOutOfRange rest)

/-- The sign of an exponent, and the characters after it. -/
def exponentSign : List Char → Bool × List Char
  | '+' :: rest => (false, rest)
  | '-' :: rest => (true, rest)
  | rest => (false, rest)

theorem length_exponentSign_le (input : List Char) :
    (exponentSign input).2.length ≤ input.length := by
  unfold exponentSign
  split <;> simp

/-- Read an exponent after its letter. -/
def readExponent (significand : Significand) : Reader JsonNumber := fun input =>
  match h : exponentSign input with
  | (_, []) => .error (.before .endInValue [])
  | (negative, c :: rest) =>
      have hrest : rest.length < input.length := by
        have := length_exponentSign_le input
        rwa [h] at this
      if c.isDigit then
        match readExponentDigits (c.toNat - '0'.toNat) rest with
        | .value value after h =>
            inRange (significand.float? (if negative then -(value : Int) else value)) after
              (Nat.lt_of_le_of_lt h hrest)
        | .tooGreat after h =>
            if significand.digits ≠ 0 ∧ negative = false then
              .error (.before .numberOutOfRange after)
            else
              .ok ⟨.float (Number.zero significand.negative), after.dropWhile Char.isDigit,
                Nat.lt_of_le_of_lt (Nat.le_trans (List.dropWhile_sublist _).length_le h) hrest⟩
      else .error (.onto .invalidNumber (c :: rest))

/-- Read the exponent of a number, if there is one; `plain` is the number without it. -/
def readExponentPart (significand : Significand) (plain : Option JsonNumber)
    (whole : List Char) (rest : List Char) (h : rest.length < whole.length) :
    Except Fault (Read JsonNumber whole) :=
  match rest, h with
  | 'e' :: after, h => (readExponent significand after).map (·.widen (length_le_of_cons_lt h))
  | 'E' :: after, h => (readExponent significand after).map (·.widen (length_le_of_cons_lt h))
  | rest, h => inRange plain rest h

/-- Read the fraction and the exponent of a number, if there are any. -/
def readAfterWhole (significand : Significand) (whole : List Char) (rest : List Char)
    (h : rest.length < whole.length) : Except Fault (Read JsonNumber whole) :=
  match rest, h with
  | '.' :: after, h =>
      let fraction := after.takeWhile Char.isDigit
      let rest := after.dropWhile Char.isDigit
      have hrest : rest.length < whole.length :=
        Nat.lt_of_le_of_lt (List.dropWhile_sublist _).length_le (Nat.lt_of_succ_lt h)
      if fraction.isEmpty then
        match rest with
        | [] => .error (.before .endInValue [])
        | c :: rest => .error (.onto .invalidNumber (c :: rest))
      else
        let significand := significand.withFraction fraction
        readExponentPart significand (significand.float? 0) whole rest hrest
  | rest, h => readExponentPart significand significand.integer? whole rest h

/-- Read a number without its sign. -/
def readUnsigned (negative : Bool) : Reader JsonNumber := fun input =>
  match input with
  | [] => .error (.before .endInValue [])
  | c :: rest =>
      if c = '0' then
        if rest.head?.any Char.isDigit then .error (.onto .invalidNumber rest)
        else readAfterWhole (.ofWhole negative [c]) _ rest (length_lt_cons c rest)
      else if c.isDigit then
        readAfterWhole (.ofWhole negative (c :: rest.takeWhile Char.isDigit)) _
          (rest.dropWhile Char.isDigit) (length_dropWhile_lt_cons Char.isDigit c rest)
      else .error (.onto .invalidNumber (c :: rest))

/-- Read a number. -/
def readNumber : Reader JsonNumber := fun input =>
  match input with
  | '-' :: rest => (readUnsigned true rest).map (·.widen (length_le_cons '-' rest))
  | input => readUnsigned false input

/-! ### Scalars -/

/-- A value without brackets. -/
inductive Scalar where
  /-- The value `null`. -/
  | null : Scalar
  /-- A truth value. -/
  | boolean (b : Bool) : Scalar
  /-- A number. -/
  | number (n : JsonNumber) : Scalar
  /-- A text. -/
  | string (s : String) : Scalar

/-- The scalar as a value. -/
def Scalar.toJson : Scalar → Json
  | .null => .null
  | .boolean b => .boolean b
  | .number n => .number n
  | .string s => .string s

/-- How a scalar is described when another sort was expected. -/
def Scalar.found : Scalar → Found
  | .null => .null
  | .boolean b => .boolean b
  | .number n => .number n
  | .string s => .string s

/-- Read the letters of a word after its first. -/
def readWord (value : Scalar) (letters : List Char) (whole : List Char) (rest : List Char)
    (h : rest.length < whole.length) : Except Fault (Read Scalar whole) :=
  match readLetters value letters rest with
  | .error fault => .error fault
  | .ok ⟨(value, after), h'⟩ => .ok ⟨value, after, Nat.lt_of_le_of_lt h' h⟩

/-- Read a value without brackets.  No blank may stand before it. -/
def readScalar : Reader Scalar := fun input =>
  match input with
  | [] => .error (.before .endInValue [])
  | c :: rest =>
      have h := length_lt_cons c rest
      if c = 'n' then readWord .null ['u', 'l', 'l'] _ rest h
      else if c = 't' then readWord (.boolean true) ['r', 'u', 'e'] _ rest h
      else if c = 'f' then readWord (.boolean false) ['a', 'l', 's', 'e'] _ rest h
      else if c = '"' then
        (readString rest).map fun read => (read.map Scalar.string).widen (length_le_cons c rest)
      else if c = '-' ∨ c.isDigit then (readNumber (c :: rest)).map (Read.map Scalar.number)
      else .error (.onto .expectedValue (c :: rest))

end Contracts.Json
