import Contracts.Proofs.Json.Written

/-!
# The grammar of JSON texts

What it means that characters spell a JSON value, said without a reader: each production of
the grammar is a relation between the characters that there are, what is spelled at their
front, and the characters behind it.  What is spelled is kept as it stands:
the members of an object in the order of the text, keys that come twice included, and numbers
by their characters.

Of the escapes of code units, only those that stand for characters spell something: a
surrogate needs its partner.

## Main definitions

* `Json.Outline` — what a text spells, before any of it is interpreted.
* `Json.Blanks`, `Json.Gap` — what may stand around values, and between them.
* `Json.Escape`, `Json.Characters`, `Json.IsNumeral` — strings and numbers.
* `Json.Sequence`, `Json.Member` — what stands between brackets.
* `Json.Spells` — values.
* `Json.SpelledBy` — a whole text spells one value, with blanks around it.
* `Json.Ends` — what may stand behind a value.

## Main results

* `Json.Spells.opens` — values start neither with a blank nor with a closing bracket.
* `Json.skipBlank_eq_iff` — skipping blanks leads to where something else starts.
-/

namespace Contracts.Json

variable {α : Type} {input start after rest : List Char}

/-! ### Outlines -/

/-- What a text spells, before any of it is interpreted. -/
inductive Outline where
  /-- The word `null`. -/
  | null : Outline
  /-- One of the words for truth values. -/
  | boolean (b : Bool) : Outline
  /-- The characters of a number. -/
  | number (numeral : List Char) : Outline
  /-- The text that a string stands for. -/
  | string (s : String) : Outline
  /-- The items of a list. -/
  | array (items : List Outline) : Outline
  /-- The members of an object in the order of the text. -/
  | object (members : List (String × Outline)) : Outline

/-! ### Blanks -/

/-- There are only blanks before the rest. -/
inductive Blanks : List Char → List Char → Prop
  /-- There are none. -/
  | none (rest : List Char) : Blanks rest rest
  /-- There is one, and perhaps more. -/
  | more {c : Char} {input rest : List Char} (blank : isBlank c = true)
      (behind : Blanks input rest) : Blanks (c :: input) rest

/-- What stands before an item or a member: blanks, and a comma unless it is the first. -/
inductive Gap : Bool → List Char → List Char → Prop
  /-- Before the first one there are only blanks. -/
  | first {input rest : List Char} (blanks : Blanks input rest) : Gap true input rest
  /-- Before any other, there is a comma among them. -/
  | next {input after rest : List Char} (before : Blanks input (',' :: after))
      (behind : Blanks after rest) : Gap false input rest

/-! ### Strings -/

/-- The letters that may follow a backslash, each with the character that it stands for. -/
def shortEscapes : List (Char × Char) :=
  [('"', '"'), ('\\', '\\'), ('/', '/'), ('b', '\x08'), ('f', '\x0c'), ('n', '\n'), ('r', '\r'),
    ('t', '\t')]

/-- An escape behind its backslash stands for a character. -/
inductive Escape : List Char → Char → List Char → Prop
  /-- A letter. -/
  | short {letter meant : Char} {rest : List Char} (listed : (letter, meant) ∈ shortEscapes) :
      Escape (letter :: rest) meant rest
  /-- The four digits of a code unit that is no surrogate. -/
  | unit {a b c d : Char} {unit : Nat} {rest : List Char} (digits : hexQuad? a b c d = some unit)
      (whole : unit < 0xD800 ∨ 0xE000 ≤ unit) :
      Escape ('u' :: a :: b :: c :: d :: rest) (Char.ofNat unit) rest
  /-- Those of a high surrogate and then those of a low one. -/
  | pair {a b c d e f g h : Char} {high low : Nat} {rest : List Char}
      (first : hexQuad? a b c d = some high) (isHigh : 0xD800 ≤ high ∧ high < 0xDC00)
      (second : hexQuad? e f g h = some low) (isLow : 0xDC00 ≤ low ∧ low < 0xE000) :
      Escape ('u' :: a :: b :: c :: d :: '\\' :: 'u' :: e :: f :: g :: h :: rest)
        (Char.ofNat (0x10000 + (high - 0xD800) * 0x400 + (low - 0xDC00))) rest

/-- A string behind its opening quote stands for characters. -/
inductive Characters : List Char → List Char → List Char → Prop
  /-- The closing quote. -/
  | quote (rest : List Char) : Characters ('"' :: rest) [] rest
  /-- A character that stands for itself. -/
  | plain {c : Char} {input characters rest : List Char} (notQuote : c ≠ '"')
      (notSlash : c ≠ '\\') (notControl : 0x20 ≤ c.toNat)
      (behind : Characters input characters rest) : Characters (c :: input) (c :: characters) rest
  /-- An escape. -/
  | escape {meant : Char} {input after characters rest : List Char}
      (escaped : Escape input meant after) (behind : Characters after characters rest) :
      Characters ('\\' :: input) (meant :: characters) rest

/-- Characters that need no escape stand for themselves. -/
theorem characters_plain (text : List Char)
    (h : text.all fun c => c ≠ '"' ∧ c ≠ '\\' ∧ 0x20 ≤ c.toNat) (rest : List Char) :
    Characters (text ++ '"' :: rest) text rest := by
  induction text with
  | nil => exact .quote rest
  | cons c text ih =>
    rw [List.all_cons, Bool.and_eq_true, decide_eq_true_eq] at h
    obtain ⟨⟨notQuote, notSlash, notControl⟩, others⟩ := h
    exact .plain notQuote notSlash notControl (ih others)

/-! ### Numbers -/

/-- Decimal digits, at least one. -/
def IsDigits (text : List Char) : Prop := text ≠ [] ∧ ∀ c ∈ text, c.isDigit = true

/-- The characters of a number: perhaps a sign, digits without a needless zero in front,
perhaps a fraction, and perhaps an exponent. -/
def IsNumeral (text : List Char) : Prop :=
  ∃ sign whole fraction exponent, text = sign ++ whole ++ fraction ++ exponent ∧
    (sign = [] ∨ sign = ['-']) ∧
    IsDigits whole ∧ (whole = ['0'] ∨ whole.head? ≠ some '0') ∧
    (fraction = [] ∨ ∃ digits, IsDigits digits ∧ fraction = '.' :: digits) ∧
    (exponent = [] ∨ ∃ letter sign digits, letter ∈ ['e', 'E'] ∧ sign ∈ [[], ['+'], ['-']] ∧
      IsDigits digits ∧ exponent = letter :: sign ++ digits)

/-! ### Values -/

/-- Parts up to a closing bracket, where a relation says what a part is. -/
inductive Sequence (close : Char) (part : List Char → α → List Char → Prop) :
    Bool → List Char → List α → List Char → Prop
  /-- The bracket. -/
  | closed {first : Bool} {input rest : List Char} (blanks : Blanks input (close :: rest)) :
      Sequence close part first input [] rest
  /-- A part, and what comes behind it. -/
  | cons {first : Bool} {input start after rest : List Char} {value : α} {values : List α}
      (gap : Gap first input start) (spelled : part start value after)
      (behind : Sequence close part false after values rest) :
      Sequence close part first input (value :: values) rest

/-- A member of an object: a key, a colon and a value. -/
inductive Member (value : List Char → α → List Char → Prop) :
    List Char → String × α → List Char → Prop
  /-- There may be blanks around the colon. -/
  | mk {input afterKey afterColon start rest key : List Char} {spelled : α}
      (quoted : Characters input key afterKey) (colon : Blanks afterKey (':' :: afterColon))
      (blanks : Blanks afterColon start) (valued : value start spelled rest) :
      Member value ('"' :: input) (String.ofList key, spelled) rest

/-- There is a value at the front of some characters, and a rest behind it. -/
inductive Spells : List Char → Outline → List Char → Prop
  /-- The word `null`. -/
  | null (rest : List Char) : Spells ('n' :: 'u' :: 'l' :: 'l' :: rest) .null rest
  /-- The word `true`. -/
  | true (rest : List Char) : Spells ('t' :: 'r' :: 'u' :: 'e' :: rest) (.boolean true) rest
  /-- The word `false`. -/
  | false (rest : List Char) :
      Spells ('f' :: 'a' :: 'l' :: 's' :: 'e' :: rest) (.boolean false) rest
  /-- A number. -/
  | number {numeral input rest : List Char} (h : IsNumeral numeral)
      (split : input = numeral ++ rest) : Spells input (.number numeral) rest
  /-- A string. -/
  | string {input characters rest : List Char} (h : Characters input characters rest) :
      Spells ('"' :: input) (.string (String.ofList characters)) rest
  /-- A list. -/
  | array {input rest : List Char} {items : List Outline}
      (h : Sequence ']' Spells true input items rest) : Spells ('[' :: input) (.array items) rest
  /-- An object. -/
  | object {input rest : List Char} {members : List (String × Outline)}
      (h : Sequence '\x7d' (Member Spells) true input members rest) :
      Spells ('\x7b' :: input) (.object members) rest

/-- A text spells one value, and has nothing else but blanks around it. -/
def SpelledBy (text : String) (outline : Outline) : Prop :=
  ∃ start rest, Blanks text.toList start ∧ Spells start outline rest ∧ Blanks rest []

/-! ### Where values start -/

/-- The characters start with no blank. -/
def NotBlank (text : List Char) : Prop := ∀ c ∈ text.head?, isBlank c = false

theorem Opens.notBlank (h : Opens input) : NotBlank input := by
  obtain ⟨c, rest, rfl, notBlank, -⟩ := h
  intro d starts
  cases starts
  exact notBlank

theorem notBlank_cons {c : Char} (h : isBlank c = false) : NotBlank (c :: rest) := by
  intro d starts
  cases starts
  exact h

/-- Digits are no blanks and no brackets. -/
theorem opens_of_isDigit {c : Char} (h : c.isDigit = true) : Opens (c :: rest) := by
  refine ⟨c, rest, rfl, ?_, ?_⟩
  · rw [Bool.eq_false_iff]
    intro blank
    simp only [isBlank, Bool.or_eq_true, beq_iff_eq] at blank
    rcases blank with ((rfl | rfl) | rfl) | rfl <;> exact absurd h (by decide)
  · rintro rfl
    exact absurd h (by decide)

/-- A number starts with a sign or a digit. -/
theorem IsNumeral.opens {numeral : List Char} (h : IsNumeral numeral) (rest : List Char) :
    Opens (numeral ++ rest) := by
  obtain ⟨sign, whole, fraction, exponent, rfl, signed, ⟨some_digit, digits⟩, -⟩ := h
  rcases signed with rfl | rfl
  · obtain ⟨c, others, rfl⟩ := List.exists_cons_of_ne_nil some_digit
    exact opens_of_isDigit (digits c List.mem_cons_self)
  · exact ⟨'-', _, rfl, rfl, by decide⟩

/-- A value starts neither with a blank nor with a closing bracket. -/
theorem Spells.opens {outline : Outline} (h : Spells input outline rest) : Opens input := by
  cases h with
  | number numeral split => exact split ▸ numeral.opens rest
  | _ => exact ⟨_, _, rfl, rfl, by decide⟩

/-! ### Where values end -/

/-- What may stand behind a value: a blank, a comma, a closing bracket or nothing. -/
def Ends (text : List Char) : Prop :=
  ∀ c ∈ text.head?, isBlank c = true ∨ c = ',' ∨ c = ']' ∨ c = '\x7d'

theorem Blanks.ends (h : Blanks input rest) (ends : Ends rest) : Ends input := by
  cases h with
  | none => exact ends
  | more blank _ =>
    intro c starts
    cases starts
    exact .inl blank

theorem ends_nil : Ends [] := fun _ starts => nomatch starts

theorem ends_cons {c : Char} (h : c = ',' ∨ c = ']' ∨ c = '\x7d') : Ends (c :: rest) := by
  intro d starts
  cases starts
  exact .inr h

/-- In front of what comes next inside brackets, a value has ended. -/
theorem Gap.ends (h : Gap false input rest) : Ends input := by
  cases h with
  | next before _ => exact before.ends (ends_cons (.inl rfl))

theorem Sequence.ends {close : Char} {part : List Char → α → List Char → Prop} {values : List α}
    (h : Sequence close part false input values rest) (closes : close = ']' ∨ close = '\x7d') :
    Ends input := by
  cases h with
  | closed blanks => exact blanks.ends (ends_cons (.inr closes))
  | cons gap _ _ => exact gap.ends

/-! ### Skipping blanks -/

theorem Blanks.length_le (h : Blanks input rest) : rest.length ≤ input.length := by
  induction h with
  | none => exact Nat.le_refl _
  | more _ _ ih => exact Nat.le_succ_of_le ih

theorem Gap.length_le {first : Bool} (h : Gap first input rest) : rest.length ≤ input.length := by
  cases h with
  | first blanks => exact blanks.length_le
  | next before behind =>
    have comma := before.length_le
    rw [List.length_cons] at comma
    have := behind.length_le
    omega

theorem blanks_skipBlank (input : List Char) : Blanks input (skipBlank input) := by
  induction input with
  | nil => exact .none []
  | cons c rest ih =>
    cases blank : isBlank c with
    | true =>
      rw [skipBlank, List.dropWhile_cons_of_pos blank]
      exact .more blank ih
    | false =>
      rw [skipBlank_cons blank]
      exact .none _

theorem notBlank_skipBlank (input : List Char) : NotBlank (skipBlank input) := by
  induction input with
  | nil => exact fun _ starts => nomatch starts
  | cons c rest ih =>
    cases blank : isBlank c with
    | true => rwa [skipBlank, List.dropWhile_cons_of_pos blank]
    | false =>
      rw [skipBlank_cons blank]
      exact notBlank_cons blank

/-- Blanks are skipped up to where something else starts. -/
theorem skipBlank_eq_iff : skipBlank input = rest ↔ Blanks input rest ∧ NotBlank rest := by
  constructor
  · rintro rfl
    exact ⟨blanks_skipBlank input, notBlank_skipBlank input⟩
  · rintro ⟨blanks, notBlank⟩
    induction blanks with
    | none rest =>
      cases rest with
      | nil => rfl
      | cons c rest => exact skipBlank_cons (notBlank c rfl) rest
    | more blank _ ih =>
      rw [skipBlank, List.dropWhile_cons_of_pos blank]
      exact ih notBlank

theorem skipBlank_of_notBlank (h : NotBlank input) : skipBlank input = input :=
  skipBlank_eq_iff.2 ⟨.none input, h⟩

/-- Blanks are skipped up to a character that is none. -/
theorem skipBlank_eq_cons_iff {c : Char} (h : isBlank c = false) :
    skipBlank input = c :: rest ↔ Blanks input (c :: rest) := by
  rw [skipBlank_eq_iff]
  exact and_iff_left (notBlank_cons h)

theorem skipBlank_eq_nil_iff : skipBlank input = [] ↔ Blanks input [] := by
  rw [skipBlank_eq_iff]
  exact and_iff_left fun _ starts => nomatch starts

end Contracts.Json
