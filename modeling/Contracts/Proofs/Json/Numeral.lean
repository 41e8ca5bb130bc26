import Contracts.Proofs.Json.Exact

/-!
# Numbers in JSON texts

The characters of a number have parts: a sign, digits in front of the point and behind it, and
an exponent.  The reader finds the parts one after the other, each up to where something else
starts.  So what it finds where a number ends is the number of the parts that are there, and
only which numbers the parts stand for is left to say.

## Main definitions

* `Json.Exponent`, `Json.Numeral` — the parts of a number, and their characters.
* `Json.decimal` — what digits are.
* `Json.Numeral.value?` — the number that is read of the parts.

## Main results

* `Json.isNumeral_iff` — the characters of numbers are those of their parts.
* `Json.finds_readNumber_iff` — **numbers are read by their parts.**
-/

namespace Contracts.Json

variable {input rest before digits : List Char} {c : Char} {n : JsonNumber}

/-! ### Parts -/

/-- The exponent of a number. -/
structure Exponent where
  /-- The letter in front of it. -/
  letter : Char
  /-- Its sign, if it has one. -/
  sign : List Char
  /-- Its digits. -/
  digits : List Char
  /-- The letter may be a capital. -/
  isLetter : letter = 'e' ∨ letter = 'E'
  /-- There is at most one sign. -/
  isSign : sign = [] ∨ sign = ['+'] ∨ sign = ['-']
  /-- There is a digit. -/
  isDigits : IsDigits digits

/-- The parts of a number. -/
structure Numeral where
  /-- Whether a minus sign stands first. -/
  negative : Bool
  /-- The digits in front of the point. -/
  whole : List Char
  /-- The digits behind it; without them there is no point. -/
  fraction : List Char
  /-- The exponent, if there is one. -/
  exponent : Option Exponent
  /-- There is a digit in front of the point. -/
  isWhole : IsDigits whole
  /-- A zero in front is the only digit there. -/
  noNeedlessZero : whole = ['0'] ∨ whole.head? ≠ some '0'
  /-- Digits stand behind the point. -/
  isFraction : ∀ c ∈ fraction, c.isDigit = true

/-- The characters of an exponent. -/
def Exponent.text (exponent : Exponent) : List Char :=
  exponent.letter :: (exponent.sign ++ exponent.digits)

/-- The characters of a fraction. -/
def fractionText (fraction : List Char) : List Char :=
  if fraction = [] then [] else '.' :: fraction

/-- The characters of a number behind its sign. -/
def Numeral.unsignedText (numeral : Numeral) : List Char :=
  numeral.whole ++ (fractionText numeral.fraction ++ numeral.exponent.elim [] Exponent.text)

/-- The characters of a number. -/
def Numeral.text (numeral : Numeral) : List Char :=
  if numeral.negative then '-' :: numeral.unsignedText else numeral.unsignedText

/-- **The characters of numbers** are those of their parts. -/
theorem isNumeral_iff : IsNumeral input ↔ ∃ numeral : Numeral, numeral.text = input := by
  constructor
  · rintro ⟨sign, whole, fraction, exponent, rfl, signed, isWhole, noZero, isFraction, isExponent⟩
    obtain ⟨digits, areDigits, rfl⟩ : ∃ digits, (∀ c ∈ digits, c.isDigit = true) ∧
        fractionText digits = fraction := by
      rcases isFraction with rfl | ⟨digits, ⟨some, areDigits⟩, rfl⟩
      · exact ⟨[], fun _ member => (nomatch member), rfl⟩
      · exact ⟨digits, areDigits, if_neg some⟩
    obtain ⟨exponent, rfl⟩ : ∃ part : Option Exponent, part.elim [] Exponent.text = exponent := by
      rcases isExponent with rfl | ⟨letter, sign, digits, isLetter, isSign, isDigits, rfl⟩
      · exact ⟨none, rfl⟩
      · exact ⟨some ⟨letter, sign, digits, by simpa using isLetter, by simpa using isSign,
          isDigits⟩, rfl⟩
    rcases signed with rfl | rfl
    · exact ⟨⟨false, whole, digits, exponent, isWhole, noZero, areDigits⟩, by
        simp [Numeral.text, Numeral.unsignedText]⟩
    · exact ⟨⟨true, whole, digits, exponent, isWhole, noZero, areDigits⟩, by
        simp [Numeral.text, Numeral.unsignedText]⟩
  · rintro ⟨⟨negative, whole, fraction, exponent, isWhole, noZero, isFraction⟩, rfl⟩
    refine ⟨if negative then ['-'] else [], whole, fractionText fraction,
      exponent.elim [] Exponent.text, ?_, ?_, isWhole, noZero, ?_, ?_⟩
    · cases negative <;> simp [Numeral.text, Numeral.unsignedText]
    · cases negative <;> simp
    · by_cases none : fraction = []
      · exact .inl (if_pos none)
      · exact .inr ⟨fraction, ⟨none, isFraction⟩, if_neg none⟩
    · cases exponent with
      | none => exact .inl rfl
      | some exponent =>
        refine .inr ⟨exponent.letter, exponent.sign, exponent.digits, ?_, ?_, exponent.isDigits,
          rfl⟩
        · simpa using exponent.isLetter
        · simpa using exponent.isSign

/-! ### What digits are -/

/-- The whole number that decimal digits are. -/
def decimal (digits : List Char) : Nat :=
  digits.foldl (fun n c => 10 * n + (c.toNat - '0'.toNat)) 0

theorem decimal_concat (digits : List Char) (c : Char) :
    decimal (digits ++ [c]) = 10 * decimal digits + (c.toNat - '0'.toNat) := by
  rw [decimal, List.foldl_append]
  rfl

/-- More digits make no smaller number. -/
theorem decimal_le_append (digits more : List Char) :
    decimal digits ≤ decimal (digits ++ more) := by
  induction more generalizing digits with
  | nil => exact Nat.le_of_eq (by rw [List.append_nil])
  | cons c more ih =>
    have first := ih (digits ++ [c])
    rw [decimal_concat, List.append_assoc, List.singleton_append] at first
    omega

/-! ### Exponents -/

/-- The characters start with no digit. -/
def NotDigit (text : List Char) : Prop := ∀ c ∈ text.head?, c.isDigit = false

/-- The characters go on with no exponent. -/
def NoExponent (text : List Char) : Prop := ∀ c ∈ text.head?, c ≠ 'e' ∧ c ≠ 'E'

/-- Where a value ends its number does not go on. -/
theorem Ends.stops (h : Ends rest) : ∀ c ∈ rest.head?, c.isDigit = false ∧ c ≠ 'e' ∧ c ≠ 'E' ∧
    c ≠ '.' := by
  intro c starts
  rcases h c starts with blank | rfl | rfl | rfl
  · simp only [isBlank, Bool.or_eq_true, beq_iff_eq] at blank
    rcases blank with ((rfl | rfl) | rfl) | rfl <;> decide
  all_goals decide

theorem Ends.notDigit (h : Ends rest) : NotDigit rest := fun c starts => (h.stops c starts).1

theorem Ends.noExponent (h : Ends rest) : NoExponent rest := fun c starts =>
  ⟨(h.stops c starts).2.1, (h.stops c starts).2.2.1⟩

theorem isDigit_of_mem_takeWhile (member : c ∈ input.takeWhile Char.isDigit) :
    c.isDigit = true :=
  List.all_eq_true.1 List.all_takeWhile c member

/-- Digits are scanned up to where something else starts. -/
theorem scan_digits (areDigits : ∀ c ∈ digits, c.isDigit = true) (stops : NotDigit rest) :
    (digits ++ rest).takeWhile Char.isDigit = digits ∧
      (digits ++ rest).dropWhile Char.isDigit = rest := by
  rw [List.takeWhile_append_of_pos areDigits, List.dropWhile_append_of_pos areDigits]
  cases rest with
  | nil => exact ⟨List.append_nil _, rfl⟩
  | cons c rest =>
    have other : ¬ c.isDigit = true := by rw [stops c rfl]; decide
    rw [List.takeWhile_cons_of_neg other, List.dropWhile_cons_of_neg other, List.append_nil]
    exact ⟨rfl, rfl⟩

/-- An exponent is read to the end of its digits, or to where it has become too great. -/
theorem readExponentDigits_cases (input : List Char) (small : decimal before ≤ largestExponent) :
    let value := decimal (before ++ input.takeWhile Char.isDigit)
    let rest := input.dropWhile Char.isDigit
    (value ≤ largestExponent ∧
        ∃ shorter, readExponentDigits (decimal before) input = .value value rest shorter) ∨
      (largestExponent < value ∧ ∃ after shorter,
        readExponentDigits (decimal before) input = .tooGreat after shorter ∧
          after.dropWhile Char.isDigit = rest) := by
  induction input generalizing before with
  | nil => exact .inl ⟨by rwa [List.takeWhile_nil, List.append_nil], Nat.le_refl _, by
      rw [List.takeWhile_nil, List.append_nil]; rfl⟩
  | cons c input ih =>
    cases digit : c.isDigit with
    | false =>
      have other : ¬ c.isDigit = true := by rw [digit]; decide
      rw [List.takeWhile_cons_of_neg other, List.dropWhile_cons_of_neg other, List.append_nil]
      exact .inl ⟨small, Nat.le_refl _, by rw [readExponentDigits, if_neg other]⟩
    | true =>
      rw [List.takeWhile_cons_of_pos digit, List.dropWhile_cons_of_pos digit]
      simp only [readExponentDigits, if_pos digit, ← decimal_concat]
      by_cases next : largestExponent < decimal (before ++ [c])
      · have more := decimal_le_append (before ++ [c]) (input.takeWhile Char.isDigit)
        rw [List.append_assoc, List.singleton_append] at more
        exact .inr ⟨Nat.lt_of_lt_of_le next more, input, Nat.le_succ _, if_pos next, rfl⟩
      · have found := ih (Nat.not_lt.1 next)
        rw [List.append_assoc, List.singleton_append] at found
        simp only [if_neg next]
        rcases found with ⟨fits, shorter, read⟩ | ⟨great, after, shorter, read, rest⟩
        · rw [read]
          exact .inl ⟨fits, Nat.le_succ_of_le shorter, rfl⟩
        · rw [read]
          exact .inr ⟨great, after, Nat.le_succ_of_le shorter, rfl, rest⟩

/-- The number with an exponent of certain digits. -/
def Significand.withExponent? (significand : Significand) (negative : Bool)
    (digits : List Char) : Option JsonNumber :=
  if largestExponent < decimal digits then
    if significand.digits ≠ 0 ∧ negative = false then none
    else some (.float (Number.zero significand.negative))
  else significand.float? (if negative then -(decimal digits : Int) else decimal digits)

theorem inRange_eq_ok_iff {number : Option JsonNumber} {whole start : List Char}
    (h : start.length < whole.length) :
    (∃ shorter, inRange number start h = .ok ⟨n, rest, shorter⟩) ↔
      number = some n ∧ start = rest := by
  constructor
  · rintro ⟨shorter, read⟩
    cases number with
    | none => cases read
    | some number =>
      cases read
      exact ⟨rfl, rfl⟩
  · rintro ⟨rfl, rfl⟩
    exact ⟨h, rfl⟩

/-- What stands in front of the digits of an exponent is its sign. -/
theorem exists_sign_of_exponentSign {negative : Bool} {behind : List Char}
    (signed : exponentSign input = (negative, behind)) :
    ∃ sign, (sign = [] ∨ sign = ['+'] ∨ sign = ['-']) ∧ input = sign ++ behind ∧
      decide (sign = ['-']) = negative := by
  unfold exponentSign at signed
  split at signed <;> cases signed
  · exact ⟨['+'], .inr (.inl rfl), rfl, rfl⟩
  · exact ⟨['-'], .inr (.inr rfl), rfl, rfl⟩
  · exact ⟨[], .inl rfl, rfl, rfl⟩

theorem exponentSign_append {sign behind : List Char}
    (isSign : sign = [] ∨ sign = ['+'] ∨ sign = ['-']) (digit : c.isDigit = true) :
    exponentSign (sign ++ c :: behind) = (decide (sign = ['-']), c :: behind) := by
  rcases isSign with rfl | rfl | rfl
  · unfold exponentSign
    split
    · next same => cases same; exact absurd digit (by decide)
    · next same => cases same; exact absurd digit (by decide)
    · rfl
  · rfl
  · rfl

/-- Behind its sign, an exponent is read if a digit is there. -/
theorem finds_readExponent_of_sign {significand : Significand} {negative : Bool}
    {behind : List Char} (signed : exponentSign input = (negative, c :: behind))
    (digit : c.isDigit = true) :
    (readExponent significand).Finds input n rest ↔
      significand.withExponent? negative (c :: behind.takeWhile Char.isDigit) = some n ∧
        behind.dropWhile Char.isDigit = rest := by
  have value : c.toNat - '0'.toNat = decimal [c] := by simp [decimal]
  have small : decimal [c] ≤ largestExponent := by
    have low := (Char.isDigit_iff_toNat.1 digit).2
    rw [← value]
    exact Nat.le_trans (Nat.sub_le_sub_right low _) (by decide)
  have inside : behind.length < input.length := by
    have := length_exponentSign_le input
    rwa [signed] at this
  have digits := readExponentDigits_cases behind small
  simp only [List.singleton_append] at digits
  unfold Reader.Finds readExponent
  split
  · next signed' => rw [signed] at signed'; cases signed'
  · next signed' =>
    rw [signed] at signed'
    cases signed'
    simp only [if_pos digit, value]
    rcases digits with ⟨fits, shorter, read⟩ | ⟨great, after, shorter, read, left⟩
    · rw [read, Significand.withExponent?, if_neg (Nat.not_lt.2 fits)]
      exact inRange_eq_ok_iff _
    · rw [read, Significand.withExponent?, if_pos great, ← left]
      dsimp only
      split
      · exact iff_of_false (fun ⟨_, read⟩ => nomatch read) fun ⟨taken, _⟩ => nomatch taken
      · constructor
        · rintro ⟨shorter', read'⟩
          cases read'
          exact ⟨rfl, rfl⟩
        · rintro ⟨taken, rfl⟩
          cases taken
          exact ⟨Nat.lt_of_le_of_lt
            (Nat.le_trans (List.dropWhile_sublist _).length_le shorter) inside, rfl⟩

/-- **Exponents** are read exactly to the end of their digits. -/
theorem finds_readExponent_iff {significand : Significand} (ends : Ends rest) :
    (readExponent significand).Finds input n rest ↔
      ∃ sign digits, (sign = [] ∨ sign = ['+'] ∨ sign = ['-']) ∧ IsDigits digits ∧
        input = sign ++ (digits ++ rest) ∧
          significand.withExponent? (decide (sign = ['-'])) digits = some n := by
  constructor
  · intro finds
    cases signed : exponentSign input with
    | mk negative behind =>
      obtain ⟨sign, isSign, rfl, rfl⟩ := exists_sign_of_exponentSign signed
      obtain ⟨c, behind, rfl, digit⟩ : ∃ c others, behind = c :: others ∧ c.isDigit = true := by
        obtain ⟨shorter, read⟩ := finds
        unfold readExponent at read
        split at read
        · cases read
        · next signed' =>
          rw [signed] at signed'
          cases signed'
          dsimp only at read
          split at read
          · next digit => exact ⟨_, _, rfl, digit⟩
          · cases read
      obtain ⟨taken, rfl⟩ := (finds_readExponent_of_sign signed digit).1 finds
      refine ⟨sign, _, isSign, ⟨List.cons_ne_nil _ _, ?_⟩, ?_, taken⟩
      · exact List.forall_mem_cons.2 ⟨digit, fun d => isDigit_of_mem_takeWhile⟩
      · rw [List.cons_append, List.takeWhile_append_dropWhile]
  · rintro ⟨sign, digits, isSign, ⟨some, areDigits⟩, rfl, taken⟩
    obtain ⟨c, digits, rfl⟩ := List.exists_cons_of_ne_nil some
    obtain ⟨digit, areDigits⟩ := List.forall_mem_cons.1 areDigits
    obtain ⟨scanned, left⟩ := scan_digits areDigits ends.notDigit
    rw [List.cons_append, finds_readExponent_of_sign (exponentSign_append isSign digit) digit,
      scanned, left]
    exact ⟨taken, rfl⟩

/-! ### Fractions -/

/-- The number with an exponent, if there is one; `plain` is the number without it. -/
def Significand.withExponentPart? (significand : Significand) (plain : Option JsonNumber) :
    Option Exponent → Option JsonNumber
  | none => plain
  | some exponent => significand.withExponent? (decide (exponent.sign = ['-'])) exponent.digits

section Parts

variable {significand : Significand} {plain : Option JsonNumber} {whole start : List Char}

theorem readExponentPart_letter {letter : Char} (isLetter : letter = 'e' ∨ letter = 'E')
    (h : (letter :: start).length < whole.length) :
    readExponentPart significand plain whole (letter :: start) h =
      (readExponent significand start).map (·.widen (length_le_of_cons_lt h)) := by
  rcases isLetter with rfl | rfl <;> rfl

theorem readExponentPart_of_noExponent (other : NoExponent start)
    (h : start.length < whole.length) :
    readExponentPart significand plain whole start h = inRange plain start h := by
  unfold readExponentPart
  split
  · exact absurd rfl (other _ rfl).1
  · exact absurd rfl (other _ rfl).2
  · rfl

/-- The exponent of a number is read if there is one. -/
theorem readExponentPart_eq_ok_iff (ends : Ends rest) (h : start.length < whole.length) :
    (∃ shorter, readExponentPart significand plain whole start h = .ok ⟨n, rest, shorter⟩) ↔
      ∃ exponent : Option Exponent, start = exponent.elim [] Exponent.text ++ rest ∧
        significand.withExponentPart? plain exponent = some n := by
  by_cases letter : ∃ letter after, (letter = 'e' ∨ letter = 'E') ∧ start = letter :: after
  · obtain ⟨letter, after, isLetter, rfl⟩ := letter
    rw [readExponentPart_letter isLetter, widen_eq_ok_iff]
    refine (finds_readExponent_iff ends).trans ?_
    constructor
    · rintro ⟨sign, digits, isSign, isDigits, rfl, taken⟩
      exact ⟨some ⟨letter, sign, digits, isLetter, isSign, isDigits⟩, by simp [Exponent.text],
        taken⟩
    · rintro ⟨exponent, same, taken⟩
      cases exponent with
      | none =>
        cases same
        rcases isLetter with rfl | rfl
        · exact absurd rfl (ends.noExponent _ rfl).1
        · exact absurd rfl (ends.noExponent _ rfl).2
      | some exponent =>
        rw [Option.elim_some, Exponent.text, List.cons_append, List.append_assoc] at same
        cases same
        exact ⟨_, _, exponent.isSign, exponent.isDigits, rfl, taken⟩
  · have other : NoExponent start := by
      intro c starts
      obtain ⟨after, rfl⟩ := List.head?_eq_some_iff.1 starts
      exact ⟨fun same => letter ⟨c, after, .inl same, rfl⟩,
        fun same => letter ⟨c, after, .inr same, rfl⟩⟩
    rw [readExponentPart_of_noExponent other, inRange_eq_ok_iff]
    constructor
    · rintro ⟨taken, rfl⟩
      exact ⟨none, rfl, taken⟩
    · rintro ⟨exponent, same, taken⟩
      cases exponent with
      | none => exact ⟨taken, same⟩
      | some exponent => exact absurd ⟨_, _, exponent.isLetter, same⟩ letter

/-- The number with a fraction and an exponent, if there are any. -/
def Significand.withParts? (significand : Significand) (fraction : List Char)
    (exponent : Option Exponent) : Option JsonNumber :=
  if fraction = [] then significand.withExponentPart? significand.integer? exponent
  else
    (significand.withFraction fraction).withExponentPart?
      ((significand.withFraction fraction).float? 0) exponent

/-- What stands behind the digits of a fraction is no digit. -/
theorem notDigit_exponent_append (exponent : Option Exponent) (ends : Ends rest) :
    NotDigit (exponent.elim [] Exponent.text ++ rest) := by
  cases exponent with
  | none => exact ends.notDigit
  | some exponent =>
    intro c starts
    cases starts
    rcases exponent.isLetter with letter | letter <;> rw [letter] <;> decide

/-- Behind a point, digits are due. -/
theorem readAfterWhole_point_ne_ok {after : List Char} {read : Read JsonNumber whole}
    (none : after.takeWhile Char.isDigit = []) (h : ('.' :: after).length < whole.length) :
    readAfterWhole significand whole ('.' :: after) h ≠ .ok read := by
  change (if (after.takeWhile Char.isDigit).isEmpty = true then _ else _) ≠ _
  rw [if_pos (List.isEmpty_iff.2 none)]
  intro ok
  split at ok <;> cases ok

theorem readAfterWhole_point {after : List Char} (some : after.takeWhile Char.isDigit ≠ [])
    (h : ('.' :: after).length < whole.length) :
    readAfterWhole significand whole ('.' :: after) h =
      readExponentPart (significand.withFraction (after.takeWhile Char.isDigit))
        ((significand.withFraction (after.takeWhile Char.isDigit)).float? 0) whole
        (after.dropWhile Char.isDigit)
        (Nat.lt_of_le_of_lt (List.dropWhile_sublist _).length_le (Nat.lt_of_succ_lt h)) := by
  change (if (after.takeWhile Char.isDigit).isEmpty = true then _ else _) = _
  rw [if_neg (mt List.isEmpty_iff.1 some)]

/-- The fraction and the exponent of a number are read if there are any. -/
theorem readAfterWhole_eq_ok_iff (ends : Ends rest) (h : start.length < whole.length) :
    (∃ shorter, readAfterWhole significand whole start h = .ok ⟨n, rest, shorter⟩) ↔
      ∃ fraction exponent, (∀ c ∈ fraction, c.isDigit = true) ∧
        start = fractionText fraction ++ (exponent.elim [] Exponent.text ++ rest) ∧
          significand.withParts? fraction exponent = some n := by
  by_cases point : ∃ after, start = '.' :: after
  · obtain ⟨after, rfl⟩ := point
    constructor
    · rintro ⟨shorter, read⟩
      by_cases none : after.takeWhile Char.isDigit = []
      · exact absurd read (readAfterWhole_point_ne_ok none h)
      · rw [readAfterWhole_point none] at read
        obtain ⟨exponent, behind, taken⟩ := (readExponentPart_eq_ok_iff ends _).1 ⟨shorter, read⟩
        refine ⟨after.takeWhile Char.isDigit, exponent, fun c => isDigit_of_mem_takeWhile, ?_, ?_⟩
        · rw [fractionText, if_neg none, ← behind, List.cons_append,
            List.takeWhile_append_dropWhile]
        · rw [Significand.withParts?, if_neg none]
          exact taken
    · rintro ⟨fraction, exponent, areDigits, same, taken⟩
      by_cases none : fraction = []
      · -- the point would have to be part of what stands behind the fraction
        rw [none, fractionText, if_pos rfl] at same
        cases exponent with
        | none =>
          rw [Option.elim_none, List.nil_append, List.nil_append] at same
          exact absurd rfl (ends.stops '.' (by rw [← same]; rfl)).2.2.2
        | some exponent =>
          rw [Option.elim_some, Exponent.text, List.nil_append, List.cons_append,
            List.cons.injEq] at same
          exact absurd (same.1 ▸ exponent.isLetter) (by decide)
      · rw [fractionText, if_neg none, List.cons_append, List.cons.injEq] at same
        obtain ⟨-, rfl⟩ := same
        obtain ⟨scanned, left⟩ := scan_digits areDigits (notDigit_exponent_append exponent ends)
        rw [Significand.withParts?, if_neg none] at taken
        rw [readAfterWhole_point (by rwa [scanned])]
        simp only [scanned, left]
        exact (readExponentPart_eq_ok_iff ends _).2 ⟨exponent, rfl, taken⟩
  · have plain : readAfterWhole significand whole start h =
        readExponentPart significand significand.integer? whole start h := by
      unfold readAfterWhole
      split
      · exact absurd ⟨_, rfl⟩ point
      · rfl
    rw [plain, readExponentPart_eq_ok_iff ends]
    constructor
    · rintro ⟨exponent, same, taken⟩
      exact ⟨[], exponent, fun _ member => (nomatch member), same, taken⟩
    · rintro ⟨fraction, exponent, areDigits, same, taken⟩
      by_cases none : fraction = []
      · subst none
        exact ⟨exponent, same, taken⟩
      · rw [fractionText, if_neg none] at same
        exact absurd ⟨_, same⟩ point

/-- What stands behind the digits in front of the point is no digit. -/
theorem notDigit_fraction_append (fraction : List Char) (exponent : Option Exponent)
    (ends : Ends rest) :
    NotDigit (fractionText fraction ++ (exponent.elim [] Exponent.text ++ rest)) := by
  unfold fractionText
  split
  · exact notDigit_exponent_append exponent ends
  · intro c starts
    cases starts
    decide

end Parts

/-! ### Numbers -/

/-- The number that is read. -/
def Numeral.value? (numeral : Numeral) : Option JsonNumber :=
  (Significand.ofWhole numeral.negative numeral.whole).withParts? numeral.fraction numeral.exponent

theorem readUnsigned_zero {negative : Bool} {start : List Char} (stops : NotDigit start) :
    readUnsigned negative ('0' :: start) =
      readAfterWhole (.ofWhole negative ['0']) _ start (length_lt_cons '0' start) := by
  have one : ¬ start.head?.any Char.isDigit = true := by
    rw [Option.any_eq_true]
    rintro ⟨c, starts, digit⟩
    rw [stops c starts] at digit
    cases digit
  rw [readUnsigned, if_pos rfl, if_neg one]

theorem readUnsigned_digit {negative : Bool} {start : List Char} (digit : c.isDigit = true)
    (notZero : c ≠ '0') :
    readUnsigned negative (c :: start) =
      readAfterWhole (.ofWhole negative (c :: start.takeWhile Char.isDigit)) _
        (start.dropWhile Char.isDigit) (length_dropWhile_lt_cons Char.isDigit c start) := by
  rw [readUnsigned, if_neg notZero, if_pos digit]

theorem finds_readUnsigned_iff {negative : Bool} (ends : Ends rest) :
    (readUnsigned negative).Finds input n rest ↔
      ∃ numeral : Numeral, numeral.negative = negative ∧ input = numeral.unsignedText ++ rest ∧
        numeral.value? = some n := by
  constructor
  · rintro ⟨shorter, read⟩
    cases input with
    | nil => cases read
    | cons c behind =>
      unfold readUnsigned at read
      dsimp only at read
      split at read
      · next zero =>
        subst zero
        split at read
        · cases read
        · obtain ⟨fraction, exponent, areDigits, rfl, taken⟩ :=
            (readAfterWhole_eq_ok_iff ends _).1 ⟨_, read⟩
          exact ⟨⟨negative, ['0'], fraction, exponent, ⟨by decide, List.forall_mem_singleton.2 rfl⟩,
            .inl rfl, areDigits⟩, rfl, by simp [Numeral.unsignedText], taken⟩
      · next notZero =>
        split at read
        · next digit =>
          obtain ⟨fraction, exponent, areDigits, same, taken⟩ :=
            (readAfterWhole_eq_ok_iff ends _).1 ⟨_, read⟩
          refine ⟨⟨negative, c :: behind.takeWhile Char.isDigit, fraction, exponent,
            ⟨List.cons_ne_nil _ _,
              List.forall_mem_cons.2 ⟨digit, fun _ => isDigit_of_mem_takeWhile⟩⟩,
            .inr ?_, areDigits⟩, rfl, ?_, taken⟩
          · rintro ⟨⟩
            exact notZero rfl
          · rw [Numeral.unsignedText, List.append_assoc, List.append_assoc, ← same,
              List.cons_append, List.takeWhile_append_dropWhile]
        · cases read
  · rintro ⟨⟨_, whole, fraction, exponent, ⟨nonempty, areDigits⟩, noZero, areDigits'⟩, rfl, rfl,
      taken⟩
    have stops := notDigit_fraction_append fraction exponent ends
    simp only [Numeral.unsignedText, List.append_assoc]
    rcases noZero with rfl | notZero
    · unfold Reader.Finds
      rw [List.singleton_append, readUnsigned_zero stops, readAfterWhole_eq_ok_iff ends]
      exact ⟨fraction, exponent, areDigits', rfl, taken⟩
    · obtain ⟨c, whole, rfl⟩ := List.exists_cons_of_ne_nil nonempty
      obtain ⟨digit, areDigits⟩ := List.forall_mem_cons.1 areDigits
      obtain ⟨scanned, left⟩ := scan_digits areDigits stops
      unfold Reader.Finds
      rw [List.cons_append, readUnsigned_digit digit (fun same => notZero (congrArg some same)),
        readAfterWhole_eq_ok_iff ends, scanned, left]
      exact ⟨fraction, exponent, areDigits', rfl, taken⟩

/-- Without its sign, a number starts with a digit. -/
theorem Numeral.exists_unsignedText_eq (numeral : Numeral) :
    ∃ c others, numeral.unsignedText = c :: others ∧ c.isDigit = true := by
  obtain ⟨c, others, first⟩ := List.exists_cons_of_ne_nil numeral.isWhole.1
  refine ⟨c, _, by rw [unsignedText, first, List.cons_append], ?_⟩
  exact numeral.isWhole.2 c (by rw [first]; exact List.mem_cons_self)

/-- With its sign, it starts with that or with a digit. -/
theorem Numeral.exists_text_eq (numeral : Numeral) :
    ∃ c others, numeral.text = c :: others ∧ (c = '-' ∨ c.isDigit = true) := by
  obtain ⟨c, others, first, digit⟩ := numeral.exists_unsignedText_eq
  unfold text
  split
  · exact ⟨_, _, rfl, .inl rfl⟩
  · exact ⟨c, others, first, .inr digit⟩

/-- A number starts with nothing else. -/
theorem IsNumeral.append_ne (h : IsNumeral input) (other : ¬ (c = '-' ∨ c.isDigit = true))
    (rest behind : List Char) : c :: behind ≠ input ++ rest := by
  obtain ⟨numeral, rfl⟩ := isNumeral_iff.1 h
  obtain ⟨d, others, first, opens⟩ := numeral.exists_text_eq
  rw [first]
  rintro ⟨⟩
  exact other opens

/-- **Numbers are read by their parts**, where something behind them ends them. -/
theorem finds_readNumber_iff (ends : Ends rest) :
    readNumber.Finds input n rest ↔
      ∃ numeral : Numeral, input = numeral.text ++ rest ∧ numeral.value? = some n := by
  by_cases minus : ∃ behind, input = '-' :: behind
  · obtain ⟨behind, rfl⟩ := minus
    have unsigned : readNumber.Finds ('-' :: behind) n rest ↔
        (readUnsigned true).Finds behind n rest := widen_eq_ok_iff (length_le_cons '-' behind)
    rw [unsigned, finds_readUnsigned_iff ends]
    constructor
    · rintro ⟨numeral, negative, rfl, taken⟩
      exact ⟨numeral, by rw [Numeral.text, if_pos negative, List.cons_append], taken⟩
    · rintro ⟨numeral, same, taken⟩
      unfold Numeral.text at same
      split at same
      · next negative =>
        cases same
        exact ⟨numeral, negative, rfl, taken⟩
      · obtain ⟨c, others, first, digit⟩ := numeral.exists_unsignedText_eq
        rw [first] at same
        cases same
        cases digit
  · have unsigned : readNumber input = readUnsigned false input := by
      unfold readNumber
      split
      · exact absurd ⟨_, rfl⟩ minus
      · rfl
    unfold Reader.Finds
    rw [unsigned]
    refine (finds_readUnsigned_iff ends).trans (exists_congr fun numeral => ?_)
    unfold Numeral.text
    cases numeral.negative with
    | true =>
      exact iff_of_false (fun ⟨negative, _⟩ => nomatch negative) fun ⟨same, _⟩ =>
        minus ⟨numeral.unsignedText ++ rest, same⟩
    | false => exact and_iff_right rfl

/-! ### Scalars -/

/-- What a scalar is spelled as. -/
inductive Scalar.IsSpelled : Scalar → Outline → Prop
  /-- The word `null`. -/
  | null : IsSpelled .null .null
  /-- A word for a truth value. -/
  | boolean (b : Bool) : IsSpelled (.boolean b) (.boolean b)
  /-- The characters of a number that is read. -/
  | number {numeral : Numeral} {n : JsonNumber} (value : numeral.value? = some n) :
      IsSpelled (.number n) (.number numeral.text)
  /-- A string. -/
  | string (s : String) : IsSpelled (.string s) (.string s)

/-- **Scalars** are read exactly if they are spelled, where something behind them ends them. -/
theorem finds_readScalar_iff {found : Scalar} (ends : Ends rest) :
    readScalar.Finds input found rest ↔
      ∃ outline, Spells input outline rest ∧ found.IsSpelled outline := by
  constructor
  · intro h
    cases input with
    | nil => exact nomatch h
    | cons c behind =>
      by_cases null : c = 'n'
      · subst null
        obtain ⟨rfl, rfl⟩ := finds_readScalar_null.1 h
        exact ⟨_, .null rest, .null⟩
      by_cases isTrue : c = 't'
      · subst isTrue
        obtain ⟨rfl, rfl⟩ := finds_readScalar_true.1 h
        exact ⟨_, .true rest, .boolean true⟩
      by_cases isFalse : c = 'f'
      · subst isFalse
        obtain ⟨rfl, rfl⟩ := finds_readScalar_false.1 h
        exact ⟨_, .false rest, .boolean false⟩
      by_cases quote : c = '"'
      · subst quote
        obtain ⟨s, read, rfl⟩ := finds_readScalar_quote.1 h
        obtain ⟨characters, spelled, rfl⟩ := finds_readString_iff.1 read
        exact ⟨_, .string spelled, .string _⟩
      · obtain ⟨-, n, read, rfl⟩ := (finds_readScalar_other ⟨null, isTrue, isFalse, quote⟩).1 h
        obtain ⟨numeral, split, value⟩ := (finds_readNumber_iff ends).1 read
        exact ⟨_, .number (isNumeral_iff.2 ⟨numeral, rfl⟩) split, .number value⟩
  · rintro ⟨outline, spelled, is⟩
    cases is with
    | null =>
      cases spelled
      exact finds_readScalar_null.2 ⟨rfl, rfl⟩
    | boolean b =>
      cases spelled
      · exact finds_readScalar_true.2 ⟨rfl, rfl⟩
      · exact finds_readScalar_false.2 ⟨rfl, rfl⟩
    | number value =>
      cases spelled with
      | number isNumeral split =>
        subst split
        have read := (finds_readNumber_iff ends).2 ⟨_, rfl, value⟩
        obtain ⟨c, others, first, opens⟩ := Numeral.exists_text_eq _
        rw [first, List.cons_append] at read ⊢
        have other : c ≠ 'n' ∧ c ≠ 't' ∧ c ≠ 'f' ∧ c ≠ '"' := by
          refine ⟨?_, ?_, ?_, ?_⟩ <;> rintro rfl <;> exact absurd opens (by decide)
        exact (finds_readScalar_other other).2 ⟨opens, _, read, rfl⟩
    | string s =>
      cases spelled with
      | string characters =>
        exact finds_readScalar_quote.2 ⟨_, finds_readString_iff.2 ⟨_, characters, rfl⟩, rfl⟩

end Contracts.Json
