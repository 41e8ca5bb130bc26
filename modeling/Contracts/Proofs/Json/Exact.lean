import Contracts.Proofs.Json.Grammar

/-!
# Readers of the grammar

The readers of strings, of scalars, and of what stands between the parts of lists and objects
find something exactly where the grammar has it.  Each reader has one fact that unfolds it,
an equivalence between what it finds and what there is; the facts about more than one
character go by induction on what is spelled, as the readers do.

Numbers are left out.  They end where something else starts, and have rules of their own.

## Main results

* `Json.finds_readEscape_iff`, `Json.finds_readString_iff` — strings.
* `Json.readWord_eq_iff` — words.
* `Json.listTurn_eq_closed_iff`, `Json.listTurn_eq_more_iff` — before the items of a list.
* `Json.objectTurn_eq_closed_iff`, `Json.objectTurn_eq_more_iff` — before the keys of an object.
-/

namespace Contracts.Json

variable {α β σ : Type} {input start after rest : List Char}

section Read

variable (read : Read α input) (f : α → β) {whole : List Char} (h : input.length ≤ whole.length)

@[simp] theorem Read.value_map : (read.map f).value = f read.value := rfl

@[simp] theorem Read.rest_map : (read.map f).rest = read.rest := rfl

@[simp] theorem Read.value_widen : (read.widen h).value = read.value := rfl

@[simp] theorem Read.rest_widen : (read.widen h).rest = read.rest := rfl

end Read

/-- Readings that are the same have the same value and leave the same. -/
theorem Read.eq_of_ok {read : Read α input} {value : α} {shorter : rest.length < input.length}
    (h : (Except.ok read : Except Fault (Read α input)) = .ok ⟨value, rest, shorter⟩) :
    read.value = value ∧ read.rest = rest := by
  cases h
  exact ⟨rfl, rfl⟩

/-- What was read from the back part of some characters was read from them. -/
theorem widen_eq_ok_iff {whole : List Char} {outcome : Except Fault (Read α input)} {value : α}
    (h : input.length ≤ whole.length) :
    (∃ shorter, outcome.map (·.widen h) = .ok ⟨value, rest, shorter⟩) ↔
      ∃ shorter, outcome = .ok ⟨value, rest, shorter⟩ := by
  constructor
  · rintro ⟨shorter, read⟩
    cases outcome with
    | error fault => cases read
    | ok read' =>
      obtain ⟨rfl, rfl⟩ := Read.eq_of_ok read
      exact ⟨read'.shorter, rfl⟩
  · rintro ⟨shorter, rfl⟩
    exact ⟨Nat.lt_of_lt_of_le shorter h, rfl⟩

namespace Reader

variable {reader : Reader α} {value : α}

theorem finds_of_read {read : Read α input} (h : reader input = .ok read) :
    reader.Finds input read.value read.rest := ⟨read.shorter, h⟩

theorem finds_map_iff {f : α → β} {value : β} :
    (Reader.map f reader).Finds input value rest ↔
      ∃ found, reader.Finds input found rest ∧ f found = value := by
  constructor
  · rintro ⟨shorter, read⟩
    rw [Reader.map] at read
    cases found : reader input with
    | error fault => rw [found] at read; cases read
    | ok read' =>
      rw [found] at read
      cases read
      exact ⟨_, finds_of_read found, rfl⟩
  · rintro ⟨found, finds, rfl⟩
    exact finds.map f

end Reader

/-! ### Strings -/

theorem unescape?_eq_some_iff {letter meant : Char} :
    unescape? letter = some meant ↔ (letter, meant) ∈ shortEscapes := by
  constructor
  · intro found
    unfold unescape? at found
    split at found <;> first | (cases found; decide) | cases found
  · intro listed
    simp only [shortEscapes, List.mem_cons, Prod.mk.injEq, List.not_mem_nil, or_false] at listed
    rcases listed with h | h | h | h | h | h | h | h <;> obtain ⟨rfl, rfl⟩ := h <;> rfl

theorem finds_readHexQuad_iff {unit : Nat} :
    readHexQuad.Finds input unit rest ↔
      ∃ a b c d, input = a :: b :: c :: d :: rest ∧ hexQuad? a b c d = some unit := by
  constructor
  · rintro ⟨shorter, read⟩
    unfold readHexQuad at read
    split at read
    · split at read
      · next found =>
        cases read
        exact ⟨_, _, _, _, rfl, found⟩
      · cases read
    · split at read <;> cases read
  · rintro ⟨a, b, c, d, rfl, found⟩
    refine ⟨by simp only [List.length_cons]; omega, ?_⟩
    simp only [readHexQuad, found]

theorem finds_readPartner_iff {high : Nat} {meant : Char} :
    (readPartner high).Finds input meant rest ↔
      ∃ e f g h low, input = '\\' :: 'u' :: e :: f :: g :: h :: rest ∧
        hexQuad? e f g h = some low ∧ isLowSurrogate low = true ∧
          surrogatePair high low = meant := by
  constructor
  · rintro ⟨shorter, read⟩
    unfold readPartner at read
    split at read
    · next digits =>
      cases found : readHexQuad digits with
      | error fault => rw [found] at read; cases read
      | ok unit =>
        obtain ⟨unit, after, shorter'⟩ := unit
        rw [found] at read
        dsimp only at read
        split at read
        · next low =>
          obtain ⟨same, left⟩ := Read.eq_of_ok read
          rw [Read.value_widen, Read.value_map] at same
          rw [Read.rest_widen, Read.rest_map] at left
          subst left
          obtain ⟨e, f, g, h, rfl, value⟩ := finds_readHexQuad_iff.1 ⟨shorter', found⟩
          exact ⟨e, f, g, h, unit, rfl, value, low, same⟩
        · cases read
    all_goals cases read
  · rintro ⟨e, f, g, h, low, rfl, value, isLow, rfl⟩
    refine ⟨by simp only [List.length_cons]; omega, ?_⟩
    simp only [readPartner, readHexQuad, value, isLow, if_pos, Read.map, Read.widen]

theorem isHighSurrogate_iff {unit : Nat} :
    isHighSurrogate unit = true ↔ 0xD800 ≤ unit ∧ unit < 0xDC00 := by
  simp only [isHighSurrogate, Bool.and_eq_true, decide_eq_true_eq]

theorem isLowSurrogate_iff {unit : Nat} :
    isLowSurrogate unit = true ↔ 0xDC00 ≤ unit ∧ unit < 0xE000 := by
  simp only [isLowSurrogate, Bool.and_eq_true, decide_eq_true_eq]

theorem finds_readEscape_letter_iff {letter meant : Char} (h : letter ≠ 'u') :
    readEscape.Finds (letter :: input) meant rest ↔
      (letter, meant) ∈ shortEscapes ∧ input = rest := by
  rw [← unescape?_eq_some_iff]
  constructor
  · rintro ⟨shorter, read⟩
    simp only [readEscape, if_neg h] at read
    split at read
    · next stands =>
      cases read
      exact ⟨stands, rfl⟩
    · cases read
  · rintro ⟨stands, rfl⟩
    refine ⟨length_lt_cons _ _, ?_⟩
    simp only [readEscape, if_neg h, stands]

/-- A code unit is an escape by itself unless it is a surrogate, and a high one has its partner
behind it. -/
theorem finds_readEscape_unit_iff {meant : Char} :
    readEscape.Finds ('u' :: input) meant rest ↔
      ∃ unit after, readHexQuad.Finds input unit after ∧ isLowSurrogate unit = false ∧
        if isHighSurrogate unit = true then (readPartner unit).Finds after meant rest
        else Char.ofNat unit = meant ∧ after = rest := by
  constructor
  · rintro ⟨shorter, read⟩
    simp only [readEscape, if_pos] at read
    split at read
    · cases read
    · next unit after shorter' digits =>
      split at read
      · cases read
      · next noLow =>
        refine ⟨unit, after, ⟨shorter', digits⟩, Bool.eq_false_iff.2 noLow, ?_⟩
        split at read
        · next isHigh =>
          rw [if_pos isHigh]
          split at read
          · cases read
          · next partner paired =>
            cases read
            exact Reader.finds_of_read paired
        · next noHigh =>
          cases read
          rw [if_neg noHigh]
          exact ⟨rfl, rfl⟩
  · rintro ⟨unit, after, ⟨shorter', digits⟩, noLow, others⟩
    split at others
    · next isHigh =>
      obtain ⟨shorter'', paired⟩ := others
      refine ⟨Nat.lt_succ_of_lt (Nat.lt_trans shorter'' shorter'), ?_⟩
      simp only [readEscape, if_pos, digits, noLow, isHigh, paired, Bool.false_eq_true, if_false,
        Read.widen]
    · next noHigh =>
      obtain ⟨rfl, rfl⟩ := others
      refine ⟨Nat.lt_succ_of_lt shorter', ?_⟩
      simp only [readEscape, if_pos, digits, noLow, noHigh, Bool.false_eq_true, if_false]

/-- **Escapes** are read exactly if they stand for a character. -/
theorem finds_readEscape_iff {meant : Char} :
    readEscape.Finds input meant rest ↔ Escape input meant rest := by
  constructor
  · intro finds
    cases input with
    | nil => exact nomatch finds
    | cons letter digits =>
      by_cases isUnit : letter = 'u'
      · subst isUnit
        obtain ⟨unit, after, quad, noLow, others⟩ := finds_readEscape_unit_iff.1 finds
        obtain ⟨a, b, c, d, rfl, value⟩ := finds_readHexQuad_iff.1 quad
        rw [Bool.eq_false_iff, Ne, isLowSurrogate_iff] at noLow
        split at others
        · next isHigh =>
          obtain ⟨e, f, g, h, low, rfl, second, isLow, rfl⟩ := finds_readPartner_iff.1 others
          exact .pair value (isHighSurrogate_iff.1 isHigh) second (isLowSurrogate_iff.1 isLow)
        · next noHigh =>
          obtain ⟨rfl, rfl⟩ := others
          rw [isHighSurrogate_iff] at noHigh
          exact .unit value (by omega)
      · obtain ⟨listed, rfl⟩ := (finds_readEscape_letter_iff isUnit).1 finds
        exact .short listed
  · intro escaped
    cases escaped with
    | short listed =>
      have noUnit : ∀ letter meant, (letter, meant) ∈ shortEscapes → letter ≠ 'u' := by
        rintro _ meant listed rfl
        exact absurd (unescape?_eq_some_iff.2 listed) nofun
      exact (finds_readEscape_letter_iff (noUnit _ _ listed)).2 ⟨listed, rfl⟩
    | @unit _ _ _ _ unit _ value whole =>
      have noLow : isLowSurrogate unit = false := by
        rw [Bool.eq_false_iff, Ne, isLowSurrogate_iff]
        omega
      have noHigh : ¬ isHighSurrogate unit = true := by
        rw [isHighSurrogate_iff]
        omega
      refine finds_readEscape_unit_iff.2
        ⟨unit, rest, finds_readHexQuad_iff.2 ⟨_, _, _, _, rfl, value⟩, noLow, ?_⟩
      rw [if_neg noHigh]
      exact ⟨rfl, rfl⟩
    | @pair _ _ _ _ _ _ _ _ high low _ first isHigh second isLow =>
      have noLow : isLowSurrogate high = false := by
        rw [Bool.eq_false_iff, Ne, isLowSurrogate_iff]
        omega
      refine finds_readEscape_unit_iff.2
        ⟨high, _, finds_readHexQuad_iff.2 ⟨_, _, _, _, rfl, first⟩, noLow, ?_⟩
      rw [if_pos (isHighSurrogate_iff.2 isHigh), finds_readPartner_iff]
      exact ⟨_, _, _, _, low, rfl, second, isLowSurrogate_iff.2 isLow, rfl⟩

/-! ### Characters -/

section Characters

variable {escape : Reader Char} {control : List Char → Fault} {c : Char} {characters : List Char}

theorem finds_readCharacters_nil_iff :
    Reader.Finds (readCharacters escape control) input [] rest ↔ input = '"' :: rest := by
  constructor
  · rintro ⟨shorter, read⟩
    unfold readCharacters at read
    split at read
    · cases read
    · split at read
      · next quote =>
        cases read
        rw [quote]
      · split at read
        · split at read
          · cases read
          · split at read <;> cases read
        · split at read
          · cases read
          · split at read <;> cases read
  · rintro rfl
    exact finds_readCharacters_quote

/-- The first character stands for itself or is escaped. -/
theorem finds_readCharacters_cons_iff :
    Reader.Finds (readCharacters escape control) input (c :: characters) rest ↔
      (∃ behind, input = c :: behind ∧ c ≠ '"' ∧ c ≠ '\\' ∧ ¬ c.toNat < 0x20 ∧
        Reader.Finds (readCharacters escape control) behind characters rest) ∨
      ∃ behind after, input = '\\' :: behind ∧ escape.Finds behind c after ∧
        Reader.Finds (readCharacters escape control) after characters rest := by
  constructor
  · rintro ⟨shorter, read⟩
    unfold readCharacters at read
    split at read
    · cases read
    · next d behind =>
      split at read
      · cases read
      · next notQuote =>
        split at read
        · next slash =>
          subst slash
          split at read
          · cases read
          · next meant after shorter' escaped =>
            split at read
            · cases read
            · next others found =>
              cases read
              exact .inr ⟨behind, after, rfl, ⟨shorter', escaped⟩, Reader.finds_of_read found⟩
        · next notSlash =>
          split at read
          · cases read
          · next notControl =>
            split at read
            · cases read
            · next others found =>
              cases read
              exact .inl ⟨behind, rfl, notQuote, notSlash, notControl, Reader.finds_of_read found⟩
  · rintro (⟨behind, rfl, notQuote, notSlash, notControl, found⟩ |
      ⟨behind, after, rfl, escaped, found⟩)
    · exact finds_readCharacters_plain found notQuote notSlash notControl
    · exact finds_readCharacters_escape found escaped

end Characters

/-- **Strings** are read exactly if they stand for characters. -/
theorem finds_readCharacters_iff {control : List Char → Fault} {characters : List Char} :
    Reader.Finds (readCharacters readEscape control) input characters rest ↔
      Characters input characters rest := by
  induction characters generalizing input with
  | nil =>
    rw [finds_readCharacters_nil_iff]
    constructor
    · rintro rfl
      exact .quote rest
    · intro spelled
      cases spelled
      rfl
  | cons c others ih =>
    rw [finds_readCharacters_cons_iff]
    simp only [ih, finds_readEscape_iff]
    constructor
    · rintro (⟨behind, rfl, notQuote, notSlash, notControl, spelled⟩ |
        ⟨behind, after, rfl, escaped, spelled⟩)
      · exact .plain notQuote notSlash (Nat.le_of_not_lt notControl) spelled
      · exact .escape escaped spelled
    · intro spelled
      cases spelled with
      | plain notQuote notSlash notControl behind =>
        exact .inl ⟨_, rfl, notQuote, notSlash, Nat.not_lt.2 notControl, behind⟩
      | escape escaped behind => exact .inr ⟨_, _, rfl, escaped, behind⟩

theorem finds_readString_iff {s : String} :
    readString.Finds input s rest ↔
      ∃ characters, Characters input characters rest ∧ String.ofList characters = s := by
  rw [readString, Reader.finds_map_iff]
  simp only [finds_readCharacters_iff]

/-! ### Scalars -/

theorem readLetters_eq_iff {value found : α} {letters : List Char} :
    (∃ shorter, readLetters value letters input = .ok ⟨(found, rest), shorter⟩) ↔
      found = value ∧ input = letters ++ rest := by
  induction letters generalizing input with
  | nil =>
    constructor
    · rintro ⟨shorter, read⟩
      cases read
      exact ⟨rfl, rfl⟩
    · rintro ⟨rfl, rfl⟩
      exact ⟨Nat.le_refl _, rfl⟩
  | cons letter letters ih =>
    cases input with
    | nil => exact ⟨fun ⟨_, read⟩ => (nomatch read), fun ⟨_, split⟩ => (nomatch split)⟩
    | cons c behind =>
      constructor
      · rintro ⟨shorter, read⟩
        rw [readLetters] at read
        split at read
        · next same =>
          subst same
          cases others : readLetters value letters behind with
          | error fault => rw [others] at read; cases read
          | ok read' =>
            obtain ⟨⟨found', rest'⟩, notLonger⟩ := read'
            rw [others] at read
            cases read
            obtain ⟨rfl, rfl⟩ := ih.1 ⟨_, others⟩
            exact ⟨rfl, rfl⟩
        · cases read
      · rintro ⟨rfl, split⟩
        rw [List.cons_append, List.cons.injEq] at split
        obtain ⟨rfl, rfl⟩ := split
        obtain ⟨notLonger, read⟩ := ih.2 ⟨rfl, rfl⟩
        refine ⟨Nat.le_succ_of_le notLonger, ?_⟩
        rw [readLetters, if_pos rfl, read]

/-- A word is read exactly if it is there. -/
theorem readWord_eq_iff {value found : Scalar} {letters whole : List Char}
    (h : input.length < whole.length) :
    (∃ shorter, readWord value letters whole input h = .ok ⟨found, rest, shorter⟩) ↔
      found = value ∧ input = letters ++ rest := by
  rw [← readLetters_eq_iff]
  constructor
  · rintro ⟨shorter, read⟩
    unfold readWord at read
    cases letters' : readLetters value letters input with
    | error fault => rw [letters'] at read; cases read
    | ok read' =>
      obtain ⟨⟨found', rest'⟩, notLonger⟩ := read'
      rw [letters'] at read
      cases read
      exact ⟨notLonger, rfl⟩
  · rintro ⟨notLonger, read⟩
    exact ⟨Nat.lt_of_le_of_lt notLonger h, by rw [readWord, read]⟩

theorem finds_readScalar_null {found : Scalar} :
    readScalar.Finds ('n' :: input) found rest ↔
      found = .null ∧ input = ['u', 'l', 'l'] ++ rest :=
  readWord_eq_iff (length_lt_cons _ _)

theorem finds_readScalar_true {found : Scalar} :
    readScalar.Finds ('t' :: input) found rest ↔
      found = .boolean true ∧ input = ['r', 'u', 'e'] ++ rest :=
  readWord_eq_iff (length_lt_cons _ _)

theorem finds_readScalar_false {found : Scalar} :
    readScalar.Finds ('f' :: input) found rest ↔
      found = .boolean false ∧ input = ['a', 'l', 's', 'e'] ++ rest :=
  readWord_eq_iff (length_lt_cons _ _)

theorem finds_readScalar_quote {found : Scalar} :
    readScalar.Finds ('"' :: input) found rest ↔
      ∃ s, readString.Finds input s rest ∧ found = .string s := by
  constructor
  · rintro ⟨shorter, read⟩
    change (readString input).map _ = _ at read
    cases found' : readString input with
    | error fault => rw [found'] at read; cases read
    | ok string =>
      rw [found'] at read
      obtain ⟨same, left⟩ := Read.eq_of_ok read
      subst left
      exact ⟨_, Reader.finds_of_read found', same.symm⟩
  · rintro ⟨s, ⟨shorter, read⟩, rfl⟩
    refine ⟨Nat.lt_succ_of_lt shorter, ?_⟩
    change (readString input).map _ = _
    rw [read]
    rfl

/-- What starts neither with a letter of a word nor with a quote is a number. -/
theorem finds_readScalar_other {c : Char} {found : Scalar}
    (other : c ≠ 'n' ∧ c ≠ 't' ∧ c ≠ 'f' ∧ c ≠ '"') :
    readScalar.Finds (c :: input) found rest ↔
      (c = '-' ∨ c.isDigit = true) ∧ ∃ n, readNumber.Finds (c :: input) n rest ∧
        found = .number n := by
  unfold Reader.Finds
  simp only [readScalar, if_neg other.1, if_neg other.2.1, if_neg other.2.2.1, if_neg other.2.2.2]
  split
  · next opens =>
    rw [and_iff_right opens]
    exact Reader.finds_map_iff.trans (exists_congr fun n => and_congr_right fun _ => eq_comm)
  · next opens =>
    refine iff_of_false ?_ fun both => opens both.1
    rintro ⟨_, read⟩
    cases read

/-! ### Turns -/

/-- **A list closes** exactly at its bracket. -/
theorem listTurn_eq_closed_iff (first : Bool) :
    (∃ shorter, listTurn first input = .ok (.closed rest shorter)) ↔
      Blanks input (']' :: rest) := by
  rw [← skipBlank_eq_cons_iff (by decide)]
  constructor
  · rintro ⟨shorter, turn⟩
    unfold listTurn at turn
    split at turn
    · cases turn
    · next starts =>
      split at turn
      · next close =>
        cases turn
        rw [starts, close]
      · split at turn
        · cases turn
        · split at turn
          · split at turn
            · cases turn
            · split at turn <;> cases turn
          · cases turn
  · intro starts
    refine ⟨length_lt_of_skipBlank starts, ?_⟩
    unfold listTurn
    split
    · next starts' => rw [starts] at starts'; cases starts'
    · next starts' =>
      rw [starts] at starts'
      cases starts'
      rw [if_pos rfl]

theorem opens_of_skipBlank {c : Char} (starts : skipBlank input = c :: rest) (open_ : c ≠ ']') :
    Opens (c :: rest) :=
  ⟨c, rest, rfl, (skipBlank_eq_iff.1 starts).2 c rfl, open_⟩

/-- **An item is due** exactly behind its gap. -/
theorem listTurn_eq_more_iff {first : Bool} :
    (∃ notLonger, listTurn first input = .ok (.more rest notLonger)) ↔
      Gap first input rest ∧ Opens rest := by
  constructor
  · rintro ⟨notLonger, turn⟩
    unfold listTurn at turn
    split at turn
    · cases turn
    · next starts =>
      split at turn
      · cases turn
      · next notClosed =>
        split at turn
        · next isFirst =>
          subst isFirst
          cases turn
          exact ⟨.first (skipBlank_eq_iff.1 starts).1, opens_of_skipBlank starts notClosed⟩
        · next notFirst =>
          rw [Bool.not_eq_true] at notFirst
          subst notFirst
          split at turn
          · next comma =>
            subst comma
            split at turn
            · cases turn
            · next behind =>
              split at turn
              · cases turn
              · next notClosed' =>
                cases turn
                exact ⟨.next (skipBlank_eq_iff.1 starts).1 (skipBlank_eq_iff.1 behind).1,
                  opens_of_skipBlank behind notClosed'⟩
          · cases turn
  · rintro ⟨gap, opens⟩
    have notBlank := opens.notBlank
    obtain ⟨c, others, rfl, -, notClosed⟩ := opens
    cases gap with
    | first blanks =>
      have starts : skipBlank input = c :: others := skipBlank_eq_iff.2 ⟨blanks, notBlank⟩
      refine ⟨length_cons_le_of_skipBlank starts, ?_⟩
      unfold listTurn
      split
      · next starts' => rw [starts] at starts'; cases starts'
      · next starts' =>
        rw [starts] at starts'
        cases starts'
        rw [if_neg notClosed, if_pos rfl]
    | next before behind =>
      have comma := (skipBlank_eq_cons_iff (by decide)).2 before
      have starts := skipBlank_eq_iff.2 ⟨behind, notBlank⟩
      refine ⟨Nat.le_of_lt (Nat.lt_of_le_of_lt (length_cons_le_of_skipBlank starts)
        (length_lt_of_skipBlank comma)), ?_⟩
      unfold listTurn
      split
      · next starts' => rw [comma] at starts'; cases starts'
      · next starts' =>
        rw [comma] at starts'
        cases starts'
        rw [if_neg (by decide), if_neg Bool.false_ne_true, if_pos rfl]
        split
        · next starts' => rw [starts] at starts'; cases starts'
        · next starts' =>
          rw [starts] at starts'
          cases starts'
          rw [if_neg notClosed]

/-- **An object closes** exactly at its brace. -/
theorem objectTurn_eq_closed_iff (first : Bool) :
    (∃ shorter, objectTurn first input = .ok (.closed rest shorter)) ↔
      Blanks input ('\x7d' :: rest) := by
  rw [← skipBlank_eq_cons_iff (by decide)]
  constructor
  · rintro ⟨shorter, turn⟩
    unfold objectTurn at turn
    split at turn
    · cases turn
    · next starts =>
      split at turn
      · next close =>
        cases turn
        rw [starts, close]
      · split at turn
        · split at turn <;> cases turn
        · split at turn
          · split at turn
            · cases turn
            · split at turn
              · cases turn
              · split at turn <;> cases turn
          · cases turn
  · intro starts
    refine ⟨length_lt_of_skipBlank starts, ?_⟩
    unfold objectTurn
    split
    · next starts' => rw [starts] at starts'; cases starts'
    · next starts' =>
      rw [starts] at starts'
      cases starts'
      rw [if_pos rfl]

/-- **A key is due** exactly behind its gap and its opening quote. -/
theorem objectTurn_eq_more_iff {first : Bool} :
    (∃ notLonger, objectTurn first input = .ok (.more rest notLonger)) ↔
      Gap first input ('"' :: rest) := by
  constructor
  · rintro ⟨notLonger, turn⟩
    unfold objectTurn at turn
    split at turn
    · cases turn
    · next starts =>
      split at turn
      · cases turn
      · split at turn
        · next isFirst =>
          subst isFirst
          split at turn
          · next quote =>
            subst quote
            cases turn
            exact .first (skipBlank_eq_iff.1 starts).1
          · cases turn
        · next notFirst =>
          rw [Bool.not_eq_true] at notFirst
          subst notFirst
          split at turn
          · next comma =>
            subst comma
            split at turn
            · cases turn
            · next behind =>
              split at turn
              · next quote =>
                subst quote
                cases turn
                exact .next (skipBlank_eq_iff.1 starts).1 (skipBlank_eq_iff.1 behind).1
              · split at turn <;> cases turn
          · cases turn
  · intro gap
    cases gap with
    | first blanks =>
      have starts := (skipBlank_eq_cons_iff (by decide)).2 blanks
      refine ⟨Nat.le_of_lt (length_lt_of_skipBlank starts), ?_⟩
      unfold objectTurn
      split
      · next starts' => rw [starts] at starts'; cases starts'
      · next starts' =>
        rw [starts] at starts'
        cases starts'
        rw [if_neg (by decide), if_pos rfl, if_pos rfl]
    | next before behind =>
      have comma := (skipBlank_eq_cons_iff (by decide)).2 before
      have starts := (skipBlank_eq_cons_iff (by decide)).2 behind
      refine ⟨Nat.le_of_lt (Nat.lt_trans (length_lt_of_skipBlank starts)
        (length_lt_of_skipBlank comma)), ?_⟩
      unfold objectTurn
      split
      · next starts' => rw [comma] at starts'; cases starts'
      · next starts' =>
        rw [comma] at starts'
        cases starts'
        rw [if_neg (by decide), if_neg Bool.false_ne_true, if_pos rfl]
        split
        · next starts' => rw [starts] at starts'; cases starts'
        · next starts' =>
          rw [starts] at starts'
          cases starts'
          rw [if_pos rfl]

theorem finds_readColon_iff :
    readColon.Finds input () rest ↔ Blanks input (':' :: rest) := by
  rw [← skipBlank_eq_cons_iff (by decide)]
  constructor
  · rintro ⟨shorter, read⟩
    unfold readColon at read
    split at read
    · cases read
    · next starts =>
      split at read
      · next colon =>
        cases read
        rw [starts, colon]
      · cases read
  · intro starts
    refine ⟨length_lt_of_skipBlank starts, ?_⟩
    unfold readColon
    split
    · next starts' => rw [starts] at starts'; cases starts'
    · next starts' =>
      rw [starts] at starts'
      cases starts'
      rw [if_pos rfl]

end Contracts.Json
