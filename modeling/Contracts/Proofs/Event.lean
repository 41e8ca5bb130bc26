import Contracts.Proofs.Catalog.Namespace

/-!
# Lines of events

The line of an event is read by its spaces: between two of them there is a token.  That
works as long as no token has a space or a line break in it.  Most of what stands in an
event cannot: the names of definitions are identifiers, and numbers, identities and codes
have no such characters.  But a field, a key and the spelling of an unknown tag may be any
texts, and stand in the line as they are.

## Main definitions

* `Text.Separates`, `Text.IsSolid` — a character that ends a token or a line, and a text
  without any.
* `Event.IsNamed` — the names in an event are identifiers.
* `Event.freeText` — the text in an event that may be any.
* `Event.IsReadable` — the line of an event is one line, which is read by its spaces.

## Main results

* `InstanceId.isSolid_text` — identities are solid.
* `Event.exists_mem_tokens_iff` — what ends tokens or lines comes from the free text.
* `Event.line_unbroken_iff` — an event is on one line if its free text is.
* `Event.splitOn_line_iff` — its line is split into its tokens if the free text has no space.
* `Event.isReadable_iff` — **an event is readable if its free text is solid.**
-/

namespace Contracts

/-! ### Texts without separators -/

namespace Text

/-- A character that ends a token of a line, or the line. -/
def Separates (c : Char) : Prop := c = ' ' ∨ c = '\n' ∨ c = '\r'

instance : DecidablePred Separates :=
  fun c => inferInstanceAs (Decidable (c = ' ' ∨ c = '\n' ∨ c = '\r'))

/-- A text without such characters. -/
def IsSolid (text : String) : Prop := ∀ c ∈ text.toList, ¬ Separates c

-- by the characters of the text, not by all that there are
instance (text : String) : Decidable (IsSolid text) :=
  List.decidableBAll (fun c => ¬ Separates c) text.toList

theorem isSolid_of_isIdentifier {text : String} (h : IsIdentifier text) : IsSolid text := by
  rintro c member separates
  have part := isIdentifierPart_of_mem h member
  rcases separates with rfl | rfl | rfl <;> revert part <;> decide

/-- Digits are no separators. -/
theorem not_separates_of_mem_toDigits {base : Nat} (low : 1 < base) (high : base ≤ 16) (n : Nat) :
    ∀ c ∈ Nat.toDigits base n, ¬ Separates c := by
  have digit : ∀ d < 16, ¬ Separates (Nat.digitChar d) := by decide
  induction n using Nat.strongRecOn with
  | ind n ih =>
    intro c member
    rw [Nat.toDigits_eq_if low] at member
    split at member
    · next small =>
      rw [List.mem_singleton.1 member]
      exact digit n (by omega)
    · next large =>
      rcases List.mem_append.1 member with before | last
      · exact ih (n / base) (Nat.div_lt_self (by omega) low) c before
      · rw [List.mem_singleton.1 last]
        exact digit (n % base) (Nat.lt_of_lt_of_le (Nat.mod_lt n (by omega)) high)

theorem isSolid_repr (n : Nat) : IsSolid n.repr := by
  intro c member
  rw [Nat.toList_repr] at member
  exact not_separates_of_mem_toDigits (by decide) (by decide) n c member

/-- A character that is not between the parts is in one of them. -/
theorem mem_intercalate {c : Char} {separator : List Char} (apart : c ∉ separator)
    (parts : List (List Char)) :
    c ∈ separator.intercalate parts ↔ ∃ part ∈ parts, c ∈ part := by
  induction parts with
  | nil => simp
  | cons part rest ih =>
    cases rest with
    | nil => simp
    | cons next rest =>
      rw [List.intercalate_cons_cons, List.mem_append, List.mem_append, ih]
      simp only [apart, or_false, List.exists_mem_cons_iff]

/-- What a text was split by is in none of its parts. -/
theorem not_mem_of_mem_splitOn {c : Char} {text part : List Char} (among : part ∈ text.splitOn c) :
    c ∉ part := by
  rw [List.splitOn_eq_splitOnP] at among
  induction text generalizing part with
  | nil =>
    rw [List.splitOnP_nil, List.mem_singleton] at among
    rw [among]
    exact List.not_mem_nil
  | cons first rest ih =>
    rw [List.splitOnP_cons_eq_if_modifyHead] at among
    split at among
    · rcases List.mem_cons.1 among with rfl | among
      · exact List.not_mem_nil
      · exact ih among
    · next other =>
      obtain ⟨head, tail, split⟩ := List.exists_cons_of_ne_nil (List.splitOnP_ne_nil (· == c) rest)
      rw [split, List.modifyHead_cons] at among
      rcases List.mem_cons.1 among with rfl | among
      · rw [List.mem_cons, not_or]
        exact ⟨fun same => other (beq_iff_eq.2 same.symm), ih (split ▸ List.mem_cons_self)⟩
      · exact ih (split ▸ List.mem_cons_of_mem head among)

end Text

/-- Identities have no separators in them. -/
theorem InstanceId.isSolid_text (series : Nat) (id : InstanceId) :
    Text.IsSolid (id.text series) := by
  have hex : ∀ count n, ∀ c ∈ hexDigits count n, ¬ Text.Separates c := by
    intro count n c member
    rcases List.mem_append.1 member with zero | digit
    · rw [List.eq_of_mem_replicate zero]
      decide
    · exact Text.not_separates_of_mem_toDigits (by decide) (by decide) n c digit
  intro c member separates
  have dash : c ∉ "-".toList := by
    rcases separates with rfl | rfl | rfl <;> decide
  rw [text, String.toList_intercalate, Text.mem_intercalate dash] at member
  obtain ⟨part, among, member⟩ := member
  simp only [List.map_cons, List.map_nil, String.toList_ofList, List.mem_cons,
    List.not_mem_nil, or_false] at among
  have digits : ∀ c ∈ (hexDigits 18 series).drop ((hexDigits 18 series).length - 18),
      ¬ Text.Separates c := fun c member => hex 18 series c (List.mem_of_mem_drop member)
  rcases among with rfl | rfl | rfl | rfl | rfl
  · exact digits c (List.mem_of_mem_take member) separates
  · exact digits c (List.mem_of_mem_drop (List.mem_of_mem_take member)) separates
  · rcases List.mem_cons.1 member with rfl | member
    · exact absurd separates (by decide)
    · exact digits c (List.mem_of_mem_drop (List.mem_of_mem_take member)) separates
  · rcases List.mem_cons.1 member with rfl | member
    · exact absurd separates (by decide)
    · exact digits c (List.mem_of_mem_drop member) separates
  · exact hex 12 id.index c member separates

namespace Event

variable {event : Event} {label : InstanceId → String} {c : Char}

/-! ### What stands in an event -/

/-- The names in an event are identifiers.  Other events than these are not about
definitions, instances and views. -/
def IsNamed : Event → Prop
  | interfaceRegistered name _ base _ =>
      Text.IsIdentifier name ∧ ∀ other, base = some other → Text.IsIdentifier other
  | typeRegistered name _ _ => Text.IsIdentifier name
  | interfaceEvicted name => Text.IsIdentifier name
  | typeEvicted name => Text.IsIdentifier name
  | documentLoaded _ _ => True
  | fieldRefused _ interface _ _ => Text.IsIdentifier interface
  | slotRefused _ type _ _ => Text.IsIdentifier type
  | changeRefused _ _ => True
  | _ => False

/-- The text in such an event that may be any. -/
def freeText : Event → String
  | typeRegistered _ kind _ => kind.display
  | fieldRefused _ _ field _ => field
  | slotRefused _ _ field _ => field
  | changeRefused _ key => key
  | _ => ""

/-- A token as it is written. -/
def spell (token : String × String) : String := token.1 ++ "=" ++ token.2

/-- The line of an event is one line, and what stands between its spaces are its tokens. -/
structure IsReadable (label : InstanceId → String) (event : Event) : Prop where
  /-- Nothing breaks the line. -/
  unbroken : '\n' ∉ (event.line label).toList ∧ '\r' ∉ (event.line label).toList
  /-- It is split into its tokens. -/
  split : (event.line label).toList.splitOn ' ' =
    (event.tokens label).map fun token => (spell token).toList

theorem isSolid_code (cause : Violation) : Text.IsSolid cause.code := by
  cases cause with
  | frozen change key => cases change <;> (rw [Violation.code]; decide)
  | _ => rw [Violation.code]; decide

/-- All else that stands in a named event is solid. -/
theorem isSolid_of_mem_tokens (named : event.IsNamed) (solid : ∀ id, Text.IsSolid (label id))
    {token : String × String} (member : token ∈ event.tokens label) :
    Text.IsSolid token.1 ∧ (Text.IsSolid token.2 ∨ token.2 = event.freeText) := by
  have flag (b : Bool) : Text.IsSolid (toString b) := by cases b <;> decide
  revert token
  cases event with
  | interfaceRegistered name fields base replaced =>
    have extended : Text.IsSolid (base.getD "-") := by
      cases base with
      | none => decide
      | some base => exact Text.isSolid_of_isIdentifier (named.2 base rfl)
    simp +decide [tokens, Text.isSolid_of_isIdentifier named.1, Text.isSolid_repr, extended,
      flag]
  | typeRegistered name kind replaced =>
    simp +decide [tokens, Text.isSolid_of_isIdentifier named, flag, freeText]
  | interfaceEvicted name | typeEvicted name =>
    simp +decide [tokens, Text.isSolid_of_isIdentifier named]
  | documentLoaded kinds interfaces => simp +decide [tokens, Text.isSolid_repr]
  | fieldRefused id name field cause | slotRefused id name field cause =>
    simp +decide [tokens, Text.isSolid_of_isIdentifier named, solid, isSolid_code, freeText]
  | changeRefused change key => cases change <;> simp +decide [tokens, freeText]
  | _ => exact named.elim

/-- The free text is the value of a token. -/
theorem exists_mem_tokens_of_freeText (label : InstanceId → String)
    (member : c ∈ event.freeText.toList) :
    ∃ token ∈ event.tokens label, token.2 = event.freeText := by
  cases event with
  | typeRegistered name kind replaced => exact ⟨("kind", kind.display), by simp [tokens], rfl⟩
  | fieldRefused id interface field cause => exact ⟨("field", field), by simp [tokens], rfl⟩
  | slotRefused id type field cause => exact ⟨("field", field), by simp [tokens], rfl⟩
  | changeRefused change key => exact ⟨("key", key), by simp [tokens], rfl⟩
  | _ => cases member

/-- **What ends tokens or lines comes from the free text.** -/
theorem exists_mem_tokens_iff (named : event.IsNamed) (solid : ∀ id, Text.IsSolid (label id))
    (separates : Text.Separates c) :
    (∃ token ∈ event.tokens label, c ∈ (spell token).toList) ↔ c ∈ event.freeText.toList := by
  constructor
  · rintro ⟨token, member, inside⟩
    obtain ⟨key, value⟩ := isSolid_of_mem_tokens named solid member
    rw [spell, String.toList_append, String.toList_append, List.mem_append, List.mem_append]
      at inside
    rcases inside with (inKey | equals) | inValue
    · exact absurd separates (key c inKey)
    · exact absurd separates ((by decide : Text.IsSolid "=") c equals)
    · rcases value with value | free
      · exact absurd separates (value c inValue)
      · rw [← free]
        exact inValue
  · intro member
    obtain ⟨token, among, free⟩ := exists_mem_tokens_of_freeText label member
    refine ⟨token, among, ?_⟩
    rw [spell, String.toList_append, List.mem_append, free]
    exact .inr member

theorem toList_line (event : Event) (label : InstanceId → String) :
    (event.line label).toList =
      [' '].intercalate ((event.tokens label).map fun token => (spell token).toList) := by
  rw [line, String.toList_intercalate, List.map_map]
  rfl

/-- An event is on one line if its free text is. -/
theorem line_unbroken_iff (named : event.IsNamed) (solid : ∀ id, Text.IsSolid (label id)) :
    ('\n' ∉ (event.line label).toList ∧ '\r' ∉ (event.line label).toList) ↔
      '\n' ∉ event.freeText.toList ∧ '\r' ∉ event.freeText.toList := by
  have breaks (c : Char) (separates : Text.Separates c) (other : c ∉ [' ']) :
      c ∈ (event.line label).toList ↔ c ∈ event.freeText.toList := by
    rw [toList_line, Text.mem_intercalate other, ← exists_mem_tokens_iff named solid separates]
    simp only [List.mem_map, exists_exists_and_eq_and]
  rw [breaks '\n' (by decide) (by decide), breaks '\r' (by decide) (by decide)]

/-- Its line is split into its tokens if the free text has no space. -/
theorem splitOn_line_iff (named : event.IsNamed) (solid : ∀ id, Text.IsSolid (label id)) :
    (event.line label).toList.splitOn ' ' =
        (event.tokens label).map (fun token => (spell token).toList) ↔
      ' ' ∉ event.freeText.toList := by
  rw [← exists_mem_tokens_iff named solid (by decide : Text.Separates ' '), toList_line]
  constructor
  · rintro apart ⟨token, member, inside⟩
    have part : (spell token).toList ∈ (event.tokens label).map fun token => (spell token).toList :=
      List.mem_map_of_mem member
    rw [← apart] at part
    exact Text.not_mem_of_mem_splitOn part inside
  · intro none
    refine List.splitOn_intercalate ' ' (fun part among inside => ?_) ?_
    · obtain ⟨token, member, rfl⟩ := List.mem_map.1 among
      exact none ⟨token, member, inside⟩
    · cases event <;> exact List.cons_ne_nil _ _

/-- **An event is readable if its free text is solid.** -/
theorem isReadable_iff (named : event.IsNamed) (solid : ∀ id, Text.IsSolid (label id)) :
    event.IsReadable label ↔ Text.IsSolid event.freeText := by
  have unbroken := line_unbroken_iff named solid
  have split := splitOn_line_iff named solid
  constructor
  · rintro readable c member (rfl | rfl | rfl)
    · exact split.1 readable.split member
    · exact (unbroken.1 readable.unbroken).1 member
    · exact (unbroken.1 readable.unbroken).2 member
  · intro free
    exact
      { unbroken := unbroken.2 ⟨fun member => free '\n' member (.inr (.inl rfl)),
          fun member => free '\r' member (.inr (.inr rfl))⟩
        split := split.2 fun member => free ' ' member (.inl rfl) }

end Event

end Contracts
