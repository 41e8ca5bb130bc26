import Contracts.Json.Reader
import Contracts.Proofs.Dict
import Mathlib.Data.List.Forall2
import Mathlib.Data.Nat.Init

/-!
# Reading what was written

A reader **takes** a text as a value if it finds the value at the front of any characters
that begin with the text, and leaves those after it.  For each way in which texts of values
are put together there is one fact here that says which reader takes the result, so that
the reader of a format takes what the format writes as soon as both are put together alike.

## Main definitions

* `Json.Reader.Finds` — what is found at the front of some characters, and what is left.
* `Json.Reader.Takes` — a text is taken as a value, whatever follows it.
* `Json.Opens` — a text does not start with a blank or a closing bracket.
* `Json.Gathers` — members change a state one after the other.

## Main results

* `Json.takes_readString` — a text is read back from between its quotes.
* `Json.takes_readItems`, `Json.takes_readMembers` — so are lists and objects, if their parts
  are.
* `Json.printChars_array`, `Json.printChars_object` — how they are printed.
* `Json.readWhole_of_takes` — **whole texts.**
-/

namespace Contracts.Json

variable {α β σ : Type}

/-! ### Taking a text -/

namespace Reader

/-- A reader finds a value at the front of some characters, and leaves the rest. -/
def Finds (reader : Reader α) (input : List Char) (value : α) (rest : List Char) : Prop :=
  ∃ shorter, reader input = .ok ⟨value, rest, shorter⟩

/-- A reader finds a value in whatever begins with a text, and leaves what follows. -/
def Takes (reader : Reader α) (text : List Char) (value : α) : Prop :=
  ∀ follow, reader.Finds (text ++ follow) value follow

variable {reader : Reader α} {text input rest : List Char} {value : α}

theorem Finds.map (h : reader.Finds input value rest) (f : α → β) :
    (Reader.map f reader).Finds input (f value) rest := by
  obtain ⟨shorter, read⟩ := h
  exact ⟨shorter, by rw [Reader.map, read]; rfl⟩

theorem Takes.map (h : reader.Takes text value) (f : α → β) :
    (Reader.map f reader).Takes text (f value) :=
  fun follow => (h follow).map f

end Reader

/-- **Whole texts**: what is taken is read if nothing follows. -/
theorem readWhole_of_takes {reader : Reader α} {text : List Char} {value : α}
    (h : reader.Takes text value) : readWhole reader (String.ofList text) = .ok value := by
  have found := h []
  rw [List.append_nil, ← String.toList_ofList (l := text)] at found
  obtain ⟨shorter, read⟩ := found
  rw [readWhole, read]
  rfl

/-! ### Strings -/

/-- The escape of a control character spells its number. -/
theorem hexQuad?_of_lt {n : Nat} (h : n < 0x20) :
    hexQuad? '0' '0' (Nat.digitChar (n / 16)) (Nat.digitChar (n % 16)) = some n := by
  have all : ∀ m : Fin 0x20,
      hexQuad? '0' '0' (Nat.digitChar (m / 16)) (Nat.digitChar (m % 16)) = some m.1 := by
    decide
  exact all ⟨n, h⟩

/-- A letter after a backslash stands for a character. -/
theorem takes_readEscape_letter {letter meant : Char} (other : letter ≠ 'u')
    (found : unescape? letter = some meant) : readEscape.Takes [letter] meant := by
  intro follow
  refine ⟨Nat.lt_succ_self _, ?_⟩
  simp only [List.singleton_append, readEscape, if_neg other, found]

/-- So do four digits, if it is no half of a surrogate pair. -/
theorem takes_readEscape_control {c : Char} (control : c.toNat < 0x20) :
    readEscape.Takes
      ['u', '0', '0', Nat.digitChar (c.toNat / 16), Nat.digitChar (c.toNat % 16)] c := by
  intro follow
  have low : isLowSurrogate c.toNat = false := by
    simp only [isLowSurrogate, Bool.and_eq_false_iff, decide_eq_false_iff_not]
    omega
  have high : isHighSurrogate c.toNat = false := by
    simp only [isHighSurrogate, Bool.and_eq_false_iff, decide_eq_false_iff_not]
    omega
  refine ⟨by simp only [List.length_append, List.length_cons, List.length_nil]; omega, ?_⟩
  simp only [List.cons_append, List.nil_append, readEscape, if_pos, readHexQuad,
    hexQuad?_of_lt control, low, high, Bool.false_eq_true, if_false, Char.ofNat_toNat]

/-- A character stands for itself in a string, or its escape means it. -/
theorem escape_cases (c : Char) :
    escape c = [c] ∧ c ≠ '"' ∧ c ≠ '\\' ∧ ¬ c.toNat < 0x20 ∨
      ∃ letters, escape c = '\\' :: letters ∧ readEscape.Takes letters c := by
  unfold escape
  split
  case h_8 notQuote notSlash _ _ _ _ _ =>
    split
    · next control => exact .inr ⟨_, rfl, takes_readEscape_control control⟩
    · next notControl => exact .inl ⟨rfl, notQuote, notSlash, notControl⟩
  -- the others have a letter each
  all_goals exact .inr ⟨_, rfl, takes_readEscape_letter (by decide) rfl⟩

section Characters

variable {escape : Reader Char} {control : List Char → Fault} {c meant : Char}
  {rest after follow characters : List Char}

theorem finds_readCharacters_plain
    (h : Reader.Finds (readCharacters escape control) rest characters follow) (notQuote : c ≠ '"')
    (notSlash : c ≠ '\\') (notControl : ¬ c.toNat < 0x20) :
    Reader.Finds (readCharacters escape control) (c :: rest) (c :: characters) follow := by
  obtain ⟨shorter, read⟩ := h
  refine ⟨Nat.lt_succ_of_lt shorter, ?_⟩
  rw [readCharacters, if_neg notQuote, if_neg notSlash, if_neg notControl, read]
  rfl

theorem finds_readCharacters_escape
    (h : Reader.Finds (readCharacters escape control) after characters follow)
    (found : escape.Finds rest meant after) :
    Reader.Finds (readCharacters escape control) ('\\' :: rest) (meant :: characters) follow := by
  obtain ⟨shorter, read⟩ := h
  obtain ⟨shorter', escaped⟩ := found
  refine ⟨Nat.lt_succ_of_lt (Nat.lt_trans shorter shorter'), ?_⟩
  rw [readCharacters, if_neg (by decide), if_pos rfl, escaped]
  dsimp only
  rw [read]
  rfl

theorem finds_readCharacters_quote :
    Reader.Finds (readCharacters escape control) ('"' :: follow) [] follow :=
  ⟨Nat.lt_succ_self _, by rw [readCharacters, if_pos rfl]⟩

end Characters

theorem takes_readCharacters (control : List Char → Fault) (characters : List Char) :
    Reader.Takes (readCharacters readEscape control) (characters.flatMap escape ++ ['"'])
      characters := by
  intro follow
  rw [List.append_assoc]
  induction characters with
  | nil => exact finds_readCharacters_quote
  | cons c rest ih =>
    rw [List.flatMap_cons, List.append_assoc]
    rcases escape_cases c with ⟨same, notQuote, notSlash, notControl⟩ | ⟨letters, escaped, meant⟩
    · rw [same]
      exact finds_readCharacters_plain ih notQuote notSlash notControl
    · rw [escaped]
      exact finds_readCharacters_escape ih (meant _)

/-- **Strings**: a text is read back from behind the opening quote. -/
theorem takes_readString (s : String) :
    Reader.Takes readString (s.toList.flatMap escape ++ ['"']) s := by
  have taken := (takes_readCharacters (.onto .controlCharacter) s.toList).map String.ofList
  rwa [String.ofList_toList] at taken

/-! ### Values -/

/-- A text starts neither with a blank nor with a closing bracket. -/
def Opens (text : List Char) : Prop :=
  ∃ c rest, text = c :: rest ∧ isBlank c = false ∧ c ≠ ']'

theorem skipBlank_cons {c : Char} (h : isBlank c = false) (rest : List Char) :
    skipBlank (c :: rest) = c :: rest :=
  List.dropWhile_cons_of_neg (by simp [h])

section Dispatch

variable {scalar : Scalar → Except Reason α} {list object reader : Reader α} {value : α}
  {text input rest : List Char}

theorem finds_dispatch_list (h : list.Finds ('[' :: input) value rest) :
    (dispatch scalar list object).Finds ('[' :: input) value rest := by
  obtain ⟨shorter, read⟩ := h
  refine ⟨shorter, ?_⟩
  change (list ('[' :: input)).map (·.widen (Nat.le_refl _)) = _
  rw [read]
  rfl

theorem finds_dispatch_object (h : object.Finds ('\x7b' :: input) value rest) :
    (dispatch scalar list object).Finds ('\x7b' :: input) value rest := by
  obtain ⟨shorter, read⟩ := h
  refine ⟨shorter, ?_⟩
  change (object ('\x7b' :: input)).map (·.widen (Nat.le_refl _)) = _
  rw [read]
  rfl

theorem finds_dispatch_scalar {found : Scalar} {c : Char}
    (h : readScalar.Finds (c :: input) found rest) (notBlank : isBlank c = false)
    (noList : c ≠ '[') (noObject : c ≠ '\x7b') (taken : scalar found = .ok value) :
    (dispatch scalar list object).Finds (c :: input) value rest := by
  obtain ⟨shorter, read⟩ := h
  refine ⟨shorter, ?_⟩
  unfold dispatch
  generalize length_skipBlank_le (c :: input) = whole
  revert whole
  rw [skipBlank_cons notBlank input]
  intro whole
  dsimp only
  split
  · next starts _ => cases starts; exact absurd rfl noList
  · next starts _ => cases starts; exact absurd rfl noObject
  · rw [read]
    simp only [taken]

theorem takes_dispatch_list (h : list.Takes ('[' :: text) value) :
    (dispatch scalar list object).Takes ('[' :: text) value :=
  fun follow => finds_dispatch_list (h follow)

theorem takes_dispatch_object (h : object.Takes ('\x7b' :: text) value) :
    (dispatch scalar list object).Takes ('\x7b' :: text) value :=
  fun follow => finds_dispatch_object (h follow)

theorem takes_dispatch_null (h : scalar .null = .ok value) :
    (dispatch scalar list object).Takes (printChars .null) value :=
  fun follow => finds_dispatch_scalar
    ⟨Nat.lt_succ_of_le (List.suffix_append ['u', 'l', 'l'] follow).length_le, rfl⟩
    rfl (by decide) (by decide) h

theorem takes_dispatch_string {s : String} (h : scalar (.string s) = .ok value) :
    (dispatch scalar list object).Takes (printString s) value := by
  intro follow
  obtain ⟨shorter, read⟩ := takes_readString s follow
  have found : readScalar.Finds (printString s ++ follow) (.string s) follow :=
    ⟨Nat.lt_succ_of_lt shorter, by
      change (readString (s.toList.flatMap escape ++ ['"'] ++ follow)).map _ = _
      rw [read]
      rfl⟩
  exact finds_dispatch_scalar found rfl (by decide) (by decide) h

theorem takes_stepInside (h : reader.Takes text value) (c : Char) :
    (stepInside reader).Takes (c :: text) value := by
  intro follow
  obtain ⟨shorter, read⟩ := h follow
  refine ⟨Nat.lt_succ_of_lt shorter, ?_⟩
  change (reader (text ++ follow)).map _ = _
  rw [read]
  rfl

end Dispatch

/-! ### Lists and objects -/

/-- What stands before an item: a comma, unless it is the first. -/
def separator (first : Bool) : List Char := if first then [] else [',']

theorem commaSeparated_cons (text : List Char) (rest : List (List Char)) :
    commaSeparated (text :: rest) = text ++ rest.flatMap (separator false ++ ·) := by
  induction rest generalizing text with
  | nil => rw [commaSeparated, List.flatMap_nil, List.append_nil]
  | cons next rest ih =>
    rw [commaSeparated, ih, List.flatMap_cons]
    · rfl
    · exact List.cons_ne_nil next rest

section Items

variable {item : Reader α} {first : Bool} {text input follow : List Char} {value : α}
  {values : List α}

theorem listTurn_closed (first : Bool) (follow : List Char) :
    listTurn first (']' :: follow) = .ok (.closed follow (length_lt_cons _ _)) := rfl

theorem listTurn_more (h : Opens text) (first : Bool) (follow : List Char) :
    ∃ notLonger, listTurn first (separator first ++ (text ++ follow)) =
      .ok (.more (text ++ follow) notLonger) := by
  obtain ⟨c, rest, rfl, notBlank, notClosed⟩ := h
  rw [List.cons_append]
  have same := skipBlank_cons notBlank (rest ++ follow)
  cases first with
  | true =>
    refine ⟨Nat.le_refl _, ?_⟩
    change listTurn true (c :: (rest ++ follow)) = _
    unfold listTurn
    split
    · next starts => rw [same] at starts; cases starts
    · next starts =>
      rw [same] at starts
      cases starts
      rw [if_neg notClosed, if_pos rfl]
      rfl
  | false =>
    refine ⟨Nat.le_succ _, ?_⟩
    change listTurn false (',' :: c :: (rest ++ follow)) = _
    have comma : skipBlank (',' :: c :: (rest ++ follow)) = ',' :: c :: (rest ++ follow) := rfl
    unfold listTurn
    split
    · next starts => rw [comma] at starts; cases starts
    · next starts =>
      rw [comma] at starts
      cases starts
      rw [if_neg (by decide), if_neg Bool.false_ne_true, if_pos rfl]
      split
      · next starts => rw [same] at starts; cases starts
      · next starts =>
        rw [same] at starts
        cases starts
        rw [if_neg notClosed]
        rfl

theorem finds_readItems_nil : Reader.Finds (readItems item first) (']' :: follow) [] follow :=
  ⟨length_lt_cons _ _, by rw [readItems, listTurn_closed]⟩

theorem finds_readItems_cons (taken : item.Takes text value) (opens : Opens text)
    (more : Reader.Finds (readItems item false) input values follow) :
    Reader.Finds (readItems item first) (separator first ++ (text ++ input)) (value :: values)
      follow := by
  obtain ⟨shorter, read⟩ := taken input
  obtain ⟨shorter', rest⟩ := more
  obtain ⟨notLonger, turn⟩ := listTurn_more opens first input
  refine ⟨Nat.lt_of_lt_of_le (Nat.lt_trans shorter' shorter) notLonger, ?_⟩
  rw [readItems, turn]
  dsimp only
  rw [read]
  dsimp only
  rw [rest]
  rfl

/-- **Lists**: what stands between the brackets is read item by item. -/
theorem takes_readItems {texts : List (List Char)}
    (h : List.Forall₂ (fun text value => item.Takes text value ∧ Opens text) texts values) :
    Reader.Takes (readItems item true) (commaSeparated texts ++ [']']) values := by
  intro follow
  -- behind the first item each one has its comma before it
  have behind {texts values}
      (h : List.Forall₂ (fun text value => item.Takes text value ∧ Opens text) texts values) :
      Reader.Finds (readItems item false) (texts.flatMap (separator false ++ ·) ++ ']' :: follow)
        values follow := by
    induction h with
    | nil => exact finds_readItems_nil
    | cons taken _ ih =>
      rw [List.flatMap_cons, List.append_assoc, List.append_assoc]
      exact finds_readItems_cons taken.1 taken.2 ih
  cases h with
  | nil => exact finds_readItems_nil
  | cons taken rest =>
    rw [commaSeparated_cons, List.append_assoc, List.append_assoc]
    exact finds_readItems_cons taken.1 taken.2 (behind rest)

end Items

section Members

variable {member : σ → String → Except Reason (Reader σ)} {first : Bool} {state next final : σ}
  {key : String} {value : Reader σ} {text input follow : List Char}

/-- The text of a member. -/
def memberText (entry : String × List Char) : List Char := printString entry.1 ++ ':' :: entry.2

/-- Reading some members, each given by its key and the text of its value, leads from one
state to another. -/
inductive Gathers (member : σ → String → Except Reason (Reader σ)) :
    σ → List (String × List Char) → σ → Prop
  | nil (state : σ) : Gathers member state [] state
  | cons {state next final : σ} {key : String} {value : Reader σ} {text : List Char}
      {rest : List (String × List Char)} (accepted : member state key = .ok value)
      (taken : value.Takes text next) (more : Gathers member next rest final) :
      Gathers member state ((key, text) :: rest) final

theorem objectTurn_closed (first : Bool) (follow : List Char) :
    objectTurn first ('\x7d' :: follow) = .ok (.closed follow (length_lt_cons _ _)) := rfl

theorem objectTurn_more (first : Bool) (input : List Char) :
    ∃ notLonger, objectTurn first (separator first ++ '"' :: input) =
      .ok (.more input notLonger) := by
  cases first with
  | true => exact ⟨Nat.le_succ _, rfl⟩
  | false => exact ⟨Nat.le_succ_of_le (Nat.le_succ _), rfl⟩

theorem readColon_colon (rest : List Char) :
    readColon (':' :: rest) = .ok ⟨(), rest, length_lt_cons _ _⟩ := rfl

theorem finds_readMembers_nil :
    Reader.Finds (readMembers member first state) ('\x7d' :: follow) state follow :=
  ⟨length_lt_cons _ _, by rw [readMembers, objectTurn_closed]⟩

theorem finds_readMembers_cons (accepted : member state key = .ok value)
    (taken : value.Takes text next)
    (more : Reader.Finds (readMembers member false next) input final follow) :
    Reader.Finds (readMembers member first state)
      (separator first ++ (memberText (key, text) ++ input)) final follow := by
  have split : memberText (key, text) ++ input =
      '"' :: (key.toList.flatMap escape ++ ['"'] ++ ':' :: (text ++ input)) := by
    simp only [memberText, printString, List.cons_append, List.append_assoc, List.nil_append]
  obtain ⟨afterKey, readKey⟩ := takes_readString key (':' :: (text ++ input))
  obtain ⟨afterValue, readValue⟩ := taken input
  obtain ⟨shorter, rest⟩ := more
  rw [split]
  obtain ⟨notLonger, turn⟩ := objectTurn_more first
    (key.toList.flatMap escape ++ ['"'] ++ ':' :: (text ++ input))
  have afterColon := Nat.lt_trans (length_lt_cons ':' (text ++ input)) afterKey
  refine ⟨Nat.lt_of_lt_of_le (Nat.lt_trans shorter (Nat.lt_trans afterValue afterColon))
    notLonger, ?_⟩
  rw [readMembers, turn]
  dsimp only
  rw [readKey]
  dsimp only
  rw [accepted]
  dsimp only
  rw [readColon_colon]
  dsimp only
  rw [readValue]
  dsimp only
  rw [rest]
  rfl

/-- **Objects**: what stands between the braces is read member by member. -/
theorem takes_readMembers {members : List (String × List Char)}
    (h : Gathers member state members final) :
    Reader.Takes (readMembers member true state)
      (commaSeparated (members.map memberText) ++ ['\x7d']) final := by
  intro follow
  have behind {state members final} (h : Gathers member state members final) :
      Reader.Finds (readMembers member false state)
        ((members.map memberText).flatMap (separator false ++ ·) ++ '\x7d' :: follow)
        final follow := by
    induction h with
    | nil => exact finds_readMembers_nil
    | cons accepted taken _ ih =>
      rw [List.map_cons, List.flatMap_cons, List.append_assoc, List.append_assoc]
      exact finds_readMembers_cons accepted taken ih
  cases h with
  | nil => exact finds_readMembers_nil
  | cons accepted taken rest =>
    rw [List.map_cons, commaSeparated_cons, List.append_assoc, List.append_assoc]
    exact finds_readMembers_cons accepted taken (behind rest)

end Members

/-- **Objects with one reader**: a dictionary is read back from the texts of its values. -/
theorem takes_readDict {value : Reader β} {text : β → List Char} (dict : Dict β)
    (h : ∀ entry ∈ dict.entries, value.Takes (text entry.2) entry.2) :
    (readDict value).Takes
      (commaSeparated (dict.entries.map fun entry => memberText (entry.1, text entry.2)) ++
        ['\x7d'])
      dict := by
  have gathers (entries : List (String × β))
      (h : ∀ entry ∈ entries, value.Takes (text entry.2) entry.2) (start : Dict β) :
      Gathers (fun dict key => .ok (Reader.map (dict.insert key) value)) start
        (entries.map fun entry => (entry.1, text entry.2))
        (entries.foldl (fun dict entry => dict.insert entry.1 entry.2) start) := by
    induction entries generalizing start with
    | nil => exact .nil start
    | cons entry rest ih =>
      have ⟨taken, others⟩ := List.forall_mem_cons.1 h
      exact .cons rfl (taken.map _) (ih others _)
  have whole := takes_readMembers (gathers dict.entries h .empty)
  change (readDict value).Takes _ (Dict.ofList dict.entries) at whole
  rwa [Dict.ofList_entries, List.map_map] at whole

/-! ### Printed values -/

theorem takes_readJson_string (depth : Nat) (s : String) :
    (readJson depth).Takes (printChars (.string s)) (.string s) := by
  cases depth <;> exact takes_dispatch_string rfl

theorem takes_readJson_null (depth : Nat) : (readJson depth).Takes (printChars .null) .null := by
  cases depth <;> exact takes_dispatch_null rfl

theorem printChars_array (items : List Json) :
    printChars (.array items) = '[' :: (commaSeparated (items.map printChars) ++ [']']) := by
  have same : printItems items = items.map printChars := by
    induction items with
    | nil => rfl
    | cons item rest ih => rw [printItems, ih, List.map_cons]
  rw [printChars, same, List.cons_append]

theorem printChars_object (members : List (String × Json)) :
    printChars (.object members) =
      '\x7b' :: (commaSeparated
        ((members.map fun entry => (entry.1, entry.2.printChars)).map memberText) ++ ['\x7d']) := by
  have same : printMembers members =
      (members.map fun entry => (entry.1, entry.2.printChars)).map memberText := by
    induction members with
    | nil => rfl
    | cons entry rest ih =>
      rw [printMembers, ih]
      rfl
  rw [printChars, same, List.cons_append]

/-- A list of texts is read as it was written. -/
theorem takes_readJson_strings (depth : Nat) (strings : List String) :
    (readJson (depth + 1)).Takes (printChars (.array (strings.map .string)))
      (.array (strings.map .string)) := by
  rw [printChars_array]
  refine takes_dispatch_list (takes_stepInside ((takes_readItems ?_).map Json.array) _)
  rw [List.forall₂_map_left_iff, List.forall₂_same]
  intro item member
  obtain ⟨s, _, rfl⟩ := List.mem_map.1 member
  exact ⟨takes_readJson_string depth s, '"', _, rfl, rfl, by decide⟩

end Contracts.Json
