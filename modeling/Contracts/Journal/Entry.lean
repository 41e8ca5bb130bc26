import Contracts.Event

/-!
# Entries of a journal

A journal is kept as text, an entry to a line: in brackets when it was written, its
level, in brackets where it comes from, and the line of an event.  Other lines are no
entries, so a line break inside an event ends its entry.

## Main definitions

* `Entry` — the level of an entry and its text, from the name of the event on.
* `Event.entry` — the entry of an event.
* `Entry.read` — the entries of a text.
* `Entry.splitAtIdentity` — the identity of the instance that an entry names.
* `Entry.number` — entries with numbers in place of those identities.
-/

namespace Contracts

/-- An entry of a journal. -/
structure Entry where
  /-- The word for the level. -/
  level : String
  /-- What happened. -/
  text : String
  deriving DecidableEq, Repr

/-- The entry of an event in a run with a series of instances. -/
def Event.entry (series : Nat) (event : Event) : Entry :=
  ⟨event.level.text.toUpper, event.line (InstanceId.text series)⟩

namespace Entry

/-! ### Marks in a text -/

/-- The characters before the first occurrence of a mark, and those from it on. -/
def splitAtMark (mark : List Char) : List Char → Option (List Char × List Char)
  | [] => none
  | c :: rest =>
      if mark.isPrefixOf (c :: rest) then some ([], c :: rest)
      else (splitAtMark mark rest).map fun (before, found) => (c :: before, found)

/-- The text around the first value given to a key, and that value, which ends before
the next space. -/
def splitAtValue (key : String) (text : String) : Option (String × String × String) :=
  let mark := (key ++ "=").toList
  (splitAtMark mark text.toList).map fun (before, found) =>
    let found := found.drop mark.length
    (String.ofList (before ++ mark), String.ofList (found.takeWhile (· ≠ ' ')),
      String.ofList (found.dropWhile (· ≠ ' ')))

/-- Put another value in the place of the first one given to a key. -/
def mapValue (key : String) (f : String → String) (entry : Entry) : Entry :=
  match splitAtValue key entry.text with
  | none => entry
  | some (before, value, after) => { entry with text := before ++ f value ++ after }

/-! ### Reading -/

/-- The lines of a text; a break is a line feed, and a carriage return before it
belongs to it. -/
def splitLines : List Char → List (List Char)
  | [] => []
  | '\n' :: rest => [] :: splitLines rest
  | '\r' :: '\n' :: rest => [] :: splitLines rest
  | c :: rest =>
      match splitLines rest with
      | [] => [[c]]
      | line :: lines => (c :: line) :: lines

/-- The entry of a line. -/
def ofLine? (line : List Char) : Option Entry := do
  let (before, text) ← splitAtMark "event=".toList line
  let (_, after) ← splitAtMark "] ".toList before
  return ⟨String.ofList ((after.drop 2).takeWhile (· ≠ ' ')), String.ofList text⟩

/-- The entries of a text. -/
def read (text : String) : List Entry := (splitLines text.toList).filterMap ofLine?

/-! ### Instances -/

/-- How many digits there are in each group of an identity. -/
def identityGroups : List Nat := [8, 4, 4, 4, 12]

/-- How many characters an identity has. -/
abbrev identityLength : Nat := 36

/-- Whether a character is a hexadecimal digit. -/
def isHexDigit (c : Char) : Bool :=
  c.isDigit || ('a' ≤ c && c ≤ 'f') || ('A' ≤ c && c ≤ 'F')

/-- Whether characters are groups of hexadecimal digits with dashes between them. -/
def isGrouped : List Nat → List Char → Bool
  | [], text => text.isEmpty
  | [count], text => text.length == count && text.all isHexDigit
  | count :: groups, text =>
      (text.take count).all isHexDigit && (text.drop count).head? == some '-' &&
        isGrouped groups (text.drop (count + 1))

/-- The text around the identity of the instance that it names, and that identity.  It
stands right after the first `instance=`; anything else there names no instance. -/
def splitAtIdentity (text : String) : Option (String × String × String) := do
  let mark := "instance=".toList
  let (before, found) ← splitAtMark mark text.toList
  let found := found.drop mark.length
  let identity := found.take identityLength
  if isGrouped identityGroups identity then
    return (String.ofList (before ++ mark), String.ofList identity,
      String.ofList (found.drop identityLength))
  else none

/-- The identity of the instance that an entry names. -/
def identity? (entry : Entry) : Option String :=
  (splitAtIdentity entry.text).map fun (_, identity, _) => identity

/-- The identities that were named before and in further entries, by first mention. -/
def mention (mentioned : List String) (entries : List Entry) : List String :=
  entries.foldl (fun mentioned entry =>
    match entry.identity? with
    | some identity =>
        if identity ∈ mentioned then mentioned else mentioned ++ [identity]
    | none => mentioned) mentioned

/-- Number instances in the order in which they were mentioned. -/
def number (mentioned : List String) (entries : List Entry) : List Entry :=
  entries.map fun entry =>
    match splitAtIdentity entry.text with
    | none => entry
    | some (before, identity, after) =>
        { entry with
          text := before ++ "#" ++ toString (mentioned.idxOf identity + 1) ++ after }

end Entry

end Contracts
