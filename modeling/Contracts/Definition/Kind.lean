import Contracts.Heap.Value

/-!
# Kinds

A **kind** says which values a field or a slot may hold.  It is one tag, or a list of
tags any of which will do.  Five tags are known and each is that of a sort of values;
any other tag is kept as it was written and no value has it.

## Main definitions

* `Tag`, `Kind` — tags and kinds.
* `Tag.of`, `Tag.text` — tags from and to their spelling.
* `Tag.fits` — whether a value is of the sort a tag names.
* `Kind.accepts` — whether a value is of a kind.
* `Kind.display` — a kind in words.
-/

namespace Contracts

/-- The name of a sort of values. -/
inductive Tag where
  /-- Texts. -/
  | string : Tag
  /-- Numbers. -/
  | number : Tag
  /-- Truth values. -/
  | boolean : Tag
  /-- Records and arrays. -/
  | object : Tag
  /-- Functions. -/
  | function : Tag
  /-- Any other name. -/
  | unknown (spelling : String) : Tag
  deriving DecidableEq, Repr

namespace Tag

/-- The spelling of a tag. -/
def text : Tag → String
  | .string => "string"
  | .number => "number"
  | .boolean => "boolean"
  | .object => "object"
  | .function => "function"
  | .unknown spelling => spelling

/-- The tags that values have. -/
def known : List Tag := [.string, .number, .boolean, .object, .function]

/-- The tag with a spelling, in which case matters. -/
def of (spelling : String) : Tag :=
  (known.find? fun tag => tag.text == spelling).getD (.unknown spelling)

/-- Whether values can have the tag. -/
def isKnown : Tag → Bool
  | .unknown _ => false
  | _ => true

/-- Whether a value is of the sort that a tag names.  Null reports to be an object but
is none. -/
def fits (tag : Tag) (value : Value) : Bool :=
  match tag with
  | .string => value.category == .string
  | .number => value.category == .number
  | .boolean => value.category == .boolean
  | .object => value.category == .object && !value.isNull
  | .function => value.category == .function
  | .unknown _ => false

end Tag

/-- A condition on values. -/
inductive Kind where
  /-- Values of one tag. -/
  | single (tag : Tag) : Kind
  /-- Values of any of some tags. -/
  | anyOf (tags : List Tag) : Kind
  deriving DecidableEq, Repr

namespace Kind

/-- The tags that a kind names. -/
def tags : Kind → List Tag
  | .single tag => [tag]
  | .anyOf tags => tags

/-- Whether a value is of the kind.  No value is of a kind without tags. -/
def accepts (kind : Kind) (value : Value) : Bool :=
  match kind with
  | .single tag => tag.fits value
  | .anyOf tags => tags.any fun tag => tag.fits value

/-- The kind in words. -/
def display : Kind → String
  | .single tag => tag.text
  | .anyOf tags => ",".intercalate (tags.map Tag.text)

end Kind

end Contracts
