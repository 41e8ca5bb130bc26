import Contracts.Definition.Kind

/-!
# Kinds as sets of tags

A value has one of the known tags, or none if it is undefined or null, and it is of a kind if
its tag is among the tags that the kind names.  Whatever else there is about the list of those
tags makes no difference: their order, how often each one is named, and the unknown ones.

## Main definitions

* `Value.tag?` — the tag of a value.
* `Kind.ChecksTag` — kinds are checked by the tag of a value.
* `Kind.UnionLaws` — what follows for lists of tags.

## Main results

* `Kind.accepts_iff_tag` — a value is of a kind if the kind names its tag.
* `Kind.accepts_eq_iff` — **two kinds accept the same values** if they name the same known tags.
* `Kind.checksTag`, `Kind.unionLaws` — so kinds are checked by tag, with all that follows.
-/

namespace Contracts

/-! ### The tag of a value -/

/-- The tag of a value.  What was never written has none, and neither has null. -/
def Value.tag? : Value → Option Tag
  | .undefined | .null => none
  | .boolean _ => some .boolean
  | .number _ => some .number
  | .string _ => some .string
  | .array _ | .record _ => some .object
  | .function _ => some .function

namespace Value

theorem tag?_eq_none {value : Value} : value.tag? = none ↔ value = .undefined ∨ value = .null := by
  cases value <;> simp [tag?]

theorem mem_known_of_tag? {value : Value} {tag : Tag} (h : value.tag? = some tag) :
    tag ∈ Tag.known := by
  cases value with
  | undefined | null => cases h
  | boolean _ | number _ | string _ | array _ | record _ | function _ =>
    cases h
    decide

end Value

namespace Tag

theorem isKnown_iff {tag : Tag} : tag.isKnown = true ↔ tag ∈ known := by
  cases tag <;> simp [isKnown, known]

/-- A value is of the sort that a tag names if the tag is its own. -/
theorem fits_iff {tag : Tag} {value : Value} : tag.fits value = true ↔ value.tag? = some tag := by
  cases tag <;> cases value <;> simp [fits, Value.category, Value.isNull, Value.tag?]

/-- Each known tag is that of some value. -/
theorem exists_tag?_of_mem_known {tag : Tag} (h : tag ∈ known) :
    ∃ value : Value, value.tag? = some tag := by
  cases tag with
  | string => exact ⟨.string "", rfl⟩
  | number => exact ⟨.number .nan, rfl⟩
  | boolean => exact ⟨.boolean true, rfl⟩
  | object => exact ⟨.record ⟨0⟩, rfl⟩
  | function => exact ⟨.function (.native ⟨0⟩ "" 0 ⟨"ignore"⟩), rfl⟩
  | unknown spelling => cases isKnown_iff.2 h

end Tag

namespace Kind

variable {kind other : Kind} {value : Value}

/-! ### Kinds and tags -/

theorem accepts_iff : kind.accepts value = true ↔ ∃ tag ∈ kind.tags, tag.fits value = true := by
  cases kind with
  | single tag => simp [accepts, tags]
  | anyOf tags => simp [accepts, Kind.tags]

/-- A value is of a kind if the kind names its tag. -/
theorem accepts_iff_tag :
    kind.accepts value = true ↔ ∃ tag, value.tag? = some tag ∧ tag ∈ kind.tags := by
  simp only [accepts_iff, Tag.fits_iff, and_comm]

/-- The same as an equation. -/
theorem accepts_eq (kind : Kind) (value : Value) :
    kind.accepts value = value.tag?.any fun tag => decide (tag ∈ kind.tags) := by
  rw [Bool.eq_iff_iff, accepts_iff_tag]
  cases value.tag? <;> simp

/-- A kind accepts what another does if it names the known tags that the other names. -/
theorem accepts_imp_iff :
    (∀ value : Value, kind.accepts value = true → other.accepts value = true) ↔
      ∀ tag ∈ Tag.known, tag ∈ kind.tags → tag ∈ other.tags := by
  constructor
  · intro h tag known named
    obtain ⟨value, tagged⟩ := Tag.exists_tag?_of_mem_known known
    have accepted : kind.accepts value = true := accepts_iff_tag.2 ⟨tag, tagged, named⟩
    obtain ⟨tag', tagged', named'⟩ := accepts_iff_tag.1 (h value accepted)
    cases tagged.symm.trans tagged'
    exact named'
  · intro h value accepted
    obtain ⟨tag, tagged, named⟩ := accepts_iff_tag.1 accepted
    exact accepts_iff_tag.2 ⟨tag, tagged, h tag (Value.mem_known_of_tag? tagged) named⟩

/-- **Two kinds accept the same values** if they name the same known tags. -/
theorem accepts_eq_iff :
    (∀ value : Value, kind.accepts value = other.accepts value) ↔
      ∀ tag ∈ Tag.known, (tag ∈ kind.tags ↔ tag ∈ other.tags) := by
  constructor
  · intro same tag known
    constructor
    · exact accepts_imp_iff.1 (fun value accepted => same value ▸ accepted) tag known
    · exact accepts_imp_iff.1 (fun value accepted => (same value).trans accepted) tag known
  · intro same value
    rw [Bool.eq_iff_iff]
    constructor
    · exact accepts_imp_iff.2 (fun tag known => (same tag known).1) value
    · exact accepts_imp_iff.2 (fun tag known => (same tag known).2) value

/-! ### Laws -/

/-- Kinds are checked by the tag of a value, which is one of the known tags. -/
structure ChecksTag (tagOf : Value → Option Tag) : Prop where
  /-- Tags of values are known. -/
  known : ∀ value tag, tagOf value = some tag → tag ∈ Tag.known
  /-- Only what was never written and null have none. -/
  untagged : ∀ value, tagOf value = none ↔ value = .undefined ∨ value = .null
  /-- Arrays have the tag of objects. -/
  array : ∀ id, tagOf (.array id) = some .object
  /-- So have records. -/
  record : ∀ id, tagOf (.record id) = some .object
  /-- A value is of a kind if the kind names its tag. -/
  accepts : ∀ (kind : Kind) value,
    kind.accepts value = true ↔ ∃ tag, tagOf value = some tag ∧ tag ∈ kind.tags

theorem checksTag : ChecksTag Value.tag? where
  known _ _ := Value.mem_known_of_tag?
  untagged _ := Value.tag?_eq_none
  array _ := rfl
  record _ := rfl
  accepts _ _ := accepts_iff_tag

/-- How lists of tags accept values. -/
structure UnionLaws : Prop where
  /-- Nothing but which known tags are named makes a difference. -/
  congr : ∀ kind other : Kind, (∀ tag ∈ Tag.known, (tag ∈ kind.tags ↔ tag ∈ other.tags)) ↔
    ∀ value : Value, kind.accepts value = other.accepts value
  /-- Tags may be named in any order. -/
  perm : ∀ (tags others : List Tag) (value : Value), tags.Perm others →
    (anyOf tags).accepts value = (anyOf others).accepts value
  /-- A tag may be named again. -/
  again : ∀ (tags : List Tag) (value : Value), ∀ tag ∈ tags,
    (anyOf (tag :: tags)).accepts value = (anyOf tags).accepts value
  /-- Unknown tags may be named or left out. -/
  unknown : ∀ (tags : List Tag) (value : Value),
    (anyOf (tags.filter Tag.isKnown)).accepts value = (anyOf tags).accepts value
  /-- A union accepts what one of its parts does. -/
  append : ∀ (tags others : List Tag) (value : Value),
    (anyOf (tags ++ others)).accepts value =
      ((anyOf tags).accepts value || (anyOf others).accepts value)
  /-- A union of unknown tags accepts nothing, and neither does one of no tags. -/
  nothing : ∀ (tags : List Tag) (value : Value), (∀ tag ∈ tags, tag.isKnown = false) →
    (anyOf tags).accepts value = false
  /-- What is accepted is also accepted when there are more tags. -/
  more : ∀ (tags others : List Tag) (value : Value), tags ⊆ others →
    (anyOf tags).accepts value = true → (anyOf others).accepts value = true

theorem unionLaws : UnionLaws where
  congr _ _ := accepts_eq_iff.symm
  perm tags others value same := by
    refine accepts_eq_iff.2 (fun tag _ => ?_) value
    exact same.mem_iff
  again tags value tag named := by
    refine accepts_eq_iff.2 (fun other _ => ?_) value
    show other ∈ tag :: tags ↔ other ∈ tags
    rw [List.mem_cons]
    exact ⟨fun member => member.elim (fun same => same ▸ named) id, .inr⟩
  unknown tags value := by
    refine accepts_eq_iff.2 (fun tag known => ?_) value
    show tag ∈ tags.filter Tag.isKnown ↔ tag ∈ tags
    rw [List.mem_filter]
    exact ⟨And.left, fun named => ⟨named, Tag.isKnown_iff.2 known⟩⟩
  append tags others value := List.any_append
  nothing tags value unknown := by
    rw [Bool.eq_false_iff, ne_eq, accepts_iff_tag]
    rintro ⟨tag, tagged, named⟩
    have known := Tag.isKnown_iff.2 (Value.mem_known_of_tag? tagged)
    cases known.symm.trans (unknown tag named)
  more tags others value among := accepts_imp_iff.2 (fun _ _ named => among named) value

end Kind

end Contracts
