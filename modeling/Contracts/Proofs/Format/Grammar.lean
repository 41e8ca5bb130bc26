import Contracts.Format.Document
import Contracts.Proofs.Json.Fields

/-!
# The grammar of documents

Which JSON values are documents, and which document each of them is, said without a reader.
A format with fields has two spellings: an object names the fields, none twice and no
others, and a list gives them in their order and may end early.  Dictionaries have only one,
and there the last of the values with one key counts.

Null is three things: a field of an interface that has no kind, a base that there is not, and
nothing at all anywhere else.

## Main definitions

* `Format.KindForm`, `Format.DeclarationForm`, `Format.DocumentForm` — the forms that are
  accepted.
* `Format.SpellsTag` — tags and their words.
* `Format.IsKind`, `Format.IsDeclaration`, `Format.IsDocument` — what is said in such a form.

## Main results

* `Format.tag_of_eq_iff` — each word spells one tag.
* `Format.exists_isDocument_iff` — **everything in the form of a document** is one.
-/

namespace Contracts

open Json

namespace Format

variable {α β : Type}

/-! ### Forms of documents -/

/-- A string. -/
def StringForm (outline : Outline) : Prop := ∃ s, outline = .string s

/-- A list whose items all have a form. -/
def ListForm (form : Outline → Prop) (outline : Outline) : Prop :=
  ∃ items, outline = .array items ∧ ∀ item ∈ items, form item

/-- An object whose values all have a form, those of keys that come again included. -/
def MapForm (form : Outline → Prop) (outline : Outline) : Prop :=
  ∃ members, outline = .object members ∧ ∀ member ∈ members, form member.2

/-- The form of kinds: a string or a list of strings. -/
def KindForm (outline : Outline) : Prop := StringForm outline ∨ ListForm StringForm outline

/-- The form of kinds of fields: null or that of a kind. -/
def FieldKindForm (outline : Outline) : Prop := outline = .null ∨ KindForm outline

/-- The form of the declaration of an interface: only the name has to be given. -/
def DeclarationForm (outline : Outline) : Prop :=
  ∃ given, Gives ["name", "extends", "fields"] outline given ∧
    (∃ name ∈ given.lookup "name", StringForm name) ∧
    (∀ base ∈ given.lookup "extends", base = .null ∨ StringForm base) ∧
    ∀ fields ∈ given.lookup "fields", MapForm FieldKindForm fields

/-- The form of documents. -/
def DocumentForm (outline : Outline) : Prop :=
  ∃ given, Gives ["kinds", "interfaces"] outline given ∧
    (∀ kinds ∈ given.lookup "kinds", MapForm KindForm kinds) ∧
    ∀ interfaces ∈ given.lookup "interfaces", ListForm DeclarationForm interfaces

/-! ### What documents say -/

/-- A tag is spelled by its word, in which case matters; any other word spells an unknown tag. -/
def SpellsTag (spelling : String) (tag : Tag) : Prop :=
  (tag ∈ Tag.known ∧ tag.text = spelling) ∨
    (tag = .unknown spelling ∧ ∀ known ∈ Tag.known, known.text ≠ spelling)

/-- A string is a text. -/
def IsText (outline : Outline) (text : String) : Prop := outline = .string text

/-- A string is a text, and null says that there is none. -/
def IsTextOrNull (outline : Outline) : Option String → Prop
  | some text => IsText outline text
  | none => outline = .null

/-- A string is a tag. -/
def IsTag (outline : Outline) (tag : Tag) : Prop :=
  ∃ spelling, outline = .string spelling ∧ SpellsTag spelling tag

/-- A list says what its items do, in their order. -/
def IsList (form : Outline → α → Prop) (outline : Outline) (values : List α) : Prop :=
  ∃ items, outline = .array items ∧ List.Forall₂ form items values

/-- An object is a dictionary. -/
def IsMap (form : Outline → β → Prop) (outline : Outline) (dict : Dict β) : Prop :=
  ∃ members, outline = .object members ∧ IsDict form members dict

/-- A tag or a list of tags is a kind. -/
def IsKind (outline : Outline) : Kind → Prop
  | .single tag => IsTag outline tag
  | .anyOf tags => IsList IsTag outline tags

/-- A field has a kind or, as null says, none. -/
def IsFieldKind (outline : Outline) : Option Kind → Prop
  | some kind => IsKind outline kind
  | none => outline = .null

/-- An object is a shape. -/
def IsShape (outline : Outline) (shape : Shape) : Prop := IsMap IsFieldKind outline shape.fields

/-- The parts of the declaration of an interface: only the name has to be given. -/
@[mk_iff]
structure DescribesDeclaration (given : List (String × Outline))
    (declaration : InterfaceDeclaration) : Prop where
  /-- The name. -/
  name : ∃ outline, given.lookup "name" = some outline ∧ IsText outline declaration.name
  /-- The base. -/
  base : Optional IsTextOrNull none (given.lookup "extends") declaration.base
  /-- The fields. -/
  fields : Optional IsShape .empty (given.lookup "fields") declaration.fields

/-- What is the declaration of an interface. -/
def IsDeclaration (outline : Outline) (declaration : InterfaceDeclaration) : Prop :=
  ∃ given, Gives ["name", "extends", "fields"] outline given ∧
    DescribesDeclaration given declaration

/-- The parts of a document. -/
@[mk_iff]
structure DescribesDocument (given : List (String × Outline)) (document : Document) : Prop where
  /-- The kinds of types. -/
  kinds : Optional (IsMap IsKind) .empty (given.lookup "kinds") document.kinds
  /-- The interfaces. -/
  interfaces : Optional (IsList IsDeclaration) [] (given.lookup "interfaces") document.interfaces

/-- What is a document. -/
def IsDocument (outline : Outline) (document : Document) : Prop :=
  ∃ given, Gives ["kinds", "interfaces"] outline given ∧ DescribesDocument given document

/-! ### Tags -/

/-- Each word spells the tag that is found for it. -/
theorem tag_of_eq_iff {spelling : String} {tag : Tag} :
    Tag.of spelling = tag ↔ SpellsTag spelling tag := by
  have different : ∀ one ∈ Tag.known, ∀ other ∈ Tag.known, one.text = other.text → one = other := by
    decide
  unfold Tag.of
  cases found : Tag.known.find? fun tag => tag.text == spelling with
  | some known =>
    have member := List.mem_of_find?_eq_some found
    have same : known.text = spelling := by simpa using List.find?_some found
    rw [Option.getD_some]
    constructor
    · rintro rfl
      exact .inl ⟨member, same⟩
    · rintro (⟨member', same'⟩ | ⟨-, other⟩)
      · exact different _ member _ member' (same.trans same'.symm)
      · exact absurd same (other _ member)
  | none =>
    have other : ∀ known ∈ Tag.known, known.text ≠ spelling := fun known member same =>
      List.find?_eq_none.1 found known member (beq_iff_eq.2 same)
    rw [Option.getD_none]
    constructor
    · rintro rfl
      exact .inr ⟨rfl, other⟩
    · rintro (⟨member, same⟩ | ⟨rfl, -⟩)
      · exact absurd same (other _ member)
      · rfl

theorem isTag_iff {outline : Outline} {tag : Tag} :
    IsTag outline tag ↔ ∃ s, outline = .string s ∧ Tag.of s = tag := by
  simp only [IsTag, tag_of_eq_iff]

/-! ### What says something -/

theorem exists_isTextOrNull_iff {outline : Outline} :
    (∃ text, IsTextOrNull outline text) ↔ outline = .null ∨ StringForm outline := by
  constructor
  · rintro ⟨text | text, is⟩
    · exact .inl is
    · exact .inr ⟨text, is⟩
  · rintro (is | ⟨text, is⟩)
    · exact ⟨none, is⟩
    · exact ⟨some text, is⟩

/-- Each item is related to something if there is a list of what they are related to. -/
theorem exists_forall₂_iff {R : α → β → Prop} {items : List α} :
    (∃ values, List.Forall₂ R items values) ↔ ∀ item ∈ items, ∃ value, R item value := by
  induction items with
  | nil => exact iff_of_true ⟨[], .nil⟩ fun _ member => nomatch member
  | cons item items ih =>
    rw [List.forall_mem_cons, ← ih]
    constructor
    · rintro ⟨_, is⟩
      cases is with
      | cons is are => exact ⟨⟨_, is⟩, _, are⟩
    · rintro ⟨⟨_, is⟩, _, are⟩
      exact ⟨_, .cons is are⟩

theorem exists_isList_iff {form : Outline → α → Prop} {outline : Outline} :
    (∃ values, IsList form outline values) ↔
      ListForm (fun item => ∃ value, form item value) outline := by
  simp only [ListForm, ← exists_forall₂_iff]
  exact ⟨fun ⟨values, items, same, are⟩ => ⟨items, same, values, are⟩,
    fun ⟨items, same, values, are⟩ => ⟨values, items, same, are⟩⟩

theorem exists_isDict_iff {form : Outline → β → Prop} {members : List (String × Outline)} :
    (∃ dict, IsDict form members dict) ↔ ∀ member ∈ members, ∃ value, form member.2 value := by
  have entry (member : String × Outline) :
      (∃ entry : String × β, member.1 = entry.1 ∧ form member.2 entry.2) ↔
        ∃ value, form member.2 value :=
    ⟨fun ⟨entry, _, is⟩ => ⟨entry.2, is⟩, fun ⟨value, is⟩ => ⟨(member.1, value), rfl, is⟩⟩
  simp only [← entry, ← exists_forall₂_iff]
  constructor
  · rintro ⟨dict, entries, are, -⟩
    exact ⟨entries, are⟩
  · rintro ⟨entries, are⟩
    exact ⟨.ofList entries, entries, are, Dict.get?_ofList entries⟩

theorem exists_isMap_iff {form : Outline → β → Prop} {outline : Outline} :
    (∃ dict, IsMap form outline dict) ↔
      MapForm (fun value => ∃ found, form value found) outline := by
  simp only [MapForm, ← exists_isDict_iff]
  exact ⟨fun ⟨dict, members, same, is⟩ => ⟨members, same, dict, is⟩,
    fun ⟨members, same, dict, is⟩ => ⟨dict, members, same, is⟩⟩

theorem exists_isTag_iff {outline : Outline} : (∃ tag, IsTag outline tag) ↔ StringForm outline := by
  simp [isTag_iff, StringForm]

theorem exists_isKind_iff {outline : Outline} :
    (∃ kind, IsKind outline kind) ↔ KindForm outline := by
  have strings : (∃ tags, IsList IsTag outline tags) ↔ ListForm StringForm outline := by
    simp only [exists_isList_iff, exists_isTag_iff]
  rw [KindForm, ← strings, ← exists_isTag_iff]
  constructor
  · rintro ⟨tag | tags, is⟩
    · exact .inl ⟨tag, is⟩
    · exact .inr ⟨tags, is⟩
  · rintro (⟨tag, is⟩ | ⟨tags, is⟩)
    · exact ⟨.single tag, is⟩
    · exact ⟨.anyOf tags, is⟩

theorem exists_isFieldKind_iff {outline : Outline} :
    (∃ kind, IsFieldKind outline kind) ↔ FieldKindForm outline := by
  rw [FieldKindForm, ← exists_isKind_iff]
  constructor
  · rintro ⟨none | kind, is⟩
    · exact .inl is
    · exact .inr ⟨kind, is⟩
  · rintro (is | ⟨kind, is⟩)
    · exact ⟨none, is⟩
    · exact ⟨some kind, is⟩

theorem exists_optional_iff {form : Outline → α → Prop} {absent : α} {given : Option Outline} :
    (∃ value, Optional form absent given value) ↔
      ∀ outline ∈ given, ∃ value, form outline value := by
  cases given with
  | none => exact iff_of_true ⟨absent, rfl⟩ fun _ member => nomatch member
  | some outline =>
    exact ⟨fun is _ same => Option.some.inj same ▸ is, fun is => is outline rfl⟩

theorem exists_isShape_iff {outline : Outline} :
    (∃ shape, IsShape outline shape) ↔ MapForm FieldKindForm outline := by
  have fields : (∃ fields, IsMap IsFieldKind outline fields) ↔ MapForm FieldKindForm outline := by
    simp only [exists_isMap_iff, exists_isFieldKind_iff]
  rw [← fields]
  exact ⟨fun ⟨shape, is⟩ => ⟨shape.fields, is⟩, fun ⟨fields, is⟩ => ⟨⟨fields⟩, is⟩⟩

theorem exists_isDeclaration_iff {outline : Outline} :
    (∃ declaration, IsDeclaration outline declaration) ↔ DeclarationForm outline := by
  constructor
  · rintro ⟨declaration, given, gives, ⟨name, said, is⟩, base, fields⟩
    have bases := exists_optional_iff.1 ⟨_, base⟩
    have shapes := exists_optional_iff.1 ⟨_, fields⟩
    exact ⟨given, gives, ⟨name, said, _, is⟩,
      fun outline member => exists_isTextOrNull_iff.1 (bases outline member),
      fun outline member => exists_isShape_iff.1 (shapes outline member)⟩
  · rintro ⟨given, gives, ⟨outline, said, name, is⟩, bases, fields⟩
    obtain ⟨base, base_is⟩ :=
      exists_optional_iff.2 fun outline member => exists_isTextOrNull_iff.2 (bases outline member)
    obtain ⟨shape, shape_is⟩ :=
      exists_optional_iff.2 fun outline member => exists_isShape_iff.2 (fields outline member)
    exact ⟨⟨name, base, shape⟩, given, gives, ⟨outline, said, is⟩, base_is, shape_is⟩

/-- **Everything in the form of a document** is one. -/
theorem exists_isDocument_iff {outline : Outline} :
    (∃ document, IsDocument outline document) ↔ DocumentForm outline := by
  have maps {outline : Outline} :
      (∃ kinds, IsMap IsKind outline kinds) ↔ MapForm KindForm outline := by
    simp only [exists_isMap_iff, exists_isKind_iff]
  have lists {outline : Outline} :
      (∃ declarations, IsList IsDeclaration outline declarations) ↔
        ListForm DeclarationForm outline := by
    simp only [exists_isList_iff, exists_isDeclaration_iff]
  constructor
  · rintro ⟨document, given, gives, kinds, interfaces⟩
    have kinds := exists_optional_iff.1 ⟨_, kinds⟩
    have interfaces := exists_optional_iff.1 ⟨_, interfaces⟩
    exact ⟨given, gives, fun outline member => maps.1 (kinds outline member),
      fun outline member => lists.1 (interfaces outline member)⟩
  · rintro ⟨given, gives, kinds, interfaces⟩
    obtain ⟨dict, dict_is⟩ :=
      exists_optional_iff.2 fun outline member => maps.2 (kinds outline member)
    obtain ⟨list, list_is⟩ :=
      exists_optional_iff.2 fun outline member => lists.2 (interfaces outline member)
    exact ⟨⟨dict, list⟩, given, gives, dict_is, list_is⟩

end Format

end Contracts
