import Contracts.Format.Document
import Contracts.Proofs.Json.Given
import Contracts.Proofs.Json.Written

/-!
# The written form of definitions

Kinds, shapes and documents are read back from their texts as they were written, apart
from one thing: an unknown tag that is spelled like a known one is read as the known one.
Definitions without such a tag are called **canonical**, and those that are read are.

## Main definitions

* `Tag.IsCanonical`, `Kind.IsCanonical`, `Shape.IsCanonical`, `Document.IsCanonical` — no
  unknown tag is spelled like a known one.
* `Format.RoundTrips` — reading and writing undo each other, as far as something is canonical.

## Main results

* `Format.takes_readDocument` — what is written for a document is taken as the document.
* `Format.gives_readDocument` — documents that are read are canonical.
* `Format.definitions_roundTrip` — **the round trip**, for kinds, shapes and documents.
-/

namespace Contracts

open Json

/-! ### Canonical definitions -/

/-- A tag is canonical unless it is an unknown one with the spelling of a known one. -/
def Tag.IsCanonical : Tag → Prop
  | .unknown spelling => ∀ tag ∈ known, tag.text ≠ spelling
  | _ => True

instance (tag : Tag) : Decidable tag.IsCanonical := by
  cases tag <;> unfold Tag.IsCanonical <;> infer_instance

/-- A kind is canonical if its tags are. -/
def Kind.IsCanonical (kind : Kind) : Prop := ∀ tag ∈ kind.tags, tag.IsCanonical

instance (kind : Kind) : Decidable kind.IsCanonical :=
  inferInstanceAs (Decidable (∀ tag ∈ kind.tags, tag.IsCanonical))

/-- A shape is canonical if the kinds of its fields are. -/
def Shape.IsCanonical (shape : Shape) : Prop :=
  ∀ entry ∈ shape.fields.entries, ∀ kind ∈ entry.2, kind.IsCanonical

instance (shape : Shape) : Decidable shape.IsCanonical :=
  inferInstanceAs (Decidable (∀ entry ∈ shape.fields.entries, ∀ kind ∈ entry.2, kind.IsCanonical))

/-- The declaration of an interface is canonical if its fields are. -/
def InterfaceDeclaration.IsCanonical (declaration : InterfaceDeclaration) : Prop :=
  declaration.fields.IsCanonical

instance (declaration : InterfaceDeclaration) : Decidable declaration.IsCanonical :=
  inferInstanceAs (Decidable declaration.fields.IsCanonical)

/-- A document is canonical if everything that it declares is. -/
def Document.IsCanonical (document : Document) : Prop :=
  (∀ entry ∈ document.kinds.entries, entry.2.IsCanonical) ∧
    ∀ declaration ∈ document.interfaces, declaration.IsCanonical

instance (document : Document) : Decidable document.IsCanonical :=
  inferInstanceAs (Decidable (_ ∧ _))

/-- The tag with a spelling is canonical. -/
theorem Tag.isCanonical_of (spelling : String) : (Tag.of spelling).IsCanonical := by
  unfold Tag.of
  cases found : known.find? fun tag => tag.text == spelling with
  | some tag =>
    have all : ∀ tag ∈ known, tag.IsCanonical := by decide
    exact all tag (List.mem_of_find?_eq_some found)
  | none =>
    intro tag member same
    exact List.find?_eq_none.1 found tag member (beq_iff_eq.2 same)

/-- A canonical tag is the one with its spelling. -/
theorem Tag.of_text {tag : Tag} (h : tag.IsCanonical) : Tag.of tag.text = tag := by
  cases tag with
  | unknown spelling =>
    have none : (known.find? fun tag => tag.text == spelling) = none :=
      List.find?_eq_none.2 fun tag member same => h tag member (beq_iff_eq.1 same)
    rw [text, Tag.of, none]
    rfl
  | _ => decide

/-! ### Kinds as JSON values -/

/-- Tags that are spelled out are found again. -/
theorem mapM_ofJson?_text {tags : List Tag} (h : ∀ tag ∈ tags, tag.IsCanonical) :
    (tags.map fun tag => Json.string tag.text).mapM Tag.ofJson? = some tags := by
  induction tags with
  | nil => rfl
  | cons tag rest ih =>
    have ⟨canonical, others⟩ := List.forall_mem_cons.1 h
    rw [List.map_cons, List.mapM_cons, ih others, Tag.ofJson?, Tag.of_text canonical]
    rfl

/-- Tags that are found are canonical. -/
theorem isCanonical_of_mapM_ofJson? {items : List Json} {tags : List Tag}
    (h : items.mapM Tag.ofJson? = some tags) : ∀ tag ∈ tags, tag.IsCanonical := by
  induction items generalizing tags with
  | nil => cases h; exact fun _ member => nomatch member
  | cons item rest ih =>
    rw [List.mapM_cons] at h
    obtain ⟨tag, found, h⟩ := Option.bind_eq_some_iff.1 h
    obtain ⟨others, foundOthers, h⟩ := Option.bind_eq_some_iff.1 h
    cases h
    refine List.forall_mem_cons.2 ⟨?_, ih foundOthers⟩
    unfold Tag.ofJson? at found
    split at found
    · cases found
      exact Tag.isCanonical_of _
    · cases found

namespace Kind

theorem ofJson?_toJson {kind : Kind} (h : kind.IsCanonical) :
    ofJson? kind.toJson = some kind := by
  cases kind with
  | single tag =>
    have canonical : tag.IsCanonical := h tag List.mem_cons_self
    rw [toJson, ofJson?, Tag.of_text canonical]
  | anyOf tags =>
    have canonical : ∀ tag ∈ tags, tag.IsCanonical := h
    rw [toJson, ofJson?, mapM_ofJson?_text canonical]
    rfl

theorem isCanonical_of_ofJson? {json : Json} {kind : Kind} (h : ofJson? json = some kind) :
    kind.IsCanonical := by
  unfold ofJson? at h
  split at h
  · cases h
    exact List.forall_mem_singleton.2 (Tag.isCanonical_of _)
  · obtain ⟨tags, found, rfl⟩ := Option.map_eq_some_iff.1 h
    exact isCanonical_of_mapM_ofJson? found
  · cases h

theorem fieldOfJson?_fieldToJson {kind : Option Kind} (h : ∀ k ∈ kind, k.IsCanonical) :
    fieldOfJson? (fieldToJson kind) = some kind := by
  cases kind with
  | none => rfl
  | some kind =>
    -- what is written for a kind is not null
    have written : fieldOfJson? kind.toJson = (ofJson? kind.toJson).map some := by
      cases kind <;> rfl
    rw [fieldToJson, written, ofJson?_toJson (h kind rfl)]
    rfl

theorem isCanonical_of_fieldOfJson? {json : Json} {kind : Option Kind}
    (h : fieldOfJson? json = some kind) : ∀ k ∈ kind, k.IsCanonical := by
  unfold fieldOfJson? at h
  split at h
  · cases h
    exact fun _ member => nomatch member
  · obtain ⟨kind, found, rfl⟩ := Option.map_eq_some_iff.1 h
    intro _ same
    cases same
    exact isCanonical_of_ofJson? found

end Kind

/-! ### What is written is taken -/

namespace Format

variable {depth : Nat}

theorem takes_readJson_kind (depth : Nat) (kind : Kind) :
    (readJson (depth + 1)).Takes kind.toJson.printChars kind.toJson := by
  cases kind with
  | single tag => exact takes_readJson_string _ _
  | anyOf tags =>
    have taken := takes_readJson_strings depth (tags.map Tag.text)
    rwa [List.map_map] at taken

theorem takes_readAs {α : Type} {decode : Json → Option α} {text : List Char} {json : Json}
    {value : α} (h : (readJson depth).Takes text json) (decoded : decode json = some value) :
    (readAs decode depth).Takes text value := by
  intro follow
  obtain ⟨shorter, read⟩ := h follow
  refine ⟨shorter, ?_⟩
  rw [readAs, read]
  simp only [decoded]

theorem takes_readKind (depth : Nat) {kind : Kind} (h : kind.IsCanonical) :
    (readKind (depth + 1)).Takes kind.toJson.printChars kind :=
  takes_readAs (takes_readJson_kind depth kind) (Kind.ofJson?_toJson h)

theorem takes_readFieldKind (depth : Nat) {kind : Option Kind} (h : ∀ k ∈ kind, k.IsCanonical) :
    (readFieldKind (depth + 1)).Takes (Kind.fieldToJson kind).printChars kind := by
  refine takes_readAs ?_ (Kind.fieldOfJson?_fieldToJson h)
  cases kind with
  | none => exact takes_readJson_null _
  | some kind => exact takes_readJson_kind depth kind

/-- A dictionary is read back from an object, if its values are read back. -/
theorem takes_readMap {β : Type} {value : Nat → Reader β} {write : β → Json} (dict : Dict β)
    (h : ∀ entry ∈ dict.entries, (value depth).Takes (write entry.2).printChars entry.2) :
    (readMap value (depth + 1)).Takes
      (printChars (.object (dict.entries.map fun entry => (entry.1, write entry.2)))) dict := by
  let text (value : β) : List Char := (write value).printChars
  have texts : ∀ entry ∈ dict.entries, (value depth).Takes (text entry.2) entry.2 := h
  rw [printChars_object, List.map_map, List.map_map]
  exact takes_dispatch_object (takes_stepInside (takes_readDict dict texts) _)

theorem takes_readShape (depth : Nat) {shape : Shape} (h : shape.IsCanonical) :
    (readShape (depth + 2)).Takes shape.toJson.printChars shape :=
  (takes_readMap shape.fields fun entry member => takes_readFieldKind depth (h entry member)).map
    Shape.mk

theorem takes_requiring {α β : Type} {check : α → Except Reason β} {reader : Reader α}
    {text : List Char} {value : α} {result : β} (h : reader.Takes text value)
    (checked : check value = .ok result) : (requiring check reader).Takes text result := by
  intro follow
  obtain ⟨shorter, read⟩ := h follow
  refine ⟨shorter, ?_⟩
  rw [requiring, read]
  simp only [checked]

/-- A format with named fields is taken in the form that names them. -/
theorem takes_readFields {α : Type} {expected : String} {list object : Nat → Reader α} {value : α}
    {members : List (String × Json)}
    (h : (object depth).Takes
      (commaSeparated ((members.map fun entry => (entry.1, entry.2.printChars)).map memberText) ++
        ['\x7d']) value) :
    (readFields expected (depth + 1) list object).Takes (printChars (.object members)) value := by
  rw [printChars_object]
  exact takes_dispatch_object (takes_stepInside h _)

theorem takes_readDeclaration (depth : Nat) {declaration : InterfaceDeclaration}
    (h : declaration.IsCanonical) :
    (readDeclaration (depth + 3)).Takes declaration.toJson.printChars declaration := by
  obtain ⟨name, base, fields⟩ := declaration
  have readName : (readText "a string").Takes (printChars (.string name)) name :=
    takes_dispatch_string rfl
  have readShape := takes_readShape depth h
  cases base with
  | none =>
    have gathered : Gathers (declarationMember (depth + 2)) ⟨none, none, none⟩
        [("name", _), ("fields", _)] ⟨some name, none, some fields⟩ :=
      .cons rfl (readName.map _) (.cons rfl (readShape.map _) (.nil _))
    exact takes_readFields (takes_requiring (takes_readMembers gathered) rfl)
  | some base =>
    have readBase : (readTextOrNull "a string").Takes (printChars (.string base)) (some base) :=
      takes_dispatch_string rfl
    have gathered : Gathers (declarationMember (depth + 2)) ⟨none, none, none⟩
        [("name", _), ("extends", _), ("fields", _)] ⟨some name, some (some base), some fields⟩ :=
      .cons rfl (readName.map _) (.cons rfl (readBase.map _) (.cons rfl (readShape.map _) (.nil _)))
    exact takes_readFields (takes_requiring (takes_readMembers gathered) rfl)

theorem takes_readDeclarations (depth : Nat) {declarations : List InterfaceDeclaration}
    (h : ∀ declaration ∈ declarations, declaration.IsCanonical) :
    (readDeclarations (depth + 4)).Takes
      (printChars (.array (declarations.map InterfaceDeclaration.toJson))) declarations := by
  rw [printChars_array]
  refine takes_dispatch_list (takes_stepInside (takes_readItems ?_) _)
  rw [List.map_map, List.forall₂_map_left_iff, List.forall₂_same]
  exact fun declaration member =>
    ⟨takes_readDeclaration depth (h declaration member), '\x7b', _, rfl, rfl, by decide⟩

/-- **What is written for a document** is taken as the document. -/
theorem takes_readDocument (depth : Nat) {document : Document} (h : document.IsCanonical) :
    (readDocument (depth + 5)).Takes document.toJson.printChars document := by
  have kinds : ∀ entry ∈ document.kinds.entries,
      (readKind (depth + 3)).Takes (Kind.toJson entry.2).printChars entry.2 :=
    fun entry member => takes_readKind (depth + 2) (h.1 entry member)
  have readKinds := takes_readMap document.kinds kinds
  have readInterfaces := takes_readDeclarations depth h.2
  have gathered : Gathers (documentMember (depth + 4)) ⟨none, none⟩
      [("kinds", _), ("interfaces", _)] ⟨some document.kinds, some document.interfaces⟩ :=
    .cons rfl (readKinds.map _) (.cons rfl (readInterfaces.map _) (.nil _))
  exact takes_readFields ((takes_readMembers gathered).map DocumentDraft.finish)

/-! ### What is read is canonical -/

theorem gives_readAs {α : Type} {decode : Json → Option α} {P : α → Prop}
    (h : ∀ json value, decode json = some value → P value) : (readAs decode depth).Gives P := by
  intro input read ok
  unfold readAs at ok
  split at ok
  · cases ok
  · split at ok
    · next decoded =>
      cases ok
      exact h _ _ decoded
    · cases ok

theorem gives_readKind (depth : Nat) : (readKind depth).Gives Kind.IsCanonical :=
  gives_readAs fun _ _ => Kind.isCanonical_of_ofJson?

theorem gives_readMap {β : Type} {value : Nat → Reader β} {P : β → Prop}
    (h : ∀ depth, (value depth).Gives P) (depth : Nat) :
    (readMap value depth).Gives fun dict => ∀ entry ∈ dict.entries, P entry.2 :=
  gives_dispatch (fun _ _ accepted => nomatch accepted) gives_refuse
    (gives_bracketed fun depth => gives_readDict (h depth))

theorem gives_readShape (depth : Nat) : (readShape depth).Gives Shape.IsCanonical :=
  (gives_readMap (fun _ => gives_readAs fun _ _ => Kind.isCanonical_of_fieldOfJson?) depth).map
    fun _ canonical => canonical

theorem isCanonical_shape_empty : Shape.empty.IsCanonical := fun _ member => nomatch member

/-- What the members of a declaration have brought so far is canonical. -/
def DeclarationDraft.IsCanonical (draft : DeclarationDraft) : Prop :=
  ∀ fields ∈ draft.fields, fields.IsCanonical

/-- A member of a declaration keeps it canonical. -/
theorem gives_declarationMember {draft : DeclarationDraft} {key : String}
    {value : Reader DeclarationDraft} (h : draft.IsCanonical)
    (accepted : declarationMember depth draft key = .ok value) :
    value.Gives DeclarationDraft.IsCanonical := by
  unfold declarationMember at accepted
  split at accepted
  · exact gives_once accepted ((Reader.gives_any _).map fun _ _ => h)
  · split at accepted
    · exact gives_once accepted ((Reader.gives_any _).map fun _ _ => h)
    · split at accepted
      · refine gives_once accepted ((gives_readShape depth).map fun fields canonical => ?_)
        intro _ given
        cases given
        exact canonical
      · cases accepted

theorem isCanonical_finish_declaration {draft : DeclarationDraft}
    {declaration : InterfaceDeclaration} (h : draft.IsCanonical)
    (finished : draft.finish = .ok declaration) : declaration.IsCanonical := by
  obtain ⟨name, base, fields⟩ := draft
  cases name with
  | none => cases finished
  | some name =>
    cases finished
    cases fields with
    | none => exact isCanonical_shape_empty
    | some fields => exact h fields rfl

theorem gives_readDeclaration (depth : Nat) :
    (readDeclaration depth).Gives InterfaceDeclaration.IsCanonical := by
  refine gives_readFields (fun depth => ?_) fun depth => ?_
  · refine gives_readField (Reader.gives_any _) (fun _ absent => nomatch absent) fun name _ => ?_
    refine gives_readField (Reader.gives_any _) (fun _ absent => ?_) fun base _ => ?_
    · cases absent
      exact isCanonical_shape_empty
    refine gives_readField (gives_readShape depth) (fun _ absent => ?_)
      fun _ canonical => gives_endFields canonical
    cases absent
    exact isCanonical_shape_empty
  · have start : DeclarationDraft.IsCanonical ⟨none, none, none⟩ := fun _ given => nomatch given
    exact gives_requiring (gives_readMembers (fun _ _ _ => gives_declarationMember) true start)
      fun _ _ => isCanonical_finish_declaration

theorem gives_readDeclarations (depth : Nat) :
    (readDeclarations depth).Gives fun declarations =>
      ∀ declaration ∈ declarations, declaration.IsCanonical :=
  gives_dispatch (fun _ _ accepted => nomatch accepted)
    (gives_bracketed fun depth => gives_readItems (gives_readDeclaration depth) true) gives_refuse

/-- What the members of a document have brought so far is canonical. -/
structure DocumentDraft.IsCanonical (draft : DocumentDraft) : Prop where
  /-- The types. -/
  kinds : ∀ kinds ∈ draft.kinds, ∀ entry ∈ kinds.entries, entry.2.IsCanonical
  /-- The interfaces. -/
  interfaces : ∀ interfaces ∈ draft.interfaces, ∀ declaration ∈ interfaces,
    declaration.IsCanonical

/-- A member of a document keeps it canonical. -/
theorem gives_documentMember {draft : DocumentDraft} {key : String} {value : Reader DocumentDraft}
    (h : draft.IsCanonical) (accepted : documentMember depth draft key = .ok value) :
    value.Gives DocumentDraft.IsCanonical := by
  unfold documentMember at accepted
  split at accepted
  · refine gives_once accepted ((gives_readMap gives_readKind depth).map fun kinds canonical => ?_)
    refine ⟨fun _ given => ?_, h.interfaces⟩
    cases given
    exact canonical
  · split at accepted
    · refine gives_once accepted ((gives_readDeclarations depth).map fun interfaces canonical => ?_)
      refine ⟨h.kinds, fun _ given => ?_⟩
      cases given
      exact canonical
    · cases accepted

theorem isCanonical_finish_document {draft : DocumentDraft} (h : draft.IsCanonical) :
    draft.finish.IsCanonical := by
  obtain ⟨kinds, interfaces⟩ := draft
  constructor
  · cases kinds with
    | none => exact fun _ member => nomatch member
    | some kinds => exact h.kinds kinds rfl
  · cases interfaces with
    | none => exact fun _ member => nomatch member
    | some interfaces => exact h.interfaces interfaces rfl

/-- **Documents that are read** are canonical. -/
theorem gives_readDocument (depth : Nat) : (readDocument depth).Gives Document.IsCanonical := by
  refine gives_readFields (fun depth => ?_) fun depth => ?_
  · refine gives_readField (gives_readMap gives_readKind depth) (fun _ absent => ?_)
      fun kinds canonical => ?_
    · cases absent
      exact ⟨fun _ member => (nomatch member), fun _ member => (nomatch member)⟩
    refine gives_readField (gives_readDeclarations depth) (fun _ absent => ?_)
      fun _ others => gives_endFields ⟨canonical, others⟩
    cases absent
    exact ⟨canonical, fun _ member => nomatch member⟩
  · have start : DocumentDraft.IsCanonical ⟨none, none⟩ :=
      ⟨fun _ given => (nomatch given), fun _ given => (nomatch given)⟩
    exact (gives_readMembers (fun _ _ _ => gives_documentMember) true start).map
      fun _ => isCanonical_finish_document

/-! ### The round trip -/

/-- Reading and writing undo each other, as far as something is canonical. -/
structure RoundTrips {α : Type} (write : α → Json) (parse : String → Except Fault α)
    (canonical : α → Prop) : Prop where
  /-- What is canonical is read back from its text, and nothing else is. -/
  parse_print : ∀ value, parse (write value).print = .ok value ↔ canonical value
  /-- Whatever is read is canonical. -/
  canonical_of_parse : ∀ text value, parse text = .ok value → canonical value
  /-- Whatever is read is read again from the text that is written for it. -/
  parse_again : ∀ text value, parse text = .ok value → parse (write value).print = .ok value

/-- A format makes the round trip if it takes what is written for canonical values, and
gives only those. -/
theorem roundTrips_readWhole {α : Type} {write : α → Json} {reader : Reader α}
    {canonical : α → Prop}
    (takes : ∀ value, canonical value → reader.Takes (write value).printChars value)
    (gives : reader.Gives canonical) : RoundTrips write (readWhole reader) canonical := by
  have forth (value : α) (h : canonical value) :
      readWhole reader (write value).print = .ok value := by
    rw [print_eq]
    exact readWhole_of_takes (takes value h)
  exact ⟨fun value => ⟨of_readWhole gives, forth value⟩, fun _ _ => of_readWhole gives,
    fun _ value read => forth value (of_readWhole gives read)⟩

/-- **The round trip**: a kind, a shape and a document are read back from their texts
exactly if they are canonical, and whatever is read from a text is. -/
theorem definitions_roundTrip :
    RoundTrips Kind.toJson Kind.parse Kind.IsCanonical ∧
      RoundTrips Shape.toJson Shape.parse Shape.IsCanonical ∧
      RoundTrips Document.toJson Document.parse Document.IsCanonical :=
  ⟨roundTrips_readWhole (fun _ => takes_readKind 126) (gives_readKind nestingLimit),
    roundTrips_readWhole (fun _ => takes_readShape 125) (gives_readShape nestingLimit),
    roundTrips_readWhole (fun _ => takes_readDocument 122) (gives_readDocument nestingLimit)⟩

/-- A union without tags, a union of one, an unknown tag, a field without a kind, and names
with a line break, a quote and a letter outside ASCII. -/
def variedDocument : Document where
  kinds := .ofList
    [("none", .anyOf []), ("one", .anyOf [.string]), ("other\n", .single (.unknown "Zähler"))]
  interfaces :=
    [⟨"base", none, .empty⟩,
      ⟨"de\"rived", some "base", .ofList [("any", none), ("size", some (.single .number))]⟩]

theorem definitions_roundTrip_varied :
    variedDocument.IsCanonical ∧
      Document.parse
          ("\x7b\"kinds\":\x7b\"none\":[],\"one\":[\"string\"],\"other\\n\":\"Zähler\"\x7d," ++
            "\"interfaces\":[\x7b\"name\":\"base\",\"fields\":\x7b\x7d\x7d," ++
            "\x7b\"name\":\"de\\\"rived\",\"extends\":\"base\"," ++
            "\"fields\":\x7b\"any\":null,\"size\":\"number\"\x7d\x7d]\x7d") =
        .ok variedDocument := by
  have canonical : variedDocument.IsCanonical := by decide
  have written := (definitions_roundTrip.2.2.parse_print variedDocument).2 canonical
  refine ⟨canonical, Eq.trans (congrArg Document.parse ?_) written⟩
  decide +kernel

end Format

end Contracts
