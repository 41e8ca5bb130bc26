import Contracts.Proofs.Format.Grammar

/-!
# Documents are accepted by their grammar

Each reader of the format finds a value exactly where something is spelled that is the value.
For kinds this goes by way of JSON values, as they are read in full before they are looked at;
everything else is refused as soon as it cannot go on.

The depth that a reader is given does not matter as long as it suffices for what is
accepted: documents are nested five brackets deep, and not more.

## Main definitions

* `Format.IsPlain` — the JSON values among which kinds are found.
* `Format.declarationParts`, `Format.documentParts` — the parts that members bring.

## Main results

* `Format.recognizes_readKind`, `Format.recognizes_readFieldKind` — kinds.
* `Format.recognizes_readDeclaration`, `Format.recognizes_readDocument` — what has fields.
* `Format.parse_eq_ok_iff` — **documents are accepted exactly by their grammar.**
-/

namespace Contracts

open Json

namespace Format

variable {α β : Type}

/-! ### Kinds -/

/-- JSON values that kinds of fields are told from: null, strings and lists of strings. -/
inductive IsPlain : Outline → Json → Prop
  /-- Null. -/
  | null : IsPlain .null .null
  /-- A string. -/
  | string (s : String) : IsPlain (.string s) (.string s)
  /-- A list of strings. -/
  | strings (l : List String) : IsPlain (.array (l.map .string)) (.array (l.map .string))

/-- A string is read as a string. -/
def IsString (outline : Outline) (json : Json) : Prop :=
  ∃ s, outline = .string s ∧ json = .string s

theorem readJson_eq_dispatch (depth : Nat) : ∃ list object : Reader Json,
    readJson depth = dispatch (fun scalar => .ok scalar.toJson) list object ∧
      (∀ input json rest, list.Finds input json rest → ∃ items, json = .array items) ∧
      ∀ input json rest, object.Finds input json rest → ∃ members, json = .object members := by
  have stepped {inside : Reader Json} {P : Json → Prop}
      (h : ∀ input json rest, inside.Finds input json rest → P json) :
      ∀ input json rest, (stepInside inside).Finds input json rest → P json := by
    intro input json rest finds
    cases input with
    | nil => exact nomatch finds
    | cons c input => exact h _ _ _ (finds_stepInside_iff.1 finds)
  cases depth with
  | zero =>
    exact ⟨_, _, rfl, fun _ _ _ ⟨_, read⟩ => (nomatch read), fun _ _ _ ⟨_, read⟩ => nomatch read⟩
  | succ depth =>
    refine ⟨_, _, rfl, stepped fun input json rest finds => ?_,
      stepped fun input json rest finds => ?_⟩
    · obtain ⟨items, -, rfl⟩ := Reader.finds_map_iff.1 finds
      exact ⟨items, rfl⟩
    · obtain ⟨dict, -, rfl⟩ := Reader.finds_map_iff.1 finds
      exact ⟨dict.entries, rfl⟩

theorem recognizes_readJson_string (depth : Nat) (s : String) :
    (readJson depth).Recognizes IsString (.string s) := by
  obtain ⟨list, object, same, lists, objects⟩ := readJson_eq_dispatch depth
  rw [same]
  refine recognizes_dispatch (fun found outline said => ?_) (fun _ is => ?_)
    (fun inner rest => ?_) fun inner rest => ?_
  · cases said <;> simp [Scalar.toJson, IsString, eq_comm]
  · obtain ⟨_, same, _⟩ := is
    cases same
  · refine iff_of_false (fun finds => ?_) fun ⟨_, _, _, same, _⟩ => nomatch same
    obtain ⟨_, same⟩ := lists _ _ _ finds
    cases same
  · refine iff_of_false (fun finds => ?_) fun ⟨_, _, _, same, _⟩ => nomatch same
    obtain ⟨_, same⟩ := objects _ _ _ finds
    cases same

theorem forall₂_isString_iff {items : List Outline} {l : List String} :
    List.Forall₂ IsString items (l.map .string) ↔ items = l.map .string := by
  constructor
  · intro are
    induction l generalizing items with
    | nil => cases are; rfl
    | cons s l ih =>
      cases are with
      | cons is are =>
        obtain ⟨_, rfl, same⟩ := is
        cases same
        rw [ih are, List.map_cons]
  · rintro rfl
    rw [List.forall₂_map_left_iff, List.forall₂_map_right_iff, List.forall₂_same]
    exact fun s _ => ⟨s, rfl, rfl⟩

/-- **Plain values** are read exactly if they are spelled. -/
theorem recognizes_readJson {json : Json} (depth : Nat) (plain : ∃ outline, IsPlain outline json) :
    (readJson (depth + 1)).Recognizes IsPlain json := by
  refine recognizes_dispatch (fun found outline said => ?_) (fun _ is => nomatch is)
    (fun inner rest => ?_) fun inner rest => ?_
  · constructor
    · intro accepted
      obtain ⟨outline, is⟩ := plain
      cases accepted
      cases said <;> cases is
      · exact .null
      · exact .string _
    · intro is
      cases is <;> cases said <;> rfl
  · rw [finds_stepInside_iff, Reader.finds_map_iff]
    constructor
    · rintro ⟨values, finds, rfl⟩
      obtain ⟨_, is⟩ := plain
      cases is with
      | strings l =>
        obtain ⟨items, spelled, are⟩ := (finds_readItems_iff fun value member => by
          obtain ⟨s, -, rfl⟩ := List.mem_map.1 member
          exact recognizes_readJson_string depth s).1 finds
        rw [forall₂_isString_iff.1 are] at spelled
        exact ⟨_, spelled, .strings l⟩
    · rintro ⟨items, spelled, is⟩
      cases is with
      | strings l =>
        refine ⟨_, (finds_readItems_iff fun value member => ?_).2
          ⟨_, spelled, forall₂_isString_iff.2 rfl⟩, rfl⟩
        obtain ⟨s, -, rfl⟩ := List.mem_map.1 member
        exact recognizes_readJson_string depth s
  -- no object is plain
  · rw [finds_stepInside_iff, Reader.finds_map_iff]
    refine iff_of_false (fun ⟨_, _, same⟩ => ?_) fun ⟨_, _, is⟩ => nomatch is
    obtain ⟨_, is⟩ := plain
    cases same
    cases is

theorem finds_readAs_iff {decode : Json → Option α} {depth : Nat} {input rest : List Char}
    {value : α} : (readAs decode depth).Finds input value rest ↔
      ∃ json, (readJson depth).Finds input json rest ∧ decode json = some value := by
  constructor
  · rintro ⟨shorter, read⟩
    unfold readAs at read
    split at read
    · cases read
    · next json after shorter' found =>
      split at read
      · next decoded =>
        cases read
        exact ⟨json, ⟨shorter', found⟩, decoded⟩
      · cases read
  · rintro ⟨json, ⟨shorter, found⟩, decoded⟩
    refine ⟨shorter, ?_⟩
    rw [readAs, found]
    dsimp only
    rw [decoded]

/-- What is taken from plain values only is read exactly if they are spelled. -/
theorem recognizes_readAs {decode : Json → Option α} {form : Outline → α → Prop} {value : α}
    (depth : Nat) (h : ∀ json, decode json = some value → ∃ outline, IsPlain outline json)
    (h' : ∀ outline,
      (∃ json, IsPlain outline json ∧ decode json = some value) ↔ form outline value) :
    (readAs decode (depth + 1)).Recognizes form value := by
  intro input rest ends
  rw [finds_readAs_iff]
  simp only [← h']
  constructor
  · rintro ⟨json, finds, decoded⟩
    obtain ⟨outline, spelled, is⟩ :=
      (recognizes_readJson depth (h json decoded) _ _ ends).1 finds
    exact ⟨outline, spelled, json, is, decoded⟩
  · rintro ⟨outline, spelled, json, is, decoded⟩
    exact ⟨json, (recognizes_readJson depth ⟨outline, is⟩ _ _ ends).2 ⟨outline, spelled, is⟩,
      decoded⟩

theorem mapM_ofJson?_eq_some_iff {values : List Json} {tags : List Tag} :
    values.mapM Tag.ofJson? = some tags ↔
      ∃ l : List String, values = l.map .string ∧ tags = l.map Tag.of := by
  induction values generalizing tags with
  | nil =>
    constructor
    · rintro ⟨⟩
      exact ⟨[], rfl, rfl⟩
    · rintro ⟨l, same, rfl⟩
      rw [List.map_eq_nil_iff.1 same.symm]
      rfl
  | cons value values ih =>
    rw [List.mapM_cons]
    constructor
    -- a value that is no string ends it
    · intro mapped
      obtain ⟨tag, found, mapped⟩ := Option.bind_eq_some_iff.1 mapped
      obtain ⟨others, foundOthers, mapped⟩ := Option.bind_eq_some_iff.1 mapped
      cases mapped
      obtain ⟨l, rfl, rfl⟩ := ih.1 foundOthers
      unfold Tag.ofJson? at found
      split at found
      · cases found
        exact ⟨_ :: l, rfl, rfl⟩
      · cases found
    · rintro ⟨_ | ⟨s, l⟩, same, rfl⟩
      · cases same
      · cases same
        rw [ih.2 ⟨l, rfl, rfl⟩]
        rfl

theorem isList_isTag_iff {outline : Outline} {tags : List Tag} :
    IsList IsTag outline tags ↔
      ∃ l : List String, outline = .array (l.map .string) ∧ l.map Tag.of = tags := by
  constructor
  · rintro ⟨items, rfl, are⟩
    induction are with
    | nil => exact ⟨[], rfl, rfl⟩
    | cons is _ ih =>
      obtain ⟨l, same, rfl⟩ := ih
      obtain ⟨s, rfl, rfl⟩ := isTag_iff.1 is
      cases same
      exact ⟨s :: l, rfl, rfl⟩
  · rintro ⟨l, rfl, rfl⟩
    refine ⟨_, rfl, ?_⟩
    rw [List.forall₂_map_left_iff, List.forall₂_map_right_iff, List.forall₂_same]
    exact fun s _ => isTag_iff.2 ⟨s, rfl, rfl⟩

theorem ofJson?_strings (l : List String) :
    Kind.ofJson? (.array (l.map .string)) = some (.anyOf (l.map .of)) := by
  rw [Kind.ofJson?, mapM_ofJson?_eq_some_iff.2 ⟨l, rfl, rfl⟩]
  rfl

/-- Only plain values are kinds. -/
theorem isPlain_of_ofJson? {json : Json} {kind : Kind} (h : Kind.ofJson? json = some kind) :
    ∃ outline, IsPlain outline json := by
  unfold Kind.ofJson? at h
  split at h
  · exact ⟨_, .string _⟩
  · obtain ⟨tags, mapped, -⟩ := Option.map_eq_some_iff.1 h
    obtain ⟨l, rfl, -⟩ := mapM_ofJson?_eq_some_iff.1 mapped
    exact ⟨_, .strings l⟩
  · cases h

theorem exists_ofJson?_iff {outline : Outline} {kind : Kind} :
    (∃ json, IsPlain outline json ∧ Kind.ofJson? json = some kind) ↔ IsKind outline kind := by
  constructor
  · rintro ⟨json, is, decoded⟩
    cases is with
    | null => cases decoded
    | string s =>
      cases decoded
      exact isTag_iff.2 ⟨s, rfl, rfl⟩
    | strings l =>
      rw [ofJson?_strings] at decoded
      cases decoded
      exact isList_isTag_iff.2 ⟨l, rfl, rfl⟩
  · intro is
    cases kind with
    | single tag =>
      obtain ⟨s, rfl, rfl⟩ := isTag_iff.1 is
      exact ⟨_, .string s, rfl⟩
    | anyOf tags =>
      obtain ⟨l, rfl, rfl⟩ := isList_isTag_iff.1 is
      exact ⟨_, .strings l, ofJson?_strings l⟩

/-- **Kinds** are read exactly if they are spelled. -/
theorem recognizes_readKind (depth : Nat) (kind : Kind) :
    (readKind (depth + 1)).Recognizes IsKind kind :=
  recognizes_readAs depth (fun _ => isPlain_of_ofJson?) fun _ => exists_ofJson?_iff

theorem fieldOfJson?_eq_some_iff {json : Json} {kind : Option Kind} :
    Kind.fieldOfJson? json = some kind ↔
      (json = .null ∧ kind = none) ∨
        ∃ found, Kind.ofJson? json = some found ∧ some found = kind := by
  unfold Kind.fieldOfJson?
  split
  · simp [Kind.ofJson?, eq_comm]
  · next notNull =>
    rw [Option.map_eq_some_iff]
    exact (or_iff_right fun null => notNull null.1).symm

theorem exists_fieldOfJson?_iff {outline : Outline} {kind : Option Kind} :
    (∃ json, IsPlain outline json ∧ Kind.fieldOfJson? json = some kind) ↔
      IsFieldKind outline kind := by
  simp only [fieldOfJson?_eq_some_iff]
  constructor
  · rintro ⟨json, is, ⟨rfl, rfl⟩ | ⟨found, decoded, rfl⟩⟩
    · cases is
      rfl
    · exact exists_ofJson?_iff.1 ⟨json, is, decoded⟩
  · intro is
    cases kind with
    | none => exact ⟨.null, is ▸ .null, .inl ⟨rfl, rfl⟩⟩
    | some kind =>
      obtain ⟨json, is, decoded⟩ := exists_ofJson?_iff.2 is
      exact ⟨json, is, .inr ⟨kind, decoded, rfl⟩⟩

/-- **Kinds of fields** are read exactly if they are spelled. -/
theorem recognizes_readFieldKind (depth : Nat) (kind : Option Kind) :
    (readFieldKind (depth + 1)).Recognizes IsFieldKind kind := by
  refine recognizes_readAs depth (fun json decoded => ?_) fun _ => exists_fieldOfJson?_iff
  rcases fieldOfJson?_eq_some_iff.1 decoded with ⟨rfl, -⟩ | ⟨_, decoded, -⟩
  · exact ⟨_, .null⟩
  · exact isPlain_of_ofJson? decoded

/-! ### Texts and dictionaries -/

theorem recognizes_readText (expected text : String) :
    (readText expected).Recognizes IsText text := by
  refine recognizes_dispatch (fun _ _ said => ?_) (fun _ is => nomatch is)
    (fun _ _ => iff_of_false not_finds_refuse fun ⟨_, _, is⟩ => nomatch is)
    fun _ _ => iff_of_false not_finds_refuse fun ⟨_, _, is⟩ => nomatch is
  cases said <;> simp [refuseScalar, IsText]

theorem recognizes_readTextOrNull (expected : String) (text : Option String) :
    (readTextOrNull expected).Recognizes IsTextOrNull text := by
  cases text with
  | none =>
    refine recognizes_dispatch (fun _ _ said => ?_) (fun _ is => nomatch is)
      (fun _ _ => iff_of_false not_finds_refuse fun ⟨_, _, is⟩ => nomatch is)
      fun _ _ => iff_of_false not_finds_refuse fun ⟨_, _, is⟩ => nomatch is
    cases said <;> simp [refuseScalar, IsTextOrNull]
  | some text =>
    refine recognizes_dispatch (fun _ _ said => ?_) (fun _ is => nomatch is)
      (fun _ _ => iff_of_false not_finds_refuse fun ⟨_, _, is⟩ => nomatch is)
      fun _ _ => iff_of_false not_finds_refuse fun ⟨_, _, is⟩ => nomatch is
    cases said <;> simp [refuseScalar, IsTextOrNull, IsText]

/-- **Objects of anything** are read exactly if their values are spelled. -/
theorem recognizes_readMap {value : Nat → Reader β} {form : Outline → β → Prop} {depth : Nat}
    (h : ∀ found, (value depth).Recognizes form found) (dict : Dict β) :
    (readMap value (depth + 1)).Recognizes (IsMap form) dict := by
  refine recognizes_dispatch (fun _ _ said => ?_) (fun _ ⟨_, same, _⟩ => nomatch same)
    (fun _ _ => iff_of_false not_finds_refuse fun ⟨_, _, _, same, _⟩ => nomatch same)
    fun inner rest => ?_
  · cases said <;> simp [refuseScalar, IsMap]
  · rw [finds_bracketed_iff, finds_readDict_iff h]
    simp [IsMap]

theorem recognizes_readShape (depth : Nat) (shape : Shape) :
    (readShape (depth + 2)).Recognizes IsShape shape := by
  intro input rest ends
  refine (Reader.Recognizes.map (recognizes_readMap (recognizes_readFieldKind depth)) Shape.mk shape
    input rest ends).trans ?_
  refine exists_congr fun outline => and_congr_right fun _ => ?_
  constructor
  · rintro ⟨_, is, rfl⟩
    exact is
  · exact fun is => ⟨_, is, rfl⟩

/-! ### Declarations -/

/-- The name of a declaration. -/
def namePart : Json.Part DeclarationDraft where
  name := "name"
  Value := String
  get := DeclarationDraft.name
  set draft name := { draft with name := some name }
  form := IsText

/-- The base of a declaration. -/
def basePart : Json.Part DeclarationDraft where
  name := "extends"
  Value := Option String
  get := DeclarationDraft.base
  set draft base := { draft with base := some base }
  form := IsTextOrNull

/-- The fields of a declaration. -/
def fieldsPart : Json.Part DeclarationDraft where
  name := "fields"
  Value := Shape
  get := DeclarationDraft.fields
  set draft fields := { draft with fields := some fields }
  form := IsShape

/-- The parts of the declaration of an interface. -/
def declarationParts : Parts DeclarationDraft where
  all := [namePart, basePart, fieldsPart]
  nodup := by decide
  get_set := by simp [namePart, basePart, fieldsPart]
  get_set_of_ne := by simp [namePart, basePart, fieldsPart]
  ext := by
    rintro ⟨⟩ ⟨⟩ same
    simpa [namePart, basePart, fieldsPart] using same

theorem forall_declarationParts_iff {P : Json.Part DeclarationDraft → Prop} :
    (∀ part ∈ declarationParts.all, P part) ↔ P namePart ∧ P basePart ∧ P fieldsPart := by
  simp [declarationParts]

theorem accepts_declarationMember (depth : Nat) :
    ∀ part ∈ declarationParts.all, ∀ draft, part.get draft = none →
      ∃ value, declarationMember depth draft part.name = .ok value := by
  simp +contextual [declarationParts, namePart, basePart, fieldsPart, declarationMember, once]

theorem recognizes_declarationMember (depth : Nat) (draft : DeclarationDraft) (key : String)
    (value : Reader DeclarationDraft)
    (accepted : declarationMember (depth + 2) draft key = .ok value) (next : DeclarationDraft) :
    value.Recognizes (declarationParts.Brings draft key) next := by
  unfold declarationMember at accepted
  split at accepted
  · next named =>
    subst named
    exact declarationParts.recognizes_once namePart (by simp [declarationParts])
      (recognizes_readText _) accepted next
  · split at accepted
    · next named =>
      subst named
      exact declarationParts.recognizes_once basePart (by simp [declarationParts])
        (recognizes_readTextOrNull _) accepted next
    · split at accepted
      · next named =>
        subst named
        exact declarationParts.recognizes_once fieldsPart (by simp [declarationParts])
          (recognizes_readShape depth) accepted next
      · cases accepted

theorem getD_none (given : Option (Option α)) : given.getD none = given.join := by
  cases given <;> rfl

theorem finishes_declaration_iff {given : List (String × Outline)}
    {declaration : InterfaceDeclaration} :
    (∃ draft : DeclarationDraft, (∀ part ∈ declarationParts.all,
        Filled part.form (part.get ⟨none, none, none⟩) (given.lookup part.name) (part.get draft)) ∧
      draft.finish = .ok declaration) ↔ DescribesDeclaration given declaration := by
  simp only [forall_declarationParts_iff]
  constructor
  · rintro ⟨⟨name, base, fields⟩, ⟨name_filled, base_filled, fields_filled⟩, finished⟩
    cases name with
    | none => cases finished
    | some name =>
      cases finished
      exact ⟨filled_none_some_iff.1 name_filled,
        exists_filled_iff.1 ⟨base, base_filled, getD_none base⟩,
        exists_filled_iff.1 ⟨fields, fields_filled, rfl⟩⟩
  · rintro ⟨name, base, fields⟩
    obtain ⟨base', base_filled, base_same⟩ := exists_filled_iff.2 base
    obtain ⟨fields', fields_filled, fields_same⟩ := exists_filled_iff.2 fields
    refine ⟨⟨some declaration.name, base', fields'⟩,
      ⟨filled_none_some_iff.2 name, base_filled, fields_filled⟩, ?_⟩
    rw [DeclarationDraft.finish, fields_same, ← getD_none, base_same]

theorem recognizes_readDeclaration (depth : Nat) (declaration : InterfaceDeclaration) :
    (readDeclaration (depth + 3)).Recognizes IsDeclaration declaration := by
  refine recognizes_readFields ?_ fun inner rest => ?_
  · refine (completes_readField (recognizes_readText _) fun name =>
      completes_readField (recognizes_readTextOrNull _) fun base =>
        completes_readField (recognizes_readShape depth) fun fields =>
          completes_endFields _).congr fun items => ?_
    -- without a name there is no declaration, and behind the fields there is nothing
    obtain ⟨_, _, _⟩ := declaration
    rw [describesDeclaration_iff]
    match items with
    | [] => simp [FieldForm]
    | [name] => simp [FieldForm, Optional, List.lookup_cons, eq_comm]
    | [name, base] => simp [FieldForm, Optional, List.lookup_cons, eq_comm]
    | [name, base, fields] => simp [FieldForm, Optional, List.lookup_cons]
    | _ :: _ :: _ :: _ :: _ => simp [FieldForm]
  · rw [finds_requiring_iff]
    simp only [declarationParts.finds_readMembers_iff (accepts_declarationMember (depth + 2))
      (recognizes_declarationMember depth), ← finishes_declaration_iff]
    constructor
    · rintro ⟨draft, ⟨members, spelled, named, filled⟩, finished⟩
      exact ⟨members, spelled, named, draft, filled, finished⟩
    · rintro ⟨members, spelled, named, draft, filled, finished⟩
      exact ⟨draft, ⟨members, spelled, named, filled⟩, finished⟩

theorem recognizes_readDeclarations (depth : Nat) (declarations : List InterfaceDeclaration) :
    (readDeclarations (depth + 4)).Recognizes (IsList IsDeclaration) declarations := by
  refine recognizes_dispatch (fun _ _ said => ?_) (fun _ ⟨_, same, _⟩ => nomatch same)
    (fun inner rest => ?_)
    fun _ _ => iff_of_false not_finds_refuse fun ⟨_, _, _, same, _⟩ => nomatch same
  · cases said <;> simp [refuseScalar, IsList]
  · rw [finds_bracketed_iff,
      finds_readItems_iff fun declaration _ => recognizes_readDeclaration depth declaration]
    simp [IsList]

/-! ### Documents -/

/-- The kinds of types of a document. -/
def kindsPart : Json.Part DocumentDraft where
  name := "kinds"
  Value := Dict Kind
  get := DocumentDraft.kinds
  set draft kinds := { draft with kinds := some kinds }
  form := IsMap IsKind

/-- The interfaces of a document. -/
def interfacesPart : Json.Part DocumentDraft where
  name := "interfaces"
  Value := List InterfaceDeclaration
  get := DocumentDraft.interfaces
  set draft interfaces := { draft with interfaces := some interfaces }
  form := IsList IsDeclaration

/-- The parts of a document. -/
def documentParts : Parts DocumentDraft where
  all := [kindsPart, interfacesPart]
  nodup := by decide
  get_set := by simp [kindsPart, interfacesPart]
  get_set_of_ne := by simp [kindsPart, interfacesPart]
  ext := by
    rintro ⟨⟩ ⟨⟩ same
    simpa [kindsPart, interfacesPart] using same

theorem forall_documentParts_iff {P : Json.Part DocumentDraft → Prop} :
    (∀ part ∈ documentParts.all, P part) ↔ P kindsPart ∧ P interfacesPart := by
  simp [documentParts]

theorem accepts_documentMember (depth : Nat) :
    ∀ part ∈ documentParts.all, ∀ draft, part.get draft = none →
      ∃ value, documentMember depth draft part.name = .ok value := by
  simp +contextual [documentParts, kindsPart, interfacesPart, documentMember, once]

theorem recognizes_documentMember (depth : Nat) (draft : DocumentDraft) (key : String)
    (value : Reader DocumentDraft) (accepted : documentMember (depth + 4) draft key = .ok value)
    (next : DocumentDraft) : value.Recognizes (documentParts.Brings draft key) next := by
  unfold documentMember at accepted
  split at accepted
  · next named =>
    subst named
    exact documentParts.recognizes_once kindsPart (by simp [documentParts])
      (recognizes_readMap (recognizes_readKind (depth + 2))) accepted next
  · split at accepted
    · next named =>
      subst named
      exact documentParts.recognizes_once interfacesPart (by simp [documentParts])
        (recognizes_readDeclarations depth) accepted next
    · cases accepted

theorem finishes_document_iff {given : List (String × Outline)} {document : Document} :
    (∃ draft : DocumentDraft, (∀ part ∈ documentParts.all,
        Filled part.form (part.get ⟨none, none⟩) (given.lookup part.name) (part.get draft)) ∧
      draft.finish = document) ↔ DescribesDocument given document := by
  simp only [forall_documentParts_iff]
  constructor
  · rintro ⟨⟨kinds, interfaces⟩, ⟨kinds_filled, interfaces_filled⟩, rfl⟩
    exact ⟨exists_filled_iff.1 ⟨kinds, kinds_filled, rfl⟩,
      exists_filled_iff.1 ⟨interfaces, interfaces_filled, rfl⟩⟩
  · rintro ⟨kinds, interfaces⟩
    obtain ⟨kinds', kinds_filled, kinds_same⟩ := exists_filled_iff.2 kinds
    obtain ⟨interfaces', interfaces_filled, interfaces_same⟩ := exists_filled_iff.2 interfaces
    refine ⟨⟨kinds', interfaces'⟩, ⟨kinds_filled, interfaces_filled⟩, ?_⟩
    rw [DocumentDraft.finish, kinds_same, interfaces_same]

/-- **Documents** are read exactly if they are spelled. -/
theorem recognizes_readDocument (depth : Nat) (document : Document) :
    (readDocument (depth + 5)).Recognizes IsDocument document := by
  refine recognizes_readFields ?_ fun inner rest => ?_
  · refine (completes_readField (recognizes_readMap (recognizes_readKind (depth + 2))) fun kinds =>
      completes_readField (recognizes_readDeclarations depth) fun interfaces =>
        completes_endFields _).congr fun items => ?_
    obtain ⟨_, _⟩ := document
    rw [describesDocument_iff]
    match items with
    | [] => simp [FieldForm, Optional, Document.empty, eq_comm]
    | [kinds] => simp [FieldForm, Optional, List.lookup_cons, eq_comm]
    | [kinds, interfaces] => simp [FieldForm, Optional, List.lookup_cons]
    | _ :: _ :: _ :: _ => simp [FieldForm]
  · rw [Reader.finds_map_iff]
    simp only [documentParts.finds_readMembers_iff (accepts_documentMember (depth + 4))
      (recognizes_documentMember depth), ← finishes_document_iff]
    constructor
    · rintro ⟨draft, ⟨members, spelled, named, filled⟩, finished⟩
      exact ⟨members, spelled, named, draft, filled, finished⟩
    · rintro ⟨members, spelled, named, draft, filled, finished⟩
      exact ⟨draft, ⟨members, spelled, named, filled⟩, finished⟩

/-! ### Whole texts -/

/-- **Documents are accepted exactly by their grammar**: a text is read if it spells something
in the form of a document, with nothing but blanks around it, and it is read as the document
that is spelled. -/
theorem parse_eq_ok_iff (text : String) :
    ((∃ document, Document.parse text = .ok document) ↔
        ∃ outline, SpelledBy text outline ∧ DocumentForm outline) ∧
      ∀ document, Document.parse text = .ok document ↔
        ∃ outline, SpelledBy text outline ∧ IsDocument outline document := by
  have parsed (document : Document) : Document.parse text = .ok document ↔
      ∃ outline, SpelledBy text outline ∧ IsDocument outline document :=
    readWhole_eq_ok_iff (recognizes_readDocument 122 document)
  refine ⟨?_, parsed⟩
  simp only [parsed, ← exists_isDocument_iff]
  constructor
  · rintro ⟨document, outline, spelled, is⟩
    exact ⟨outline, spelled, document, is⟩
  · rintro ⟨outline, spelled, document, is⟩
    exact ⟨document, outline, spelled, is⟩

end Format

end Contracts
