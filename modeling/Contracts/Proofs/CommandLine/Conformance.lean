import Contracts.CommandLine
import Contracts.Proofs.Format.Acceptance
import Contracts.Proofs.Format.RoundTrip
import Contracts.Proofs.Instance.Imported
import Contracts.Proofs.Json.Meaning

/-!
# What a check decides

A check reads two files, and there are many ways in which it can end.  Which one it is can
be told from what the two texts spell, without reading them as values or making a record: from
the document that the definitions spell, from the sorts of what the record lists, and from the
fields that the interface has once the definitions are loaded.

Not every record that is spelled is taken.  Its brackets may be nested 127 deep and no deeper,
and no number may be too great.

## Main definitions

* `Json.Outline.tag?`, `Json.Outline.category` — the sort of what is spelled.
* `Command.CheckEnds` — how a check ends, with the cause of each way.

## Main results

* `Catalog.load_withSeeds` — what is done with seeds has no part in loading.
* `Course.runAmong_idle` — without a journal, the files stay as they are.
* `Json.exists_parse_eq_object` — which texts are objects, and which objects they are.
* `Command.checkEnds_iff` — every check ends in exactly one of the ways.
* `Request.check_iff_checkEnds` — **what a check decides.**
* `Request.check_great_number` — not every record that is spelled is taken.
-/

namespace Contracts

/-! ### Loading -/

namespace Catalog

/-- The catalog with another policy for seeds. -/
def withSeeds (catalog : Catalog) (seeds : SeedPolicy) : Catalog :=
  { catalog with policy := { catalog.policy with seeds := seeds } }

variable (seeds : SeedPolicy)

theorem declare_withSeeds (catalog : Catalog) (declaration : Declaration) :
    (catalog.withSeeds seeds).declare declaration =
      (catalog.declare declaration).map fun next => (next.1.withSeeds seeds, next.2) := by
  cases declaration with
  | type name kind =>
    unfold declare defineType isClaimed withSeeds
    dsimp only
    split
    · rfl
    · cases catalog.types.registerType catalog.policy.registration name kind <;> rfl
  | interface declaration =>
    unfold declare defineInterface isClaimed withSeeds
    dsimp only
    split
    · rfl
    · cases catalog.interfaces.registerInterface catalog.policy.registration declaration.name
        declaration.fields declaration.base <;> rfl

theorem declareAll_withSeeds (catalog : Catalog) (declarations : List Declaration) :
    (catalog.withSeeds seeds).declareAll declarations =
      { catalog.declareAll declarations with
        catalog := (catalog.declareAll declarations).catalog.withSeeds seeds } := by
  induction declarations generalizing catalog with
  | nil => rfl
  | cons declaration rest ih =>
    rw [declareAll, declareAll, declare_withSeeds]
    cases catalog.declare declaration with
    | error violation => rfl
    | ok next =>
      obtain ⟨next, events⟩ := next
      simp only [Except.map, ih]

/-- What is done with seeds has no part in loading a document. -/
theorem load_withSeeds (catalog : Catalog) (document : Document) :
    (catalog.withSeeds seeds).load document =
      { catalog.load document with
        catalog := (catalog.load document).catalog.withSeeds seeds } := by
  unfold load
  rw [declareAll_withSeeds]
  dsimp only
  split <;> rfl

end Catalog

/-! ### Files of texts -/

theorem fromUTF8?_toUTF8 (text : String) : String.fromUTF8? text.toUTF8 = some text := by
  simp only [String.fromUTF8?, String.toUTF8_eq_toByteArray, dif_pos text.isValidUTF8]
  rfl

/-- The bytes of a text are read as the text. -/
theorem FileTree.read_of_readBytes {tree : FileTree} {working : List String} {path text : String}
    (h : tree.readBytes working path = .ok text.toUTF8) : tree.read working path = .ok text := by
  rw [read, h]
  simp only [fromUTF8?_toUTF8]

/-! ### Courses without a journal -/

theorem Journal.lines_idle (stamp : Stamp) (events : List Event) :
    Journal.idle.lines stamp events = [] := by
  rw [lines, List.map_eq_nil_iff, List.filter_eq_nil_iff]
  exact fun _ _ => Bool.false_ne_true

/-- Without a journal, the files stay as they are and no line is lost. -/
theorem Course.runAmong_idle (stamp : Stamp) (working : List String) (files : FileTree)
    (course : Course) :
    course.runAmong .idle stamp working files "" =
      ⟨(course.report (files.read working)).verdict, [], files⟩ := by
  induction course with
  | ended verdict => rfl
  | telling events rest ih =>
    rw [runAmong, Journal.lines_idle]
    exact ih
  | reading path rest ih => exact ih (files.read working path)

/-! ### What a record spells -/

namespace Json

/-- The tag of what is spelled.  Null has none. -/
def Outline.tag? : Outline → Option Tag
  | .null => none
  | .boolean _ => some .boolean
  | .number _ => some .number
  | .string _ => some .string
  | .array _ | .object _ => some .object

/-- What is reported of what is spelled. -/
def Outline.category : Outline → Category
  | .boolean _ => .boolean
  | .number _ => .number
  | .string _ => .string
  | .null | .array _ | .object _ => .object

/-- A value is of the sort of what stands for it. -/
theorem StandsFor.sort_eq {depth : Nat} {outline : Outline} {json : Json}
    (h : StandsFor depth outline json) :
    json.tag? = outline.tag? ∧ json.category = outline.category := by
  have scalar {found : Scalar} (said : found.IsSpelled outline)
      (sort : found.toJson.tag? = outline.tag? ∧ found.toJson.category = outline.category) :
      json.tag? = outline.tag? ∧ json.category = outline.category :=
    (standsFor_scalar_iff said).1 h ▸ sort
  cases outline with
  | null => exact scalar .null ⟨rfl, rfl⟩
  | boolean b => exact scalar (.boolean b) ⟨rfl, rfl⟩
  | number text =>
    obtain ⟨n, said⟩ := exists_number_of_standsFor h
    exact scalar said ⟨rfl, rfl⟩
  | string s => exact scalar (.string s) ⟨rfl, rfl⟩
  | array items =>
    cases depth with
    | zero =>
      obtain ⟨_, said⟩ := exists_isSpelled_of_standsFor_zero h
      cases said
    | succ =>
      obtain ⟨values, -, rfl⟩ := standsFor_array_iff.1 h
      exact ⟨rfl, rfl⟩
  | object members =>
    cases depth with
    | zero =>
      obtain ⟨_, said⟩ := exists_isSpelled_of_standsFor_zero h
      cases said
    | succ =>
      obtain ⟨dict, -, rfl⟩ := standsFor_object_iff.1 h
      exact ⟨rfl, rfl⟩

/-- The object of members that are spelled binds each key to what the last of its members
stands for. -/
theorem IsDict.get?_eq {depth : Nat} {members : List (String × Outline)} {dict : Dict Json}
    (h : IsDict (StandsFor depth) members dict) (key : String) :
    Option.Rel (StandsFor depth) (members.reverse.lookup key) (dict.get? key) := by
  obtain ⟨entries, are, get⟩ := h
  rw [get]
  replace are := List.forall₂_reverse_iff.2 are
  generalize members.reverse = members at are
  generalize entries.reverse = entries at are
  induction are with
  | nil => exact .none
  | @cons member entry _ _ is _ ih =>
    rw [Dict.lookup_cons_eq_ite, Dict.lookup_cons_eq_ite, is.1]
    split
    · exact .some is.2
    · exact ih

/-- **Which texts are objects, and which objects they are**: what spells one within the limits
is read, and binds each key to what the last of its members stands for. -/
theorem exists_parse_eq_object {text : String} {members : List (String × Outline)}
    (spelled : SpelledBy text (.object members)) (within : (Outline.object members).IsWithin 127) :
    ∃ dict, parse text = .ok (.object dict.entries) ∧ IsDict (StandsFor 126) members dict := by
  obtain ⟨json, is⟩ := exists_standsFor_iff.2 within
  obtain ⟨dict, isDict, rfl⟩ := standsFor_object_iff.1 is
  exact ⟨dict, parse_eq_ok_iff_standsFor.2 ⟨_, spelled, is⟩, isDict⟩

end Json

/-- The first objection to an object is the first one to what is spelled. -/
theorem Shape.findSome?_objection (shape : Shape) (interface : String) {depth : Nat}
    {members : List (String × Json.Outline)} {dict : Dict Json}
    (is : Json.IsDict (Json.StandsFor depth) members dict) :
    (dict.entries.findSome? fun entry => shape.objection interface entry.1 entry.2) =
      (Dict.ofList members).entries.findSome? fun entry =>
        shape.objectionTo interface entry.1 entry.2.tag? entry.2.category := by
  refine Dict.findSome?_entries_congr fun key => ?_
  have same := is.get?_eq key
  rw [Dict.get?_ofList]
  generalize members.reverse.lookup key = outline? at same
  generalize dict.get? key = json? at same
  cases same with
  | none => rfl
  | some stands =>
    obtain ⟨tag, category⟩ := stands.sort_eq
    rw [Option.bind_some, Option.bind_some, objection, tag, category]

/-! ### How a check ends -/

namespace Command

open Json (Outline SpelledBy IsDict StandsFor)

section Check

variable (files : FileTree) (working : List String) (definitions interface record : String)

/-- A text spells a document. -/
def SpellsDocument (text : String) (document : Document) : Prop :=
  ∃ outline, SpelledBy text outline ∧ Format.IsDocument outline document

/-- The definitions file spells a document that loads, into a certain catalog. -/
def LoadsTo (catalog : Catalog) : Prop :=
  ∃ text document tally, files.read working definitions = .ok text ∧
    SpellsDocument text document ∧
    ((Catalog.empty {}).load document).outcome = .ok tally ∧
    ((Catalog.empty {}).load document).catalog = catalog

/-- The record file spells something within the limits of what is taken: brackets are nested
at most 127 deep, and no number is too great. -/
def Spells (outline : Outline) : Prop :=
  ∃ text, files.read working record = .ok text ∧ SpelledBy text outline ∧ outline.IsWithin 127

/-- How a check ends, with the cause of each way.  Of the members of the record with one
key, the last that is listed counts. -/
inductive CheckEnds (seeds : SeedPolicy) : Verdict → Prop
  /-- The definitions cannot be read. -/
  | definitionsUnreadable {fault : FileFault}
      (read : files.read working definitions = .error fault) :
      CheckEnds seeds (.failed (.definitions definitions (.file fault)))
  /-- The definitions spell no document; the fault is reported. -/
  | definitionsMalformed {text : String} {fault : Json.Fault}
      (read : files.read working definitions = .ok text)
      (noDocument : ∀ document, ¬ SpellsDocument text document)
      (reported : Document.parse text = .error fault) :
      CheckEnds seeds (.failed (.definitions definitions (.content text fault)))
  /-- The definitions do not load, whatever the record is. -/
  | notLoaded {text : String} {document : Document} {violation : Violation}
      (read : files.read working definitions = .ok text)
      (spelled : SpellsDocument text document)
      (refused : ((Catalog.empty {}).load document).outcome = .error violation) :
      CheckEnds seeds (.violated violation)
  /-- The record cannot be read. -/
  | recordUnreadable {catalog : Catalog} {fault : FileFault}
      (loads : LoadsTo files working definitions catalog)
      (read : files.read working record = .error fault) :
      CheckEnds seeds (.failed (.recordUnreadable record fault))
  /-- The record spells nothing within the limits; the fault is reported. -/
  | recordMalformed {catalog : Catalog} {text : String} {fault : Json.Fault}
      (loads : LoadsTo files working definitions catalog)
      (read : files.read working record = .ok text)
      (nothing : ∀ outline, ¬ Spells files working record outline)
      (reported : Json.parse text = .error fault) :
      CheckEnds seeds (.failed (.recordMalformed record text fault))
  /-- The record spells no object. -/
  | recordNotObject {catalog : Catalog} {outline : Outline}
      (loads : LoadsTo files working definitions catalog)
      (spells : Spells files working record outline)
      (noObject : ∀ members, outline ≠ .object members) :
      CheckEnds seeds (.failed (.recordNotObject record))
  /-- The name is not that of an interface. -/
  | unknownInterface {catalog : Catalog} {listed : List (String × Outline)}
      (loads : LoadsTo files working definitions catalog)
      (lists : Spells files working record (.object listed))
      (unknown : catalog.interfaces.get? interface = none) :
      CheckEnds seeds (.violated (.unknownInterface interface))
  /-- The record is taken as it is. -/
  | trusted {catalog : Catalog} {listed : List (String × Outline)} {shape : Shape}
      (loads : LoadsTo files working definitions catalog)
      (lists : Spells files working record (.object listed))
      (known : catalog.interfaces.get? interface = some shape) (trusts : seeds = .trust) :
      CheckEnds seeds (.passed "ok")
  /-- There is no objection to any member of the record. -/
  | conforming {catalog : Catalog} {listed : List (String × Outline)} {shape : Shape}
      (loads : LoadsTo files working definitions catalog)
      (lists : Spells files working record (.object listed))
      (known : catalog.interfaces.get? interface = some shape) (validates : seeds = .validate)
      (conforms : ∀ key outline, listed.reverse.lookup key = some outline →
        shape.objectionTo interface key outline.tag? outline.category = none) :
      CheckEnds seeds (.passed "ok")
  /-- There is one, and none to a member with a lesser key. -/
  | violating {catalog : Catalog} {listed : List (String × Outline)} {shape : Shape}
      {key : String} {outline : Outline} {violation : Violation}
      (loads : LoadsTo files working definitions catalog)
      (lists : Spells files working record (.object listed))
      (known : catalog.interfaces.get? interface = some shape) (validates : seeds = .validate)
      (counts : listed.reverse.lookup key = some outline)
      (objects : shape.objectionTo interface key outline.tag? outline.category = some violation)
      (least : ∀ other outline', other < key → listed.reverse.lookup other = some outline' →
        shape.objectionTo interface other outline'.tag? outline'.category = none) :
      CheckEnds seeds (.violated violation)

variable {files working definitions interface record} {seeds : SeedPolicy} {catalog : Catalog}
  {listed : List (String × Outline)}

theorem parse_eq_ok_iff_spellsDocument {text : String} {document : Document} :
    Document.parse text = .ok document ↔ SpellsDocument text document :=
  Json.readWhole_eq_ok_iff (Format.recognizes_readDocument 122 document)

/-- What is printed of a document spells it. -/
theorem spellsDocument_print {document : Document} (canonical : document.IsCanonical) :
    SpellsDocument document.toJson.print document := by
  refine parse_eq_ok_iff_spellsDocument.1 ?_
  rw [Document.parse, Json.print_eq]
  exact Json.readWhole_of_takes (Format.takes_readDocument 122 canonical)

/-- How a check ends, for a certain policy. -/
abbrev checkVerdict (files : FileTree) (working : List String)
    (definitions interface record : String) (seeds : SeedPolicy) : Verdict :=
  ((checkCourse definitions interface record seeds).report (files.read working)).verdict

/-- Once the definitions are loaded, the record decides. -/
theorem verdict_of_loadsTo (loads : LoadsTo files working definitions catalog) :
    checkVerdict files working definitions interface record seeds =
      match readRecord record (files.read working record) with
      | .error failure => .failed failure
      | .ok (store, id) =>
          ((checkRecord (catalog.withSeeds seeds) interface store id).report
            (files.read working)).verdict := by
  obtain ⟨text, document, tally, read, spelled, loaded, rfl⟩ := loads
  have parsed := parse_eq_ok_iff_spellsDocument.2 spelled
  have load := (Catalog.empty {}).load_withSeeds seeds document
  change (Catalog.empty ⟨seeds, .replace⟩).load document = _ at load
  simp only [checkVerdict, checkCourse, Course.report, read, readDocument, parsed, load, loaded]
  cases readRecord record (files.read working record) <;> rfl

/-- The record of an object has its members. -/
theorem readRecord_of_lists (lists : Spells files working record (.object listed)) :
    ∃ dict store id, IsDict (StandsFor 126) listed dict ∧
      readRecord record (files.read working record) = .ok (store, id) ∧
        store.record id = Dict.ofList (Store.empty.addMembers dict.entries).2 := by
  obtain ⟨text, read, spelled, within⟩ := lists
  obtain ⟨dict, parsed, is⟩ := Json.exists_parse_eq_object spelled within
  let made := Store.empty.addMembers dict.entries
  let filled := made.1.newRecord (.ofList made.2)
  refine ⟨dict, filled.1, filled.2, is, ?_, Store.record_newRecord_self _ _⟩
  simp only [readRecord, read, parsed, Store.addJson]
  rfl

/-- An instance is made of the record, or the check ends with the reason why not. -/
theorem verdict_checkRecord {shape : Shape} (known : catalog.interfaces.get? interface = some shape)
    (store : Store) (id : RecordId) (read : ReadText) :
    ((checkRecord catalog interface store id).report read).verdict =
      match World.constructWith ⟨store, #[], 0⟩ ⟨interface, shape, catalog.policy.seeds⟩ id with
      | .ok _ => .passed "ok"
      | .error violation => .violated violation := by
  unfold checkRecord Catalog.interface
  rw [known]
  dsimp only
  cases World.constructWith ⟨store, #[], 0⟩ ⟨interface, shape, catalog.policy.seeds⟩ id <;> rfl

/-- Once the record is read too, the fields of the interface decide. -/
theorem verdict_of_lists (loads : LoadsTo files working definitions catalog)
    (lists : Spells files working record (.object listed)) :
    checkVerdict files working definitions interface record seeds =
      match catalog.interfaces.get? interface with
      | none => .violated (.unknownInterface interface)
      | some shape =>
          match seeds with
          | .trust => .passed "ok"
          | .validate =>
              match (Dict.ofList listed).entries.findSome? fun entry =>
                  shape.objectionTo interface entry.1 entry.2.tag? entry.2.category with
              | none => .passed "ok"
              | some violation => .violated violation := by
  obtain ⟨dict, store, id, is, read, entries⟩ := readRecord_of_lists lists
  rw [verdict_of_loadsTo loads, read]
  dsimp only
  cases known : catalog.interfaces.get? interface with
  | none =>
    have unknown : (catalog.withSeeds seeds).interfaces.get? interface = none := known
    unfold checkRecord Catalog.interface
    rw [unknown]
    rfl
  | some shape =>
    have known' : (catalog.withSeeds seeds).interfaces.get? interface = some shape := known
    rw [verdict_checkRecord known']
    cases seeds with
    | trust => rfl
    | validate =>
      have first := Interface.first?_addMembers ⟨interface, shape, .validate⟩ Store.empty dict
      rw [← entries, shape.findSome?_objection interface is] at first
      have validates : (catalog.withSeeds .validate).policy.seeds = .validate := rfl
      dsimp only at first ⊢
      rw [← first, validates]
      split
      · next made =>
        have nothing := (Interface.exists_constructWith rfl).1 ⟨_, made⟩
        dsimp only at nothing
        rw [nothing]
      · next refused =>
        have found := (Interface.constructWith_eq_error rfl).1 refused
        dsimp only at found
        rw [found]

/-- A record that spells no object is not taken. -/
theorem readRecord_of_no_object {outline : Outline} (spells : Spells files working record outline)
    (noObject : ∀ members, outline ≠ .object members) :
    readRecord record (files.read working record) = .error (.recordNotObject record) := by
  obtain ⟨text, read, spelled, within⟩ := spells
  obtain ⟨json, is⟩ := Json.exists_standsFor_iff.2 within
  simp only [readRecord, read, Json.parse_eq_ok_iff_standsFor.2 ⟨outline, spelled, is⟩]
  cases json with
  | object entries =>
    -- only objects stand for objects
    cases outline with
    | object members => exact absurd rfl (noObject members)
    | array =>
      obtain ⟨_, -, same⟩ := Json.standsFor_array_iff.1 is
      cases same
    | null | boolean | number | string =>
      obtain ⟨_, said, same⟩ := is
      cases said
      cases same
  | _ => rfl

/-- A record in which a fault is found spells nothing within the limits. -/
theorem not_spells_of_parse {text : String} {fault : Json.Fault}
    (read : files.read working record = .ok text) (parsed : Json.parse text = .error fault)
    (outline : Outline) : ¬ Spells files working record outline := by
  rintro ⟨_, read', spelled, within⟩
  rw [read] at read'
  cases read'
  obtain ⟨json, is⟩ := Json.exists_standsFor_iff.2 within
  rw [Json.parse_eq_ok_iff_standsFor.2 ⟨outline, spelled, is⟩] at parsed
  cases parsed

/-- Each of the ways is how the check ends, if its cause is there. -/
theorem checkVerdict_of_checkEnds {verdict : Verdict}
    (ends : CheckEnds files working definitions interface record seeds verdict) :
    checkVerdict files working definitions interface record seeds = verdict := by
  cases ends with
  | definitionsUnreadable read =>
    simp only [checkVerdict, checkCourse, Course.report, read, readDocument]
  | definitionsMalformed read _ reported =>
    simp only [checkVerdict, checkCourse, Course.report, read, readDocument, reported]
  | notLoaded read spelled refused =>
    have parsed := parse_eq_ok_iff_spellsDocument.2 spelled
    have load := (Catalog.empty {}).load_withSeeds seeds
    change ∀ document, (Catalog.empty ⟨seeds, .replace⟩).load document = _ at load
    simp only [checkVerdict, checkCourse, Course.report, read, readDocument, parsed, load, refused]
  | recordUnreadable loads read => simp only [verdict_of_loadsTo loads, readRecord, read]
  | recordMalformed loads read _ reported =>
    simp only [verdict_of_loadsTo loads, readRecord, read, reported]
  | recordNotObject loads spells noObject =>
    rw [verdict_of_loadsTo loads, readRecord_of_no_object spells noObject]
  | unknownInterface loads lists unknown => rw [verdict_of_lists loads lists, unknown]
  | trusted loads lists known trusts => rw [verdict_of_lists loads lists, known, trusts]
  | conforming loads lists known validates conforms =>
    rw [verdict_of_lists loads lists, known, validates]
    dsimp only
    rw [Dict.findSome?_entries_eq_none.2 fun key outline bound => ?_]
    rw [Dict.get?_ofList] at bound
    exact conforms key outline bound
  | violating loads lists known validates counts objects least =>
    rw [verdict_of_lists loads lists, known, validates]
    dsimp only
    rw [Dict.findSome?_entries_eq_some.2
      ⟨_, _, by rw [Dict.get?_ofList]; exact counts, objects, fun other outline' less bound => ?_⟩]
    rw [Dict.get?_ofList] at bound
    exact least other outline' less bound

variable (files working definitions interface record seeds) in
/-- One of the causes is always there. -/
theorem exists_checkEnds :
    ∃ verdict, CheckEnds files working definitions interface record seeds verdict := by
  cases read : files.read working definitions with
  | error fault => exact ⟨_, .definitionsUnreadable read⟩
  | ok text =>
  cases parsed : Document.parse text with
  | error fault =>
    refine ⟨_, .definitionsMalformed read (fun document spelled => ?_) parsed⟩
    rw [parse_eq_ok_iff_spellsDocument.2 spelled] at parsed
    cases parsed
  | ok document =>
  have spelled := parse_eq_ok_iff_spellsDocument.1 parsed
  cases loaded : ((Catalog.empty {}).load document).outcome with
  | error violation => exact ⟨_, .notLoaded read spelled loaded⟩
  | ok tally =>
  have loads : LoadsTo files working definitions _ :=
    ⟨text, document, tally, read, spelled, loaded, rfl⟩
  cases readRecord : files.read working record with
  | error fault => exact ⟨_, .recordUnreadable loads readRecord⟩
  | ok text =>
  cases parsedRecord : Json.parse text with
  | error fault =>
    exact ⟨_, .recordMalformed loads readRecord (not_spells_of_parse readRecord parsedRecord)
      parsedRecord⟩
  | ok json =>
  obtain ⟨outline, spelled, is⟩ := Json.parse_eq_ok_iff_standsFor.1 parsedRecord
  have spells : Spells files working record outline :=
    ⟨text, readRecord, spelled, Json.exists_standsFor_iff.1 ⟨json, is⟩⟩
  by_cases noObject : ∀ members, outline ≠ .object members
  · exact ⟨_, .recordNotObject loads spells noObject⟩
  obtain ⟨listed, object⟩ := Classical.not_forall.1 noObject
  cases Classical.not_not.1 object
  cases known : ((Catalog.empty {}).load document).catalog.interfaces.get? interface with
  | none => exact ⟨_, .unknownInterface loads spells known⟩
  | some shape =>
  cases policy : seeds with
  | trust => exact ⟨_, .trusted loads spells known rfl⟩
  | validate =>
  cases first : (Dict.ofList listed).entries.findSome? fun entry =>
      shape.objectionTo interface entry.1 entry.2.tag? entry.2.category with
  | none =>
    have conforms := Dict.findSome?_entries_eq_none.1 first
    simp only [Dict.get?_ofList] at conforms
    exact ⟨_, .conforming loads spells known rfl conforms⟩
  | some violation =>
    obtain ⟨key, outline, counts, objects, least⟩ := Dict.findSome?_entries_eq_some.1 first
    simp only [Dict.get?_ofList] at counts least
    exact ⟨_, .violating loads spells known rfl counts objects least⟩

/-- **Every check ends in exactly one of the ways.** -/
theorem checkEnds_iff {verdict : Verdict} :
    CheckEnds files working definitions interface record seeds verdict ↔
      checkVerdict files working definitions interface record seeds = verdict := by
  refine ⟨checkVerdict_of_checkEnds, ?_⟩
  rintro rfl
  obtain ⟨verdict, ends⟩ := exists_checkEnds files working definitions interface record seeds
  rwa [checkVerdict_of_checkEnds ends]

/-- The order in which a record lists members with different keys makes no difference. -/
theorem checkVerdict_eq_of_perm {other : String} {reordered : List (String × Outline)}
    (lists : Spells files working record (.object listed))
    (lists' : Spells files working other (.object reordered)) (perm : listed.Perm reordered)
    (nodup : (listed.map Prod.fst).Nodup) :
    checkVerdict files working definitions interface record seeds =
      checkVerdict files working definitions interface other seeds := by
  by_cases loads : ∃ catalog, LoadsTo files working definitions catalog
  · obtain ⟨catalog, loads⟩ := loads
    rw [verdict_of_lists loads lists, verdict_of_lists loads lists',
      Dict.ofList_eq_of_perm perm nodup]
  · -- the records are not even read
    obtain ⟨verdict, ends⟩ := exists_checkEnds files working definitions interface record seeds
    refine (checkVerdict_of_checkEnds ends).trans (Eq.symm (checkVerdict_of_checkEnds ?_))
    cases ends with
    | definitionsUnreadable read => exact .definitionsUnreadable read
    | definitionsMalformed read noDocument reported =>
      exact .definitionsMalformed read noDocument reported
    | notLoaded read spelled refused => exact .notLoaded read spelled refused
    | recordUnreadable loaded | recordMalformed loaded | recordNotObject loaded
    | unknownInterface loaded | trusted loaded | conforming loaded | violating loaded =>
      exact absurd ⟨_, loaded⟩ loads

/-- What passes when it is validated is taken on trust. -/
theorem checkEnds_trust {message : String}
    (ends : CheckEnds files working definitions interface record .validate (.passed message)) :
    CheckEnds files working definitions interface record .trust (.passed "ok") := by
  cases ends with
  | trusted _ _ _ trusts => cases trusts
  | conforming loads lists known _ _ => exact .trusted loads lists known rfl

end Check

end Command

/-! ### The check command -/

namespace Request

/-- What is brought about by a check that keeps no journal. -/
abbrev check (definitions interface record : String) (seeds : SeedPolicy) : Request :=
  .perform none (.check definitions interface record seeds)

theorem runAmong_check (stamp : Stamp) (files : FileTree) (working : List String)
    (definitions interface record : String) (seeds : SeedPolicy) :
    (check definitions interface record seeds).runAmong stamp files working =
      ⟨Command.checkVerdict files working definitions interface record seeds, [], files⟩ := by
  have run := Course.runAmong_idle stamp working files
    (.telling [] (Command.checkCourse definitions interface record seeds))
  exact run

open Command in
/-- **What a check decides**: it ends in the way whose cause is there, with the status of that
way, and changes no file.  The order in which the record lists members with different keys
makes no difference, and what passes otherwise also passes on trust. -/
theorem check_iff_checkEnds (stamp : Stamp) (files : FileTree) (working : List String)
    (definitions interface : String) :
    let run (record : String) (seeds : SeedPolicy) : Outcome :=
      (check definitions interface record seeds).runAmong stamp files working
    (∀ record seeds verdict, (run record seeds).verdict = verdict ↔
        CheckEnds files working definitions interface record seeds verdict) ∧
      (∀ record seeds, (run record seeds).exit = (run record seeds).verdict.exit ∧
        (run record seeds).exit.status =
          (match (run record seeds).verdict with
            | .passed _ => 0
            | .violated _ => 1
            | .failed _ => 2) ∧
        (run record seeds).files = files) ∧
      (∀ record other seeds listed reordered, Spells files working record (.object listed) →
        Spells files working other (.object reordered) → listed.Perm reordered →
        (listed.map Prod.fst).Nodup → (run record seeds).exit = (run other seeds).exit) ∧
      ∀ record, (run record .validate).exit.status = 0 → (run record .trust).exit.status = 0 := by
  intro run
  have exits (record : String) (seeds : SeedPolicy) :
      (run record seeds).exit = (run record seeds).verdict.exit := by
    simp only [run, runAmong_check, Outcome.exit, List.map_nil, String.join_nil,
      String.empty_append]
  have decides (record : String) (seeds : SeedPolicy) (verdict : Verdict) :
      (run record seeds).verdict = verdict ↔
        CheckEnds files working definitions interface record seeds verdict := by
    rw [checkEnds_iff]
    simp only [run, runAmong_check]
  have status (verdict : Verdict) : verdict.exit.status =
      (match verdict with | .passed _ => 0 | .violated _ => 1 | .failed _ => 2) := by
    cases verdict <;> rfl
  refine ⟨decides, fun record seeds => ⟨exits record seeds, ?_, ?_⟩, ?_, fun record passed => ?_⟩
  · rw [exits, status]
  · simp only [run, runAmong_check]
  · intro record other seeds listed reordered lists lists' perm nodup
    rw [exits, exits]
    refine congrArg Verdict.exit ?_
    simp only [run, runAmong_check]
    exact checkVerdict_eq_of_perm lists lists' perm nodup
  · rw [exits] at passed ⊢
    cases verdict : (run record .validate).verdict with
    | passed message =>
      rw [(decides record .trust _).2 (checkEnds_trust ((decides record .validate _).1 verdict))]
      rfl
    | violated violation => rw [verdict] at passed; cases passed
    | failed failure => rw [verdict] at passed; cases passed

/-- An interface with a field for numbers, and one of no kind. -/
def itemDocument : Document :=
  ⟨.empty, [⟨"Item", none, .ofList [("n", some (.single .number)), ("note", none)]⟩]⟩

/-- The catalog with the interface. -/
def itemCatalog : Catalog := ((Catalog.empty {}).load itemDocument).catalog

/-- A file with the interface, two that list the members of an item in either order, and one
whose only member is a great number. -/
def itemFiles : FileTree :=
  .directory
    [("items", .file itemDocument.toJson.print.toUTF8),
      ("first", .file "\x7b\"n\":2.5,\"note\":null\x7d".toUTF8),
      ("second", .file "\x7b\"note\":null,\"n\":2.5\x7d".toUTF8),
      ("great", .file "\x7b\"note\":1e400\x7d".toUTF8)]

open Command in
theorem loadsTo_items : LoadsTo itemFiles [] "items" itemCatalog :=
  ⟨_, itemDocument, ⟨0, 1⟩, FileTree.read_of_readBytes rfl, spellsDocument_print (by decide),
    by decide, rfl⟩

open Json Command in
theorem check_iff_checkEnds_items :
    let run (record : String) (seeds : SeedPolicy) : Outcome :=
      (check "items" "Item" record seeds).runAmong ⟨0, ""⟩ itemFiles []
    (run "first" .validate).exit = ⟨0, "ok\n", ""⟩ ∧
      (run "first" .validate).exit = (run "second" .validate).exit ∧
      (run "first" .trust).exit.status = 0 := by
  intro run
  obtain ⟨decides, exits, reordered, trusted⟩ :=
    check_iff_checkEnds ⟨0, ""⟩ itemFiles [] "items" "Item"
  let numeral : Numeral :=
    ⟨false, ['2'], ['5'], none, ⟨by decide, List.forall_mem_singleton.2 rfl⟩, .inr (by decide),
      List.forall_mem_singleton.2 rfl⟩
  have inside : numeral.InRange :=
    ⟨['2'], ['5'], longestFitting_self (by decide), longestFitting_self (by decide),
      .inr ⟨by decide, fun even => absurd even (by decide)⟩⟩
  have isNumeral : IsNumeral ['2', '.', '5'] := isNumeral_iff.2 ⟨numeral, rfl⟩
  have within : (Outline.number ['2', '.', '5']).IsWithin 126 := ⟨numeral, rfl, inside⟩
  let number : String × Outline := ("n", .number ['2', '.', '5'])
  let note : String × Outline := ("note", .null)
  have numberSpelled (rest : List Char) :
      Member Spells ('"' :: 'n' :: '"' :: ':' :: '2' :: '.' :: '5' :: rest) number rest :=
    .mk (characters_plain ['n'] (by decide) _) (.none _) (.none _) (.number isNumeral rfl)
  have noteSpelled (rest : List Char) :
      Member Spells
        ('"' :: 'n' :: 'o' :: 't' :: 'e' :: '"' :: ':' :: 'n' :: 'u' :: 'l' :: 'l' :: rest)
        note rest :=
    .mk (characters_plain ['n', 'o', 't', 'e'] (by decide) _) (.none _) (.none _) (.null _)
  have first : Spells itemFiles [] "first" (.object [number, note]) := by
    refine ⟨_, FileTree.read_of_readBytes rfl, ⟨_, [], .none _, .object ?_, .none _⟩, ?_⟩
    · exact .cons (.first (.none _)) (numberSpelled _)
        (.cons (.next (.none _) (.none _)) (noteSpelled _) (.closed (.none _)))
    · exact List.forall_mem_cons.2 ⟨within, List.forall_mem_singleton.2 trivial⟩
  have second : Spells itemFiles [] "second" (.object [note, number]) := by
    refine ⟨_, FileTree.read_of_readBytes rfl, ⟨_, [], .none _, .object ?_, .none _⟩, ?_⟩
    · exact .cons (.first (.none _)) (noteSpelled _)
        (.cons (.next (.none _) (.none _)) (numberSpelled _) (.closed (.none _)))
    · exact List.forall_mem_cons.2 ⟨trivial, List.forall_mem_singleton.2 within⟩
  have verdict : (run "first" .validate).verdict = .passed "ok" := by
    refine (decides "first" .validate _).2
      (.conforming loadsTo_items first rfl rfl fun key outline counts => ?_)
    have listed : (key, outline) ∈ [number, note] :=
      Dict.mem_of_get?_ofList ((Dict.get?_ofList [number, note] key).trans counts)
    rcases List.mem_cons.1 listed with same | listed
    · obtain ⟨rfl, rfl⟩ := Prod.mk.inj same
      decide
    · obtain ⟨rfl, rfl⟩ := Prod.mk.inj (List.mem_singleton.1 listed)
      decide
  have passed : (run "first" .validate).exit = ⟨0, "ok\n", ""⟩ := by
    rw [(exits "first" .validate).1, verdict]
    rfl
  refine ⟨passed, ?_, trusted "first" (by rw [passed])⟩
  exact reordered "first" "second" .validate _ _ first second (.swap _ _ _) (by decide)

open Json Command in
/-- **Not every record that is spelled is taken**: this one is an object, and there is no
objection to its only member, but the number there is too great. -/
theorem check_great_number :
    let number := Outline.number ['1', 'e', '4', '0', '0']
    LoadsTo itemFiles [] "items" itemCatalog ∧
      itemFiles.read [] "great" = .ok "\x7b\"note\":1e400\x7d" ∧
      SpelledBy "\x7b\"note\":1e400\x7d" (.object [("note", number)]) ∧
      (∃ shape, itemCatalog.interfaces.get? "Item" = some shape ∧
        shape.objectionTo "Item" "note" number.tag? number.category = none) ∧
      ∀ seeds, ((check "items" "Item" "great" seeds).runAmong ⟨0, ""⟩ itemFiles []).exit.status
        = 2 := by
  intro number
  have read : itemFiles.read [] "great" = .ok "\x7b\"note\":1e400\x7d" :=
    FileTree.read_of_readBytes rfl
  have isNumeral : IsNumeral ['1', 'e', '4', '0', '0'] :=
    ⟨[], ['1'], [], ['e', '4', '0', '0'], rfl, .inl rfl,
      ⟨by decide, List.forall_mem_singleton.2 rfl⟩, .inr (by decide), .inl rfl,
      .inr ⟨'e', [], ['4', '0', '0'], by decide, by decide,
        ⟨by decide, List.all_eq_true.1 rfl⟩, rfl⟩⟩
  refine ⟨loadsTo_items, read, ?_, ⟨_, rfl, by decide⟩, fun seeds => ?_⟩
  · refine ⟨_, [], .none _, .object ?_, .none _⟩
    refine .cons (.first (.none _)) (.mk ?_ (.none _) (.none _) (.number isNumeral rfl))
      (.closed (.none _))
    exact characters_plain ['n', 'o', 't', 'e'] (by decide) _
  · have refused : (match parse "\x7b\"note\":1e400\x7d" with
        | .ok _ => true
        | .error _ => false) = false := by decide +kernel
    cases parsed : parse "\x7b\"note\":1e400\x7d" with
    | ok json => rw [parsed] at refused; cases refused
    | error fault =>
      rw [Outcome.exit, runAmong_check, checkVerdict_of_checkEnds
        (.recordMalformed loadsTo_items read (not_spells_of_parse read parsed) parsed)]
      rfl

end Request

end Contracts
