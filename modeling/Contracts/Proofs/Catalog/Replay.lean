import Contracts.Proofs.Catalog.Permanence
import Contracts.Proofs.Event

/-!
# Replaying the log of a catalog

Whoever reads the messages of a catalog in order, and of each message only some of the tokens
between its spaces, can keep a **roll** of the names of interfaces and of types: a message that
something was registered adds a name, and one that something was evicted removes it.  This
roll never differs from the names that the catalog lists.  It can be trusted also within a
load, so that a load that is given up half way does no harm.

Of a message the first token with a key is read, but the last one where it says whether
something was replaced: what stands between the two may be the spelling of a kind, which can
be any text.

## Main definitions

* `Message.tokens`, `Message.first?`, `Message.last?` — how a message is read.
* `Roll`, `Roll.hear` — the names, and what a message does to them.
* `Roll.Tells`, `Roll.Follows` — what the messages of one definition, and of definitions that
  were made one after the other, have to say.

## Main results

* `Message.tokens_line` — a message is read as the tokens of its event are.
* `Catalog.told_of_declare` — what is said of a definition that was made.
* `Catalog.replay_logged` — **the log replays to the names of the catalog.**
-/

namespace Contracts

/-! ### Reading messages -/

/-- Splitting what was joined splits the parts. -/
theorem Text.splitOn_intercalate_eq_flatMap (c : Char) {parts : List (List Char)}
    (some : parts ≠ []) : ([c].intercalate parts).splitOn c = parts.flatMap (·.splitOn c) := by
  induction parts with
  | nil => exact absurd rfl some
  | cons part rest ih =>
    cases rest with
    | nil => simp
    | cons next rest =>
      rw [List.intercalate_cons_cons, List.append_assoc, List.singleton_append,
        List.splitOn_eq_splitOnP,
        List.splitOnP_append_cons (p := (· == c)) _ _ (beq_self_eq_true c),
        List.flatMap_cons, ← ih (List.cons_ne_nil _ _), List.splitOn_eq_splitOnP,
        List.splitOn_eq_splitOnP]

namespace Message

/-- A word of a message as a token: what stands before its first equals sign, and what stands
behind that. -/
def token (word : List Char) : String × String :=
  (String.ofList (word.takeWhile (· != '=')), String.ofList ((word.dropWhile (· != '=')).drop 1))

/-- The tokens of a message: what stands between its spaces. -/
def tokens (message : String) : List (String × String) :=
  (message.toList.splitOn ' ').map token

/-- The value of the first token with a key. -/
def first? (key message : String) : Option String := (tokens message).lookup key

/-- The value of the last token with a key. -/
def last? (key message : String) : Option String := (tokens message).reverse.lookup key

/-- The tokens that one token of an event is read as. -/
def pieces (given : String × String) : List (String × String) :=
  ((Event.spell given).toList.splitOn ' ').map token

/-- A message is read as the tokens of its event are. -/
theorem tokens_line (event : Event) (label : InstanceId → String) :
    tokens (event.line label) = (event.tokens label).flatMap pieces := by
  have some : (event.tokens label).map (fun given => (Event.spell given).toList) ≠ [] := by
    cases event <;> exact List.cons_ne_nil _ _
  rw [tokens, Event.toList_line, Text.splitOn_intercalate_eq_flatMap ' ' some, List.flatMap_map,
    List.map_flatMap]
  rfl

/-- The key of a token can be told from its value, and neither has a space in it. -/
structure IsPlain (given : String × String) : Prop where
  /-- The key has no space. -/
  key : Text.IsSolid given.1
  /-- It has no equals sign. -/
  unequal : '=' ∉ given.1.toList
  /-- The value has no space. -/
  value : Text.IsSolid given.2

instance (given : String × String) : Decidable (IsPlain given) :=
  decidable_of_iff (Text.IsSolid given.1 ∧ '=' ∉ given.1.toList ∧ Text.IsSolid given.2)
    ⟨fun h => ⟨h.1, h.2.1, h.2.2⟩, fun h => ⟨h.key, h.unequal, h.value⟩⟩

theorem isPlain_of {key value : String} (solid : Text.IsSolid key) (unequal : '=' ∉ key.toList)
    (h : Text.IsSolid value) : IsPlain (key, value) :=
  ⟨solid, unequal, h⟩

/-- A plain token is read as what it is. -/
theorem pieces_of_isPlain {given : String × String} (h : IsPlain given) :
    pieces given = [given] := by
  have whole : ∀ c ∈ (Event.spell given).toList, (c == ' ') = false := by
    intro c member
    rw [Event.spell, String.toList_append, String.toList_append, List.mem_append, List.mem_append]
      at member
    refine beq_eq_false_iff_ne.2 fun space => ?_
    subst space
    rcases member with (inKey | equals) | inValue
    · exact h.key ' ' inKey (.inl rfl)
    · exact absurd equals (by decide)
    · exact h.value ' ' inValue (.inl rfl)
  have unequal : ∀ c ∈ given.1.toList, (c != '=') = true := by
    intro c member
    rw [bne_iff_ne]
    rintro rfl
    exact h.unequal member
  have spelled : (Event.spell given).toList = given.1.toList ++ '=' :: given.2.toList := by
    rw [Event.spell, String.toList_append, String.toList_append, List.append_assoc]
    rfl
  rw [pieces, List.splitOn_eq_splitOnP, List.splitOnP_eq_singleton whole, spelled,
    List.map_singleton, token, List.takeWhile_append_of_pos unequal,
    List.dropWhile_append_of_pos unequal]
  simp

theorem flatMap_pieces {given : List (String × String)} (plain : ∀ token ∈ given, IsPlain token) :
    given.flatMap pieces = given := by
  induction given with
  | nil => rfl
  | cons first rest ih =>
    obtain ⟨one, others⟩ := List.forall_mem_cons.1 plain
    rw [List.flatMap_cons, ih others, pieces_of_isPlain one, List.singleton_append]

/-! ### Messages of a catalog -/

variable {name : String} (label : InstanceId → String)

theorem isPlain_name (h : Text.IsIdentifier name) : IsPlain ("name", name) :=
  isPlain_of (by decide) (by decide) (Text.isSolid_of_isIdentifier h)

theorem isPlain_replaced (replaced : Bool) : IsPlain ("replaced", toString replaced) := by
  cases replaced <;> decide

/-- The message of an interface.  Its base is not read. -/
theorem tokens_interfaceRegistered (h : Text.IsIdentifier name) (fields : Nat)
    (base : Option String) (replaced : Bool) :
    tokens (Event.line label (.interfaceRegistered name fields base replaced)) =
      [("event", "interface_register"), ("module", "registry"), ("status", "ok"), ("name", name),
        ("fields", toString fields)] ++ pieces ("base", base.getD "-") ++
      [("replaced", toString replaced)] := by
  have front : ∀ token ∈ [("event", "interface_register"), ("module", "registry"),
      ("status", "ok"), ("name", name), ("fields", toString fields)], IsPlain token := by
    simp only [List.forall_mem_cons, List.not_mem_nil, false_implies, implies_true, and_true]
    exact ⟨by decide, by decide, by decide, isPlain_name h,
      isPlain_of (by decide) (by decide) (Text.isSolid_repr fields)⟩
  rw [tokens_line]
  conv => rhs; rw [← flatMap_pieces front, ← pieces_of_isPlain (isPlain_replaced replaced)]
  simp only [Event.tokens, List.flatMap_cons, List.flatMap_nil, List.append_assoc,
    List.append_nil]

/-- The message of a type: whatever its kind is spelled like, it stands behind the name and in
front of what is read last. -/
theorem tokens_typeRegistered (h : Text.IsIdentifier name) (kind : Kind) (replaced : Bool) :
    tokens (Event.line label (.typeRegistered name kind replaced)) =
      [("event", "type_register"), ("module", "registry"), ("status", "ok"), ("name", name)] ++
        pieces ("kind", kind.display) ++ [("replaced", toString replaced)] := by
  have front : ∀ token ∈ [("event", "type_register"), ("module", "registry"), ("status", "ok"),
      ("name", name)], IsPlain token := by
    simp only [List.forall_mem_cons, List.not_mem_nil, false_implies, implies_true, and_true]
    exact ⟨by decide, by decide, by decide, isPlain_name h⟩
  rw [tokens_line]
  conv => rhs; rw [← flatMap_pieces front, ← pieces_of_isPlain (isPlain_replaced replaced)]
  simp only [Event.tokens, List.flatMap_cons, List.flatMap_nil, List.append_assoc,
    List.append_nil]

theorem tokens_interfaceEvicted (h : Text.IsIdentifier name) :
    tokens (Event.line label (.interfaceEvicted name)) =
      [("event", "interface_evict"), ("module", "registry"), ("status", "ok"),
        ("name", name)] := by
  rw [tokens_line, Event.tokens, flatMap_pieces]
  simp only [List.forall_mem_cons, List.not_mem_nil, false_implies, implies_true, and_true]
  exact ⟨by decide, by decide, by decide, isPlain_name h⟩

theorem tokens_typeEvicted (h : Text.IsIdentifier name) :
    tokens (Event.line label (.typeEvicted name)) =
      [("event", "type_evict"), ("module", "registry"), ("status", "ok"), ("name", name)] := by
  rw [tokens_line, Event.tokens, flatMap_pieces]
  simp only [List.forall_mem_cons, List.not_mem_nil, false_implies, implies_true, and_true]
  exact ⟨by decide, by decide, by decide, isPlain_name h⟩

theorem tokens_documentLoaded (kinds interfaces : Nat) :
    tokens (Event.line label (.documentLoaded kinds interfaces)) =
      [("event", "document_load"), ("module", "kernel"), ("status", "ok"),
        ("kinds", toString kinds), ("interfaces", toString interfaces)] := by
  rw [tokens_line, Event.tokens, flatMap_pieces]
  simp only [List.forall_mem_cons, List.not_mem_nil, false_implies, implies_true, and_true]
  exact ⟨by decide, by decide, by decide,
    isPlain_of (by decide) (by decide) (Text.isSolid_repr kinds),
    isPlain_of (by decide) (by decide) (Text.isSolid_repr interfaces)⟩

end Message

/-! ### Rolls -/

/-- The names that a reader of messages keeps. -/
structure Roll where
  /-- The names of interfaces. -/
  interfaces : Dict Unit
  /-- The names of types. -/
  types : Dict Unit

namespace Roll

/-- The roll before any message. -/
def empty : Roll := ⟨.empty, .empty⟩

/-- What a message does to the names. -/
def hear (roll : Roll) (message : String) : Roll :=
  match Message.first? "event" message, Message.first? "name" message with
  | some "interface_register", some name =>
      { roll with interfaces := roll.interfaces.insert name () }
  | some "type_register", some name => { roll with types := roll.types.insert name () }
  | some "interface_evict", some name => { roll with interfaces := roll.interfaces.erase name }
  | some "type_evict", some name => { roll with types := roll.types.erase name }
  | _, _ => roll

/-- The names after messages, one after the other. -/
def hearAll (roll : Roll) (messages : List String) : Roll := messages.foldl hear roll

/-- What is said of a name that gave up a definition: one message if it had one, and nothing
otherwise. -/
def Evicts (event : String) (held : Bool) (name : String) (messages : List String) : Prop :=
  if held then ∃ message, messages = [message] ∧
    Message.first? "event" message = some event ∧ Message.first? "name" message = some name
  else messages = []

/-- What is said when a name is bound to a definition: that it was registered, whether it
replaced another one of its sort, of an interface how many fields it has in all, and then
whether it took the name from one of the other sort. -/
def Tells (roll : Roll) (name : String) (definition : Definition) : List String → Prop
  | [] => False
  | first :: rest =>
      Message.first? "name" first = some name ∧
      match definition with
      | .interface shape =>
          Message.first? "event" first = some "interface_register" ∧
          Message.first? "fields" first = some (toString shape.fields.entries.length) ∧
          Message.last? "replaced" first = some (toString (roll.interfaces.contains name)) ∧
          Evicts "type_evict" (roll.types.contains name) name rest
      | .type _ =>
          Message.first? "event" first = some "type_register" ∧
          Message.last? "replaced" first = some (toString (roll.types.contains name)) ∧
          Evicts "interface_evict" (roll.interfaces.contains name) name rest

/-- What is said when declarations are made one after the other, each with the definition that
it binds its name to in the catalog as it is then. -/
inductive Follows : Roll → Catalog → List Declaration → List String → Catalog → Prop where
  /-- Nothing is declared. -/
  | nil (roll : Roll) (catalog : Catalog) : Follows roll catalog [] [] catalog
  /-- The first declaration is made, and then the rest. -/
  | cons {roll : Roll} {catalog middle next : Catalog} {declaration : Declaration}
      {rest : List Declaration} {definition : Definition} {told messages : List String} :
      declaration.verdict catalog.policy.registration catalog.definition? = .ok definition →
      catalog.TakesIn declaration.name definition middle →
      roll.Tells declaration.name definition told →
      Follows (roll.hearAll told) middle rest messages next →
      Follows roll catalog (declaration :: rest) (told ++ messages) next

/-- The roll has the names of a catalog. -/
structure Lists (roll : Roll) (catalog : Catalog) : Prop where
  /-- Those of interfaces. -/
  interfaces : ∀ name, roll.interfaces.contains name = catalog.interfaces.contains name
  /-- Those of types. -/
  types : ∀ name, roll.types.contains name = catalog.types.contains name

/-! ### What is heard -/

theorem hearAll_nil (roll : Roll) : roll.hearAll [] = roll := rfl

theorem hearAll_cons (roll : Roll) (message : String) (messages : List String) :
    roll.hearAll (message :: messages) = (roll.hear message).hearAll messages := rfl

theorem hearAll_append (roll : Roll) (front back : List String) :
    roll.hearAll (front ++ back) = (roll.hearAll front).hearAll back :=
  List.foldl_append

section Hear

variable {name : String} (roll : Roll) (label : InstanceId → String)

theorem hear_interfaceRegistered (h : Text.IsIdentifier name) (fields : Nat)
    (base : Option String) (replaced : Bool) :
    roll.hear (Event.line label (.interfaceRegistered name fields base replaced)) =
      { roll with interfaces := roll.interfaces.insert name () } := by
  simp [hear, Message.first?, Message.tokens_interfaceRegistered label h, List.lookup_cons]

theorem hear_typeRegistered (h : Text.IsIdentifier name) (kind : Kind) (replaced : Bool) :
    roll.hear (Event.line label (.typeRegistered name kind replaced)) =
      { roll with types := roll.types.insert name () } := by
  simp [hear, Message.first?, Message.tokens_typeRegistered label h, List.lookup_cons]

theorem hear_interfaceEvicted (h : Text.IsIdentifier name) :
    roll.hear (Event.line label (.interfaceEvicted name)) =
      { roll with interfaces := roll.interfaces.erase name } := by
  simp [hear, Message.first?, Message.tokens_interfaceEvicted label h, List.lookup_cons]

theorem hear_typeEvicted (h : Text.IsIdentifier name) :
    roll.hear (Event.line label (.typeEvicted name)) =
      { roll with types := roll.types.erase name } := by
  simp [hear, Message.first?, Message.tokens_typeEvicted label h, List.lookup_cons]

theorem hear_documentLoaded (kinds interfaces : Nat) :
    roll.hear (Event.line label (.documentLoaded kinds interfaces)) = roll := by
  simp [hear, Message.first?, Message.tokens_documentLoaded label, List.lookup_cons]

end Hear

/-! ### One definition -/

section Told

variable {roll : Roll} {catalog next : Catalog} {name : String} (label : InstanceId → String)

theorem contains_insert (names : Dict Unit) (name other : String) :
    (names.insert name ()).contains other =
      if other = name then true else names.contains other := by
  rw [Dict.contains_insert]
  by_cases same : other = name <;> simp [same]

/-- To remove a name only if it is there is to remove it. -/
theorem contains_erase {names : Dict Unit} {held : Bool} (h : names.contains name = held)
    (other : String) : (if held then names.erase name else names).contains other =
      if other = name then false else names.contains other := by
  cases held with
  | true =>
    rw [if_pos rfl, Dict.contains_erase]
    by_cases same : other = name <;> simp [same]
  | false =>
    rw [if_neg (by decide)]
    split
    · next same => rw [same, h]
    · rfl

/-- What is logged when a definition is taken in. -/
def saidOf (catalog : Catalog) (name : String) (base : Option String) : Definition → List Event
  | .interface shape =>
      .interfaceRegistered name shape.size base (catalog.interfaces.contains name) ::
        if catalog.types.contains name then [.typeEvicted name] else []
  | .type kind =>
      .typeRegistered name kind (catalog.types.contains name) ::
        if catalog.interfaces.contains name then [.interfaceEvicted name] else []

/-- It says what it has to say. -/
theorem tells_saidOf (h : Text.IsIdentifier name) (lists : roll.Lists catalog)
    (base : Option String) (definition : Definition) :
    roll.Tells name definition ((saidOf catalog name base definition).map (Event.line label)) := by
  cases definition with
  | interface shape =>
    rw [saidOf, List.map_cons, Tells, lists.interfaces, lists.types]
    simp only [Message.first?, Message.last?, Message.tokens_interfaceRegistered label h]
    refine ⟨by simp [List.lookup_cons], by simp,
      by simp [List.lookup_cons, Shape.size, Dict.size], by simp, ?_⟩
    cases catalog.types.contains name with
    | false => rfl
    | true =>
      refine ⟨_, rfl, ?_⟩
      simp [Message.first?, Message.tokens_typeEvicted label h, List.lookup_cons]
  | type kind =>
    rw [saidOf, List.map_cons, Tells, lists.interfaces, lists.types]
    simp only [Message.first?, Message.last?, Message.tokens_typeRegistered label h]
    refine ⟨by simp [List.lookup_cons], by simp, by simp, ?_⟩
    cases catalog.interfaces.contains name with
    | false => rfl
    | true =>
      refine ⟨_, rfl, ?_⟩
      simp [Message.first?, Message.tokens_interfaceEvicted label h, List.lookup_cons]

/-- Whoever hears it has the names of the catalog with the definition. -/
theorem lists_saidOf (lists : roll.Lists catalog) (base : Option String)
    {definition : Definition} (taken : catalog.TakesIn name definition next) :
    (roll.hearAll ((saidOf catalog name base definition).map (Event.line label))).Lists next := by
  have h := taken.isIdentifier
  have interfaces : ∀ other, next.interfaces.contains other =
      if other = name then definition.shape?.isSome else roll.interfaces.contains other := by
    intro other
    rw [Catalog.interfaces_contains, taken.definition?, lists.interfaces,
      Catalog.interfaces_contains]
    split <;> rfl
  have types : ∀ other, next.types.contains other =
      if other = name then definition.kind?.isSome else roll.types.contains other := by
    intro other
    rw [Catalog.types_contains, taken.definition?, lists.types, Catalog.types_contains]
    split <;> rfl
  cases definition with
  | interface shape =>
    have heard : roll.hearAll ((saidOf catalog name base (.interface shape)).map
        (Event.line label)) = ⟨roll.interfaces.insert name (),
          if catalog.types.contains name then roll.types.erase name else roll.types⟩ := by
      rw [saidOf, List.map_cons, hearAll_cons, hear_interfaceRegistered roll label h]
      split
      · rw [List.map_singleton, hearAll_cons, hear_typeEvicted _ label h, hearAll_nil]
      · rfl
    rw [heard]
    refine ⟨fun other => ?_, fun other => ?_⟩
    · rw [interfaces]
      exact contains_insert roll.interfaces name other
    · rw [types]
      exact contains_erase (lists.types name) other
  | type kind =>
    have heard : roll.hearAll ((saidOf catalog name base (.type kind)).map (Event.line label)) =
        ⟨if catalog.interfaces.contains name then roll.interfaces.erase name else roll.interfaces,
          roll.types.insert name ()⟩ := by
      rw [saidOf, List.map_cons, hearAll_cons, hear_typeRegistered roll label h]
      split
      · rw [List.map_singleton, hearAll_cons, hear_interfaceEvicted _ label h, hearAll_nil]
      · rfl
    rw [heard]
    refine ⟨fun other => ?_, fun other => ?_⟩
    · rw [interfaces]
      exact contains_erase (lists.interfaces name) other
    · rw [types]
      exact contains_insert roll.types name other

end Told

theorem Lists.keys {roll : Roll} {catalog : Catalog} (lists : roll.Lists catalog) :
    roll.interfaces.keys = catalog.interfaces.names ∧ roll.types.keys = catalog.types.names :=
  ⟨Dict.keys_eq_of_contains lists.interfaces, Dict.keys_eq_of_contains lists.types⟩

end Roll

namespace Catalog

variable {catalog : Catalog} {roll : Roll} (label : InstanceId → String)

/-- A declaration that is made is logged as what is taken in. -/
theorem declare_eq_saidOf {declaration : Declaration} {definition : Definition}
    (verdict : declaration.verdict catalog.policy.registration catalog.definition? =
      .ok definition) :
    ∃ next base, catalog.declare declaration =
        .ok (next, Roll.saidOf catalog declaration.name base definition) ∧
      catalog.TakesIn declaration.name definition next := by
  cases declaration with
  | type name kind =>
    rw [← map_defineType] at verdict
    cases made : catalog.defineType name kind with
    | error violation =>
      rw [made] at verdict
      cases verdict
    | ok defined =>
      rw [made] at verdict
      cases verdict
      refine ⟨defined.catalog, none, ?_, (takesIn_of_defineType made).2⟩
      rw [declare, made, Roll.saidOf, Declaration.name_type, ← events_of_defineType made]
      rfl
  | interface declaration =>
    rw [← map_defineInterface] at verdict
    cases made : catalog.defineInterface declaration.name declaration.fields declaration.base with
    | error violation =>
      rw [made] at verdict
      cases verdict
    | ok defined =>
      rw [made] at verdict
      cases verdict
      refine ⟨defined.catalog, declaration.base, ?_, (takesIn_of_defineInterface made).2⟩
      rw [declare, made, Roll.saidOf, Declaration.name_interface, ← events_of_defineInterface made]
      rfl

/-- Declarations that are made one after the other are followed from what is logged, up to the
first that cannot be made. -/
theorem follows_declareAll (lists : roll.Lists catalog) (declarations : List Declaration) :
    let progress := catalog.declareAll declarations
    let messages := progress.events.map (Event.line label)
    (roll.hearAll messages).Lists progress.catalog ∧
    ∃ made rest, declarations = made ++ rest ∧
      roll.Follows catalog made messages progress.catalog ∧
      match progress.outcome with
      | .error violation => ∃ stuck later, rest = stuck :: later ∧
          stuck.verdict progress.catalog.policy.registration progress.catalog.definition? =
            .error violation
      | .ok _ => rest = [] := by
  induction declarations generalizing catalog roll with
  | nil => exact ⟨lists, [], [], rfl, .nil roll catalog, rfl⟩
  | cons first rest ih =>
    cases verdict : first.verdict catalog.policy.registration catalog.definition? with
    | error violation =>
      simp only [declareAll, declare_of_verdict_error verdict]
      exact ⟨lists, [], first :: rest, rfl, .nil roll catalog, first, rest, rfl, verdict⟩
    | ok definition =>
      obtain ⟨middle, base, declared, taken⟩ := declare_eq_saidOf verdict
      have tells := Roll.tells_saidOf label taken.isIdentifier lists base definition
      obtain ⟨listed, made, later, split, follows, outcome⟩ :=
        ih (Roll.lists_saidOf label lists base taken)
      simp only [declareAll, declared, List.map_append]
      refine ⟨?_, first :: made, later, by rw [split]; rfl, .cons verdict taken tells follows, ?_⟩
      · rw [Roll.hearAll_append]
        exact listed
      · revert outcome
        cases (middle.declareAll rest).outcome <;> exact id

/-- An interface that is defined is told of, with all its fields. -/
theorem tells_defineInterface (lists : roll.Lists catalog) {name : String} {fields : Shape}
    {base : Option String} {defined : Defined Interface}
    (made : catalog.defineInterface name fields base = .ok defined) :
    roll.Tells name (.interface defined.handle.shape)
        (defined.events.map (Event.line label)) ∧
      (roll.hearAll (defined.events.map (Event.line label))).Lists defined.catalog := by
  have taken := (takesIn_of_defineInterface made).2
  have said : defined.events =
      Roll.saidOf catalog name base (.interface defined.handle.shape) :=
    events_of_defineInterface made
  rw [said]
  exact ⟨Roll.tells_saidOf label taken.isIdentifier lists base _,
    Roll.lists_saidOf label lists base taken⟩

/-- A type that is defined is told of. -/
theorem tells_defineType (lists : roll.Lists catalog) {name : String} {kind : Kind}
    {defined : Defined SlotType} (made : catalog.defineType name kind = .ok defined) :
    roll.Tells name (.type defined.handle.kind) (defined.events.map (Event.line label)) ∧
      (roll.hearAll (defined.events.map (Event.line label))).Lists defined.catalog := by
  have taken := (takesIn_of_defineType made).2
  have said : defined.events = Roll.saidOf catalog name none (.type defined.handle.kind) :=
    events_of_defineType made
  rw [said]
  exact ⟨Roll.tells_saidOf label taken.isIdentifier lists none _,
    Roll.lists_saidOf label lists none taken⟩

/-- That a document was loaded changes no names. -/
theorem lists_load (lists : roll.Lists catalog) (document : Document) :
    (roll.hearAll ((catalog.load document).events.map (Event.line label))).Lists
      (catalog.load document).catalog := by
  have listed := (follows_declareAll label lists document.declarations).1
  rw [load]
  cases (catalog.declareAll document.declarations).outcome with
  | error violation => exact listed
  | ok tally =>
    dsimp only
    rw [List.map_append, Roll.hearAll_append, List.map_singleton, Roll.hearAll_cons,
      Roll.hear_documentLoaded, Roll.hearAll_nil]
    exact listed

/-- One request keeps the names together. -/
theorem lists_respond (lists : roll.Lists catalog) (request : Request) :
    (roll.hearAll ((catalog.loggedFor request).map (Event.line label))).Lists
      (catalog.respond request).1 := by
  cases request with
  | defineInterface name fields base =>
    simp only [loggedFor, respond]
    cases made : catalog.defineInterface name fields base with
    | error violation => exact lists
    | ok defined => exact (tells_defineInterface label lists made).2
  | defineType name kind =>
    simp only [loggedFor, respond]
    cases made : catalog.defineType name kind with
    | error violation => exact lists
    | ok defined => exact (tells_defineType label lists made).2
  | load document => exact lists_load label lists document
  | _ => exact lists

/-- So do requests in turn. -/
theorem lists_after (lists : roll.Lists catalog) (requests : List Request) :
    (roll.hearAll ((catalog.logged requests).map (Event.line label))).Lists
      (catalog.after requests) := by
  induction requests generalizing catalog roll with
  | nil => exact lists
  | cons request rest ih =>
    rw [logged, List.map_append, Roll.hearAll_append]
    exact ih (lists_respond label lists request)

/-- A document is followed through its definitions.  The last message is that it was loaded,
if it was. -/
theorem follows_load (lists : roll.Lists catalog) (document : Document) :
    let progress := catalog.load document
    let messages := progress.events.map (Event.line label)
    ∃ made rest told, document.declarations = made ++ rest ∧
      roll.Follows catalog made told progress.catalog ∧
      match progress.outcome with
      | .error violation => messages = told ∧ ∃ stuck later, rest = stuck :: later ∧
          stuck.verdict progress.catalog.policy.registration progress.catalog.definition? =
            .error violation
      | .ok tally =>
          rest = [] ∧ tally = ⟨document.kinds.entries.length, document.interfaces.length⟩ ∧
          ∃ last, messages = told ++ [last] ∧
            Message.first? "event" last = some "document_load" ∧
            Message.first? "kinds" last = some (toString tally.types) ∧
            Message.first? "interfaces" last = some (toString tally.interfaces) := by
  obtain ⟨-, made, rest, split, follows, outcome⟩ :=
    follows_declareAll label lists document.declarations
  refine ⟨made, rest, _, split, by rw [(load_eq ..).1]; exact follows, ?_⟩
  rw [load]
  cases ended : (catalog.declareAll document.declarations).outcome with
  | error violation =>
    rw [ended] at outcome
    dsimp only
    rw [ended]
    exact ⟨rfl, outcome⟩
  | ok tally =>
    rw [ended] at outcome
    have counted : tally = ⟨document.kinds.entries.length, document.interfaces.length⟩ := by
      exact (makes_iff.1 ⟨ended, rfl⟩).2.trans (Tally.of_declarations document)
    refine ⟨outcome, counted, _, List.map_append, ?_, ?_, ?_⟩ <;>
      simp [Message.first?, Message.tokens_documentLoaded label, List.lookup_cons]

/-- **The main theorem**: whatever is asked of a catalog, and whether it is done or not, the
roll that is kept of its messages has its names.  What is said of the next request is told from
this roll and what the request comes to.  A definition that is refused is not mentioned; one
that is made is told of by a message that says whether the name was among those of its sort,
and of an interface how many fields it has with those of its base, and by a second one just if
the name was among those of the other sort.  A document is told of by its definitions in order,
up to the first that is refused; and if none is, then by a last message that counts them. -/
theorem replay_logged (policy : Policy) (requests : List Request) :
    let catalog := (empty policy).after requests
    let roll := Roll.empty.hearAll (((empty policy).logged requests).map (Event.line label))
    let said request := (catalog.loggedFor request).map (Event.line label)
    roll.interfaces.keys = catalog.interfaces.names ∧
    roll.types.keys = catalog.types.names ∧
    (∀ name fields base,
      match catalog.defineInterface name fields base with
      | .error _ => said (.defineInterface name fields base) = []
      | .ok defined =>
          roll.Tells name (.interface defined.handle.shape)
            (said (.defineInterface name fields base))) ∧
    (∀ name kind,
      match catalog.defineType name kind with
      | .error _ => said (.defineType name kind) = []
      | .ok defined =>
          roll.Tells name (.type defined.handle.kind) (said (.defineType name kind))) ∧
    ∀ document, ∃ made rest told,
      document.declarations = made ++ rest ∧
      roll.Follows catalog made told (catalog.load document).catalog ∧
      match (catalog.load document).outcome with
      | .error violation =>
          said (.load document) = told ∧
          ∃ stuck later, rest = stuck :: later ∧
            stuck.verdict (catalog.load document).catalog.policy.registration
              (catalog.load document).catalog.definition? = .error violation
      | .ok tally =>
          rest = [] ∧ tally = ⟨document.kinds.entries.length, document.interfaces.length⟩ ∧
          ∃ last, said (.load document) = told ++ [last] ∧
            Message.first? "event" last = some "document_load" ∧
            Message.first? "kinds" last = some (toString tally.types) ∧
            Message.first? "interfaces" last = some (toString tally.interfaces) := by
  intro catalog roll said
  have start : Roll.empty.Lists (empty policy) := ⟨fun _ => rfl, fun _ => rfl⟩
  have lists : roll.Lists catalog := lists_after label start requests
  refine ⟨lists.keys.1, lists.keys.2, fun name fields base => ?_, fun name kind => ?_,
    fun document => ?_⟩
  · cases made : catalog.defineInterface name fields base with
    | error violation => simp only [said, loggedFor, made, List.map_nil]
    | ok defined =>
      simp only [said, loggedFor, made]
      exact (tells_defineInterface label lists made).1
  · cases made : catalog.defineType name kind with
    | error violation => simp only [said, loggedFor, made, List.map_nil]
    | ok defined =>
      simp only [said, loggedFor, made]
      exact (tells_defineType label lists made).1
  · exact follows_load label lists document

/-- An interface takes the name of a type.  It has a field of its own, one that its base has too,
and one that only the base has. -/
theorem replay_logged_extension :
    let policy : Policy := ⟨.validate, .replace⟩
    let requests : List Request :=
      [.defineType "Point" (.single .string),
        .defineInterface "Base" (.ofList [("x", none), ("y", none)]) none]
    let extension := Request.defineInterface "Point"
      (.ofList [("y", some (.single .number)), ("z", none)]) (some "Base")
    let said := ((((empty policy).after requests).loggedFor extension).map
      (Event.line fun _ => "-"))
    ((empty policy).after requests).interfaces.names = ["Base"] ∧
      ((empty policy).after requests).types.names = ["Point"] ∧
      ∃ first second, said = [first, second] ∧
        Message.first? "event" first = some "interface_register" ∧
        Message.first? "fields" first = some "3" ∧
        Message.last? "replaced" first = some "false" ∧
        Message.first? "event" second = some "type_evict" := by
  intro policy requests extension said
  obtain ⟨-, -, tells, -, -⟩ := replay_logged (fun _ => "-") policy requests
  have told : Roll.Tells _ "Point" (.interface _) said :=
    tells "Point" (.ofList [("y", some (.single .number)), ("z", none)]) (some "Base")
  refine ⟨by decide +kernel, by decide +kernel, ?_⟩
  generalize said = messages at told ⊢
  cases messages with
  | nil => exact told.elim
  | cons first rest =>
    obtain ⟨-, event, fields, replaced, evicts⟩ := told
    rw [Roll.Evicts, if_pos (by decide +kernel)] at evicts
    obtain ⟨second, rfl, evicted, -⟩ := evicts
    refine ⟨first, second, rfl, event, fields.trans ?_, replaced.trans ?_, evicted⟩ <;>
      decide +kernel

/-- A type takes the name of an interface, and its kind is spelled like one more token. -/
example :
    let requests : List Request :=
      [.defineInterface "A" (.ofList [("x", none)]) none, .defineType "B" (.single .string),
        .defineType "A" (.anyOf [.unknown "x name=C"])]
    let messages := ((empty ⟨.validate, .replace⟩).logged requests).map (Event.line fun _ => "-")
    let roll := Roll.empty.hearAll messages
    roll.interfaces.keys = [] ∧ roll.types.keys = ["A", "B"] := by
  decide +kernel

end Catalog

end Contracts
