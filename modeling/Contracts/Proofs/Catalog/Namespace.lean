import Contracts.Proofs.Catalog.Declarations
import Contracts.Proofs.Dict

/-!
# Namespaces

A **namespace** is what a catalog should be taken for: one map from names to
definitions, each an interface or a type.  Defining binds one name; looking up reads the
map.  Here both answer the same requests, and whatever is asked, in whatever order, a
catalog with its two registries gives the answers of a namespace.

## Main definitions

* `Namespace` — the map and the policy, with `Namespace.define`.
* `Request`, `Response` — what can be asked, and what is answered.
* `Catalog.respond`, `Namespace.respond` — how either answers.
* `Catalog.Refines` — the catalog binds each name as the namespace does.

## Main results

* `Catalog.Refines.respond` — one request keeps the two together.
* `Catalog.responses_eq_namespace` — **a catalog is a namespace** in all its answers.
-/

namespace Contracts

/-! ### Names -/

namespace Text

/-- All characters of an identifier are among those that it can go on with. -/
theorem isIdentifierPart_of_mem {text : String} (h : IsIdentifier text) {c : Char}
    (member : c ∈ text.toList) : isIdentifierPart c = true := by
  unfold IsIdentifier at h
  cases spelled : text.toList with
  | nil => rw [spelled] at h; cases h
  | cons first rest =>
    rw [spelled, spellsIdentifier, Bool.and_eq_true, List.all_eq_true] at h
    rw [spelled] at member
    rcases List.mem_cons.1 member with rfl | member
    · rw [isIdentifierPart, h.1, Bool.true_or]
    · exact h.2 c member

/-- Those characters are ASCII, after the space and the line feed. -/
theorem bounds_of_isIdentifierPart {c : Char} (h : isIdentifierPart c = true) :
    36 ≤ c.toNat ∧ c.toNat < 128 := by
  simp only [isIdentifierPart, isIdentifierStart, Bool.or_eq_true, Bool.and_eq_true,
    decide_eq_true_eq, beq_iff_eq, Char.le_def, UInt32.le_iff_toNat_le] at h
  rcases h with (((⟨low, high⟩ | ⟨low, high⟩) | rfl) | rfl) | ⟨low, high⟩
  · exact ⟨Nat.le_trans (by decide) low, Nat.lt_of_le_of_lt high (by decide)⟩
  · exact ⟨Nat.le_trans (by decide) low, Nat.lt_of_le_of_lt high (by decide)⟩
  · decide
  · decide
  · exact ⟨Nat.le_trans (by decide) low, Nat.lt_of_le_of_lt high (by decide)⟩

theorem toNat_lt_of_isIdentifierPart {c : Char} (h : isIdentifierPart c = true) :
    c ≠ '\n' ∧ c.toNat < 128 := by
  have bounds := bounds_of_isIdentifierPart h
  refine ⟨?_, bounds.2⟩
  rintro rfl
  exact absurd bounds.1 (by decide)

end Text

/-! ### Namespaces -/

/-- Names, each bound to an interface or a type. -/
structure Namespace where
  /-- What is done with seeds and with names that are taken. -/
  policy : Policy
  /-- What each name is bound to. -/
  bindings : Dict Definition

namespace Namespace

/-- The namespace without names. -/
def empty (policy : Policy) : Namespace := ⟨policy, .empty⟩

/-- Bind the name of a declaration to what it declares, unless there is a reason
against. -/
def define (space : Namespace) (declaration : Declaration) : Except Violation Namespace :=
  (declaration.verdict space.policy.registration space.bindings.get?).map fun definition =>
    { space with bindings := space.bindings.insert declaration.name definition }

theorem define_of_verdict_error {space : Namespace} {declaration : Declaration}
    {violation : Violation}
    (h : declaration.verdict space.policy.registration space.bindings.get? = .error violation) :
    space.define declaration = .error violation := by
  rw [define, h]
  rfl

theorem define_of_verdict_ok {space : Namespace} {declaration : Declaration}
    {definition : Definition}
    (h : declaration.verdict space.policy.registration space.bindings.get? = .ok definition) :
    space.define declaration =
      .ok { space with bindings := space.bindings.insert declaration.name definition } := by
  rw [define, h]
  rfl

/-- Make declarations one after the other up to the first that fails. -/
def defineAll (space : Namespace) : List Declaration → Namespace × Except Violation Unit
  | [] => (space, .ok ())
  | declaration :: rest =>
      match space.define declaration with
      | .error violation => (space, .error violation)
      | .ok next => next.defineAll rest

/-- The shape a name is bound to. -/
def shape? (space : Namespace) (name : String) : Option Shape :=
  (space.bindings.get? name).bind Definition.shape?

/-- The kind a name is bound to. -/
def kind? (space : Namespace) (name : String) : Option Kind :=
  (space.bindings.get? name).bind Definition.kind?

/-- The interface a name is bound to. -/
def interface (space : Namespace) (name : String) : Except Violation Interface :=
  match space.shape? name with
  | some shape => .ok ⟨name, shape, space.policy.seeds⟩
  | none => .error (.unknownInterface name)

/-- The type a name is bound to. -/
def type (space : Namespace) (name : String) : Except Violation SlotType :=
  match space.kind? name with
  | some kind => .ok ⟨name, kind, space.policy.seeds⟩
  | none => .error (.unknownType name)

end Namespace

/-! ### Requests -/

/-- What can be asked of a catalog. -/
inductive Catalog.Request where
  /-- Define an interface. -/
  | defineInterface (name : String) (fields : Shape) (base : Option String) : Request
  /-- Define a type. -/
  | defineType (name : String) (kind : Kind) : Request
  /-- Load a document. -/
  | load (document : Document) : Request
  /-- Look an interface up. -/
  | interface (name : String) : Request
  /-- Look a type up. -/
  | type (name : String) : Request
  /-- Look the shape of an interface up. -/
  | shape (name : String) : Request
  /-- Look the kind of a type up. -/
  | kind (name : String) : Request
  /-- List the names of interfaces. -/
  | interfaceNames : Request
  /-- List the names of types. -/
  | typeNames : Request

/-- What is answered. -/
inductive Catalog.Response where
  /-- An interface, or why there is none. -/
  | interface (outcome : Except Violation Interface) : Response
  /-- A type, or why there is none. -/
  | type (outcome : Except Violation SlotType) : Response
  /-- How many declarations were made, or why not all. -/
  | loaded (outcome : Except Violation Tally) : Response
  /-- A shape, if there is one. -/
  | shape (found : Option Shape) : Response
  /-- A kind, if there is one. -/
  | kind (found : Option Kind) : Response
  /-- Names. -/
  | names (names : List String) : Response
  deriving DecidableEq

/-- How a catalog answers. -/
def Catalog.respond (catalog : Catalog) : Request → Catalog × Response
  | .defineInterface name fields base =>
      match catalog.defineInterface name fields base with
      | .error violation => (catalog, .interface (.error violation))
      | .ok defined => (defined.catalog, .interface (.ok defined.handle))
  | .defineType name kind =>
      match catalog.defineType name kind with
      | .error violation => (catalog, .type (.error violation))
      | .ok defined => (defined.catalog, .type (.ok defined.handle))
  | .load document =>
      ((catalog.load document).catalog, .loaded (catalog.load document).outcome)
  | .interface name => (catalog, .interface (catalog.interface name))
  | .type name => (catalog, .type (catalog.type name))
  | .shape name => (catalog, .shape (catalog.interfaces.get? name))
  | .kind name => (catalog, .kind (catalog.types.get? name))
  | .interfaceNames => (catalog, .names catalog.interfaces.names)
  | .typeNames => (catalog, .names catalog.types.names)

/-- How a namespace answers.  Whoever defines a name gets what looking it up gives from
then on. -/
def Namespace.respond (space : Namespace) :
    Catalog.Request → Namespace × Catalog.Response
  | .defineInterface name fields base =>
      match space.define (.interface ⟨name, base, fields⟩) with
      | .error violation => (space, .interface (.error violation))
      | .ok next => (next, .interface (next.interface name))
  | .defineType name kind =>
      match space.define (.type name kind) with
      | .error violation => (space, .type (.error violation))
      | .ok next => (next, .type (next.type name))
  | .load document =>
      let (next, outcome) := space.defineAll document.declarations
      (next, .loaded (outcome.map fun () => ⟨document.kinds.size, document.interfaces.length⟩))
  | .interface name => (space, .interface (space.interface name))
  | .type name => (space, .type (space.type name))
  | .shape name => (space, .shape (space.shape? name))
  | .kind name => (space, .kind (space.kind? name))
  | .interfaceNames => (space, .names (space.bindings.filterMap Definition.shape?).keys)
  | .typeNames => (space, .names (space.bindings.filterMap Definition.kind?).keys)

/-- The answers of a catalog to requests in turn. -/
def Catalog.responses (catalog : Catalog) : List Request → List Response
  | [] => []
  | request :: rest => (catalog.respond request).2 :: (catalog.respond request).1.responses rest

/-- A catalog after requests in turn. -/
def Catalog.after (catalog : Catalog) (requests : List Request) : Catalog :=
  requests.foldl (fun catalog request => (catalog.respond request).1) catalog

/-- The answers of a namespace to requests in turn. -/
def Namespace.responses (space : Namespace) : List Catalog.Request → List Catalog.Response
  | [] => []
  | request :: rest => (space.respond request).2 :: (space.respond request).1.responses rest

/-! ### Refinement -/

namespace Catalog

/-- What is handed out for a name is what the name gives from then on. -/
theorem interface_of_takesIn {catalog : Catalog} {name : String} {defined : Defined Interface}
    (h : defined.handle = ⟨name, defined.handle.shape, catalog.policy.seeds⟩ ∧
      catalog.TakesIn name (.interface defined.handle.shape) defined.catalog) :
    defined.catalog.interface name = .ok defined.handle := by
  rw [interface, interfaces_get?, h.2.self, h.2.policy, h.1]
  rfl

theorem type_of_takesIn {catalog : Catalog} {name : String} {defined : Defined SlotType}
    (h : defined.handle = ⟨name, defined.handle.kind, catalog.policy.seeds⟩ ∧
      catalog.TakesIn name (.type defined.handle.kind) defined.catalog) :
    defined.catalog.type name = .ok defined.handle := by
  rw [type, types_get?, h.2.self, h.2.policy, h.1]
  rfl

/-- The catalog has the policy of the namespace and binds each name as it does. -/
structure Refines (catalog : Catalog) (space : Namespace) : Prop where
  /-- The policies are one. -/
  policy : catalog.policy = space.policy
  /-- So are the definitions. -/
  definition? : ∀ name, catalog.definition? name = space.bindings.get? name

namespace Refines

variable {catalog : Catalog} {space : Namespace} {declaration : Declaration}

theorem empty (policy : Policy) : (Catalog.empty policy).Refines (.empty policy) :=
  ⟨rfl, fun _ => rfl⟩

theorem shape? (h : catalog.Refines space) (name : String) :
    catalog.interfaces.get? name = space.shape? name := by
  rw [interfaces_get?, h.definition?, Namespace.shape?]

theorem kind? (h : catalog.Refines space) (name : String) :
    catalog.types.get? name = space.kind? name := by
  rw [types_get?, h.definition?, Namespace.kind?]

theorem interface (h : catalog.Refines space) (name : String) :
    catalog.interface name = space.interface name := by
  have shape := h.shape? name
  unfold Catalog.interface Namespace.interface
  cases found : space.shape? name with
  | none => simp only [shape, found]
  | some _ => simp only [shape, found, h.policy]

theorem type (h : catalog.Refines space) (name : String) :
    catalog.type name = space.type name := by
  have kind := h.kind? name
  unfold Catalog.type Namespace.type
  cases found : space.kind? name with
  | none => simp only [kind, found]
  | some _ => simp only [kind, found, h.policy]

theorem verdict (h : catalog.Refines space) (declaration : Declaration) :
    declaration.verdict catalog.policy.registration catalog.definition? =
      declaration.verdict space.policy.registration space.bindings.get? := by
  rw [h.policy, funext h.definition?]

/-- Binding a name on both sides. -/
theorem takesIn (h : catalog.Refines space) {name : String} {definition : Definition}
    {next : Catalog} (taken : catalog.TakesIn name definition next) :
    next.Refines { space with bindings := space.bindings.insert name definition } where
  policy := taken.policy.trans h.policy
  definition? other := by
    rw [taken.definition?, Dict.get?_insert, h.definition?]

/-- The interfaces of the catalog, and hence their names, are those of the namespace. -/
theorem interfaces (h : catalog.Refines space) :
    catalog.interfaces.entries = space.bindings.filterMap Definition.shape? :=
  Dict.ext_get? fun name => by
    rw [Dict.get?_filterMap]
    exact h.shape? name

theorem types (h : catalog.Refines space) :
    catalog.types.entries = space.bindings.filterMap Definition.kind? :=
  Dict.ext_get? fun name => by
    rw [Dict.get?_filterMap]
    exact h.kind? name

/-- Both define, or neither does and for the same reason. -/
theorem defineInterface (h : catalog.Refines space) (name : String) (fields : Shape)
    (base : Option String) :
    (catalog.respond (.defineInterface name fields base)).1.Refines
        (space.respond (.defineInterface name fields base)).1 ∧
      (catalog.respond (.defineInterface name fields base)).2 =
        (space.respond (.defineInterface name fields base)).2 := by
  have checks := catalog.map_defineInterface name fields base
  rw [h.verdict] at checks
  cases made : catalog.defineInterface name fields base with
  | error violation =>
    rw [made] at checks
    simp only [Catalog.respond, Namespace.respond, made,
      Namespace.define_of_verdict_error checks.symm]
    exact ⟨h, trivial⟩
  | ok defined =>
    rw [made] at checks
    have taken := takesIn_of_defineInterface made
    have refines := h.takesIn taken.2
    simp only [Catalog.respond, Namespace.respond, made,
      Namespace.define_of_verdict_ok checks.symm]
    refine ⟨refines, congrArg Response.interface ?_⟩
    rw [← interface_of_takesIn taken]
    exact refines.interface name

theorem defineType (h : catalog.Refines space) (name : String) (kind : Kind) :
    (catalog.respond (.defineType name kind)).1.Refines
        (space.respond (.defineType name kind)).1 ∧
      (catalog.respond (.defineType name kind)).2 =
        (space.respond (.defineType name kind)).2 := by
  have checks := catalog.map_defineType name kind
  rw [h.verdict] at checks
  cases made : catalog.defineType name kind with
  | error violation =>
    rw [made] at checks
    simp only [Catalog.respond, Namespace.respond, made,
      Namespace.define_of_verdict_error checks.symm]
    exact ⟨h, trivial⟩
  | ok defined =>
    rw [made] at checks
    have taken := takesIn_of_defineType made
    have refines := h.takesIn taken.2
    simp only [Catalog.respond, Namespace.respond, made,
      Namespace.define_of_verdict_ok checks.symm]
    refine ⟨refines, congrArg Response.type ?_⟩
    rw [← type_of_takesIn taken]
    exact refines.type name

/-- Both make the same declarations, and stop for the same reason if they do. -/
theorem declareAll (h : catalog.Refines space) (declarations : List Declaration) :
    (catalog.declareAll declarations).catalog.Refines (space.defineAll declarations).1 ∧
      (catalog.declareAll declarations).outcome =
        (space.defineAll declarations).2.map fun () => Tally.of declarations := by
  induction declarations generalizing catalog space with
  | nil => exact ⟨h, rfl⟩
  | cons first rest ih =>
    have verdict := h.verdict first
    cases checked : first.verdict space.policy.registration space.bindings.get? with
    | error violation =>
      rw [checked] at verdict
      simp only [Catalog.declareAll, declare_of_verdict_error verdict, Namespace.defineAll,
        Namespace.define_of_verdict_error checked]
      exact ⟨h, rfl⟩
    | ok definition =>
      rw [checked] at verdict
      -- both have bound the name now, and go on with the rest
      obtain ⟨next, events, declared, taken⟩ := declare_of_verdict_ok verdict
      obtain ⟨refines, outcome⟩ := ih (h.takesIn taken)
      simp only [Catalog.declareAll, declared, outcome, Namespace.defineAll,
        Namespace.define_of_verdict_ok checked, Tally.of_cons]
      refine ⟨refines, ?_⟩
      cases (Namespace.defineAll _ rest).2 <;> rfl

/-- **One request**: what refines a namespace answers as it does, and still refines it. -/
theorem respond (h : catalog.Refines space) (request : Request) :
    (catalog.respond request).1.Refines (space.respond request).1 ∧
      (catalog.respond request).2 = (space.respond request).2 := by
  cases request with
  | defineInterface name fields base => exact h.defineInterface name fields base
  | defineType name kind => exact h.defineType name kind
  | load document =>
    obtain ⟨refines, outcome⟩ := h.declareAll document.declarations
    obtain ⟨loaded, loadedOutcome⟩ := catalog.load_eq document
    rw [← loaded] at refines
    rw [← loadedOutcome, Tally.of_declarations] at outcome
    exact ⟨refines, congrArg Response.loaded outcome⟩
  | interface name => exact ⟨h, congrArg Response.interface (h.interface name)⟩
  | type name => exact ⟨h, congrArg Response.type (h.type name)⟩
  | shape name => exact ⟨h, congrArg Response.shape (h.shape? name)⟩
  | kind name => exact ⟨h, congrArg Response.kind (h.kind? name)⟩
  | interfaceNames =>
    exact ⟨h, congrArg (fun shapes => Response.names (Dict.keys shapes)) h.interfaces⟩
  | typeNames =>
    exact ⟨h, congrArg (fun kinds => Response.names (Dict.keys kinds)) h.types⟩

/-- Any number of requests. -/
theorem responses (h : catalog.Refines space) (requests : List Request) :
    catalog.responses requests = space.responses requests := by
  induction requests generalizing catalog space with
  | nil => rfl
  | cons request rest ih =>
    obtain ⟨refines, answer⟩ := h.respond request
    rw [Catalog.responses, Namespace.responses, answer, ih refines]

end Refines

/-- A name that is no identifier cannot be declared, whatever the policy and whatever
names are taken. -/
theorem declare_of_not_isIdentifier {catalog : Catalog} {declaration : Declaration}
    (h : ¬ Text.IsIdentifier declaration.name) :
    catalog.declare declaration = .error (.invalidName declaration.name) :=
  declare_of_verdict_error (Declaration.verdict_of_not_isIdentifier h)

/-- **A catalog is a namespace**: whatever is asked of it, in whatever order and under
whatever policy, the answers are those of one map from names to definitions.  So an
interface or a type that is handed out is the one that its name is bound to from then
on, no type or no interface being left under it, and at all times the names of
interfaces and those of types are two ascending lists of identifiers without a name in
common, which name just what can be looked up.  A line break or a character outside of
ASCII, wherever it is, keeps a name from being declared. -/
theorem responses_eq_namespace (policy : Policy) (requests : List Request) :
    (empty policy).responses requests = (Namespace.empty policy).responses requests ∧
    let catalog := (empty policy).after requests
    (∀ name fields base defined, catalog.defineInterface name fields base = .ok defined →
      defined.catalog.interface name = .ok defined.handle ∧
        defined.catalog.type name = .error (.unknownType name)) ∧
    (∀ name kind defined, catalog.defineType name kind = .ok defined →
      defined.catalog.type name = .ok defined.handle ∧
        defined.catalog.interface name = .error (.unknownInterface name)) ∧
    catalog.interfaces.names.Pairwise (· < ·) ∧ catalog.types.names.Pairwise (· < ·) ∧
    (∀ name, name ∈ catalog.interfaces.names ↔ (catalog.interfaces.get? name).isSome) ∧
    (∀ name, name ∈ catalog.types.names ↔ (catalog.types.get? name).isSome) ∧
    (∀ name ∈ catalog.interfaces.names, Text.IsIdentifier name ∧
      name ∉ catalog.types.names) ∧
    (∀ name ∈ catalog.types.names, Text.IsIdentifier name ∧
      name ∉ catalog.interfaces.names) ∧
    (∀ declaration : Declaration, ∀ c ∈ declaration.name.toList, (c = '\n' ∨ 128 ≤ c.toNat) →
      catalog.declare declaration = .error (.invalidName declaration.name)) := by
  refine ⟨(Refines.empty policy).responses requests, ?_, ?_, Dict.pairwise_keys _,
    Dict.pairwise_keys _, fun _ => Dict.mem_keys, fun _ => Dict.mem_keys, ?_, ?_, ?_⟩
  · intro name fields base defined made
    have taken := takesIn_of_defineInterface made
    refine ⟨interface_of_takesIn taken, ?_⟩
    rw [type, types_get?, taken.2.self]
    rfl
  · intro name kind defined made
    have taken := takesIn_of_defineType made
    refine ⟨type_of_takesIn taken, ?_⟩
    rw [interface, interfaces_get?, taken.2.self]
    rfl
  · intro name listed
    have held := Dict.mem_keys.1 listed
    refine ⟨Registry.named _ name held, fun other => ?_⟩
    have unheld := Catalog.exclusive _ name held
    rw [Registry.contains, Dict.mem_keys.1 other] at unheld
    cases unheld
  · intro name listed
    have held := Dict.mem_keys.1 listed
    refine ⟨Registry.named _ name held, fun other => ?_⟩
    have unheld := Catalog.exclusive _ name (Dict.mem_keys.1 other)
    rw [Registry.contains, held] at unheld
    cases unheld
  · intro declaration c member wrong
    refine declare_of_not_isIdentifier fun ident => ?_
    have part := Text.toNat_lt_of_isIdentifierPart (Text.isIdentifierPart_of_mem ident member)
    rcases wrong with line | wide
    · exact part.1 line
    · omega

/-- A type whose name an interface takes over, and the other way round.  The interface has a
field of its base, one of its own, and one of both, which is as it declares it. -/
theorem responses_eq_namespace_takeover :
    let base : Shape := .ofList [("x", none), ("y", some (.single .string))]
    let fields : Shape := .ofList [("y", some (.single .number)), ("z", none)]
    let requests : List Request :=
      [.defineType "A" (.single .string), .defineInterface "B" base none,
        .defineInterface "A" fields (some "B"), .shape "A", .type "A"]
    let catalog := (empty {}).after [.defineType "A" (.single .string),
      .defineInterface "B" base none]
    ((empty {}).responses requests).drop 3 =
      [.shape (some (.ofList [("x", none), ("y", some (.single .number)), ("z", none)])),
        .type (.error (.unknownType "A"))] ∧
    (∃ defined, catalog.defineInterface "A" fields (some "B") = .ok defined ∧
      defined.catalog.interface "A" = .ok defined.handle ∧
        defined.catalog.type "A" = .error (.unknownType "A")) ∧
    (∃ defined, catalog.defineType "B" (.single .number) = .ok defined ∧
      defined.catalog.type "B" = .ok defined.handle ∧
        defined.catalog.interface "B" = .error (.unknownInterface "B")) ∧
    "A" ∈ catalog.types.names ∧ "A" ∉ catalog.interfaces.names ∧
    catalog.declare (.type "A\n" (.single .number)) = .error (.invalidName "A\n") := by
  intro base fields requests catalog
  obtain ⟨_, interface, type, _, _, _, _, _, names, invalid⟩ := responses_eq_namespace {}
    [.defineType "A" (.single .string), .defineInterface "B" base none]
  refine ⟨?_, ⟨_, rfl, interface "A" fields (some "B") _ rfl⟩,
    ⟨_, rfl, type "B" (.single .number) _ rfl⟩, ?_, ?_, ?_⟩
  · rw [(responses_eq_namespace {} requests).1]
    decide +kernel
  · decide
  · exact (names "A" (by decide)).2
  · exact invalid (.type "A\n" _) '\n' (by decide) (.inl rfl)

end Catalog

end Contracts
