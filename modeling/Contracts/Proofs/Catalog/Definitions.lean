import Contracts.Catalog.Document
import Contracts.Proofs.Definition.Shape

/-!
# Definitions under one set of names

Interfaces and types are kept in two registries, but no name is in both, so a catalog
gives each name at most one **definition**.  Everything that is defined later depends on
a catalog only through its policy and through `Catalog.definition?`, which says what
each name is bound to: whether a declaration is taken in, for which reason it is refused
otherwise, and what it binds its name to.

## Main definitions

* `Definition` — a shape or a kind.
* `Catalog.definition?` — what a name is bound to.
* `Declaration.verdict` — what a declaration binds its name to, or the reason against it.
* `Catalog.TakesIn` — one name is bound anew, and no other changes.

## Main results

* `Catalog.ext_definition?` — a catalog is its policy and what its names are bound to.
* `Catalog.map_defineInterface`, `Catalog.map_defineType` — registrations follow
  `Declaration.verdict`.
* `Catalog.declare_of_verdict_error`, `Catalog.declare_of_verdict_ok` — **so does making
  a declaration.**
-/

namespace Contracts

/-- What a name can be bound to. -/
inductive Definition where
  /-- It names an interface. -/
  | interface (shape : Shape) : Definition
  /-- It names a type. -/
  | type (kind : Kind) : Definition
  deriving DecidableEq, Repr

namespace Definition

/-- The shape, if an interface is named. -/
def shape? : Definition → Option Shape
  | .interface shape => some shape
  | .type _ => none

/-- The kind, if a type is named. -/
def kind? : Definition → Option Kind
  | .interface _ => none
  | .type kind => some kind

@[simp] theorem shape?_interface (shape : Shape) : (interface shape).shape? = some shape := rfl

@[simp] theorem shape?_type (kind : Kind) : (type kind).shape? = none := rfl

@[simp] theorem kind?_interface (shape : Shape) : (interface shape).kind? = none := rfl

@[simp] theorem kind?_type (kind : Kind) : (type kind).kind? = some kind := rfl

theorem shape?_eq_some {definition : Definition} {shape : Shape} :
    definition.shape? = some shape ↔ definition = .interface shape := by
  cases definition <;> simp

end Definition

/-! ### What a declaration asks for -/

namespace Declaration

/-- The name that is declared. -/
def name : Declaration → String
  | .type name _ => name
  | .interface declaration => declaration.name

/-- The interface that has to be there, if any. -/
def base? : Declaration → Option String
  | .type .. => none
  | .interface declaration => declaration.base

@[simp] theorem name_type (name : String) (kind : Kind) : (type name kind).name = name := rfl

@[simp] theorem name_interface (declaration : InterfaceDeclaration) :
    (interface declaration).name = declaration.name := rfl

@[simp] theorem base?_type (name : String) (kind : Kind) : (type name kind).base? = none := rfl

@[simp] theorem base?_interface (declaration : InterfaceDeclaration) :
    (interface declaration).base? = declaration.base := rfl

/-- The definition that is declared, where `bound` says what names are bound to: an
interface has the fields of its base and then its own, of two with one name the later. -/
def definition (bound : String → Option Definition) :
    Declaration → Except Violation Definition
  | .type _ kind => .ok (.type kind)
  | .interface declaration =>
      match declaration.base with
      | none => .ok (.interface declaration.fields)
      | some base =>
          match bound base with
          | some (.interface shape) =>
              .ok (.interface (.ofList (shape.declared ++ declaration.fields.declared)))
          | _ => .error (.unknownInterface base)

/-- What a declaration binds its name to, or the first reason against it: its name is no
identifier, its name is taken and has to be left alone, or its base is missing. -/
def verdict (policy : RegistrationPolicy) (bound : String → Option Definition)
    (declaration : Declaration) : Except Violation Definition :=
  if ¬ Text.IsIdentifier declaration.name then .error (.invalidName declaration.name)
  else if policy = .reject ∧ (bound declaration.name).isSome then
    .error (.alreadyRegistered declaration.name)
  else declaration.definition bound

variable {policy : RegistrationPolicy} {bound : String → Option Definition}
  {declaration : Declaration}

/-- A declaration is complete if it extends nothing, or an interface. -/
theorem exists_definition (h : ∀ base, declaration.base? = some base →
    ((bound base).bind Definition.shape?).isSome = true) :
    ∃ definition, declaration.definition bound = .ok definition := by
  cases declaration with
  | type name kind => exact ⟨_, rfl⟩
  | interface declaration =>
    simp only [definition]
    cases extended : declaration.base with
    | none => exact ⟨_, rfl⟩
    | some base =>
      obtain ⟨shape, found⟩ := Option.isSome_iff_exists.1 (h base extended)
      obtain ⟨definition, found, shaped⟩ := Option.bind_eq_some_iff.1 found
      rw [Definition.shape?_eq_some] at shaped
      subst shaped
      simp only [found]
      exact ⟨_, rfl⟩

theorem definition_of_missing {base : String} (extended : declaration.base? = some base)
    (h : ((bound base).bind Definition.shape?).isSome = false) :
    declaration.definition bound = .error (.unknownInterface base) := by
  cases declaration with
  | type name kind => cases extended
  | interface declaration =>
    simp only [definition, show declaration.base = some base from extended]
    rcases found : bound base with _ | (shape | kind)
    · rfl
    · rw [found] at h
      cases h
    · rfl

theorem verdict_of_not_isIdentifier (h : ¬ Text.IsIdentifier declaration.name) :
    declaration.verdict policy bound = .error (.invalidName declaration.name) :=
  if_pos h

theorem verdict_of_taken (h : Text.IsIdentifier declaration.name)
    (taken : policy = .reject ∧ (bound declaration.name).isSome = true) :
    declaration.verdict policy bound = .error (.alreadyRegistered declaration.name) := by
  rw [verdict, if_neg (not_not_intro h), if_pos taken]

theorem verdict_of_free (h : Text.IsIdentifier declaration.name)
    (free : ¬ (policy = .reject ∧ (bound declaration.name).isSome = true)) :
    declaration.verdict policy bound = declaration.definition bound := by
  rw [verdict, if_neg (not_not_intro h), if_neg free]

/-- A verdict with a definition comes from an identifier that may be bound. -/
theorem verdict_eq_ok {definition : Definition} :
    declaration.verdict policy bound = .ok definition ↔
      Text.IsIdentifier declaration.name ∧
        ¬ (policy = .reject ∧ (bound declaration.name).isSome = true) ∧
        declaration.definition bound = .ok definition := by
  by_cases ident : Text.IsIdentifier declaration.name
  · by_cases taken : policy = .reject ∧ (bound declaration.name).isSome = true
    · rw [verdict_of_taken ident taken]
      constructor
      · intro made
        cases made
      · intro made
        exact absurd taken made.2.1
    · rw [verdict_of_free ident taken]
      constructor
      · intro made
        exact ⟨ident, taken, made⟩
      · intro made
        exact made.2.2
  · rw [verdict_of_not_isIdentifier ident]
    constructor
    · intro made
      cases made
    · intro made
      exact absurd made.1 ident

end Declaration

namespace Catalog

/-! ### The definition of a name -/

/-- What a name is bound to. -/
def definition? (catalog : Catalog) (name : String) : Option Definition :=
  ((catalog.interfaces.get? name).map .interface).or ((catalog.types.get? name).map .type)

variable {catalog next : Catalog} {name : String} {definition : Definition}
  {violation : Violation}

@[simp] theorem definition?_empty (policy : Policy) (name : String) :
    (empty policy).definition? name = none := rfl

/-- Of the two sorts a name has one. -/
theorem types_get?_eq_none {shape : Shape} (h : catalog.interfaces.get? name = some shape) :
    catalog.types.get? name = none := by
  have held : catalog.interfaces.contains name = true := Option.isSome_iff_exists.2 ⟨shape, h⟩
  exact Option.isSome_eq_false_iff.1 (catalog.exclusive name held) |> Option.isNone_iff_eq_none.1

/-- The interface of a name is its definition, if that is an interface. -/
theorem interfaces_get? (catalog : Catalog) (name : String) :
    catalog.interfaces.get? name = (catalog.definition? name).bind Definition.shape? := by
  unfold definition?
  cases catalog.interfaces.get? name with
  | some shape => rfl
  | none => cases catalog.types.get? name <;> rfl

/-- The type of a name is its definition, if that is a type. -/
theorem types_get? (catalog : Catalog) (name : String) :
    catalog.types.get? name = (catalog.definition? name).bind Definition.kind? := by
  unfold definition?
  cases h : catalog.interfaces.get? name with
  | some shape => rw [types_get?_eq_none h]; rfl
  | none => cases catalog.types.get? name <;> rfl

theorem interfaces_contains (catalog : Catalog) (name : String) :
    catalog.interfaces.contains name =
      ((catalog.definition? name).bind Definition.shape?).isSome := by
  rw [← interfaces_get?]
  rfl

theorem types_contains (catalog : Catalog) (name : String) :
    catalog.types.contains name = ((catalog.definition? name).bind Definition.kind?).isSome := by
  rw [← types_get?]
  rfl

/-- Whether a name is bound at all. -/
theorem isSome_definition? (catalog : Catalog) (name : String) :
    (catalog.definition? name).isSome =
      (catalog.interfaces.contains name || catalog.types.contains name) := by
  unfold definition?
  rw [Option.isSome_or, Option.isSome_map, Option.isSome_map]
  rfl

/-- Names that are bound are identifiers. -/
theorem isIdentifier_of_isSome (h : (catalog.definition? name).isSome = true) :
    Text.IsIdentifier name := by
  rw [isSome_definition?, Bool.or_eq_true] at h
  exact h.elim (catalog.interfaces.named name) (catalog.types.named name)

/-- **Extensionality**: a catalog is its policy and what its names are bound to. -/
theorem ext_definition? (policy : catalog.policy = next.policy)
    (h : ∀ name, catalog.definition? name = next.definition? name) : catalog = next := by
  have interfaces : catalog.interfaces.entries = next.interfaces.entries :=
    Dict.ext_get? fun name => by
      have := catalog.interfaces_get? name
      rwa [h, ← next.interfaces_get?] at this
  have types : catalog.types.entries = next.types.entries :=
    Dict.ext_get? fun name => by
      have := catalog.types_get? name
      rwa [h, ← next.types_get?] at this
  obtain ⟨_, ⟨_, _⟩, ⟨_, _⟩, _⟩ := catalog
  obtain ⟨_, ⟨_, _⟩, ⟨_, _⟩, _⟩ := next
  cases policy
  cases interfaces
  cases types
  rfl

/-! ### Taking a definition in -/

/-- One name is bound anew, and nothing else changes. -/
structure TakesIn (catalog : Catalog) (name : String) (definition : Definition)
    (next : Catalog) : Prop where
  /-- The policy stays. -/
  policy : next.policy = catalog.policy
  /-- The name has the new definition, and the others keep theirs. -/
  definition? : ∀ other, next.definition? other =
    if other = name then some definition else catalog.definition? other

theorem TakesIn.self (h : catalog.TakesIn name definition next) :
    next.definition? name = some definition := by
  rw [h.definition?, if_pos rfl]

theorem TakesIn.of_ne (h : catalog.TakesIn name definition next) {other : String}
    (ne : other ≠ name) : next.definition? other = catalog.definition? other := by
  rw [h.definition?, if_neg ne]

/-- The name is an identifier. -/
theorem TakesIn.isIdentifier (h : catalog.TakesIn name definition next) :
    Text.IsIdentifier name :=
  isIdentifier_of_isSome (congrArg Option.isSome h.self)

/-- There is only one catalog in which just one name is bound anew. -/
theorem TakesIn.unique {next' : Catalog} (h : catalog.TakesIn name definition next)
    (h' : catalog.TakesIn name definition next') : next = next' :=
  ext_definition? (h.policy.trans h'.policy.symm) fun other => by
    rw [h.definition?, h'.definition?]

/-! ### Registrations -/

/-- A name of the other sort is in the way under the one policy only. -/
theorem isClaimed_eq (catalog : Catalog) (held : Bool) :
    catalog.isClaimed held = true ↔
      held = true ∧ catalog.policy.registration = .reject := by
  unfold isClaimed
  rw [Bool.and_eq_true, beq_iff_eq]

end Catalog

namespace Registry

variable {β : Type} {registry : Registry β} {policy : RegistrationPolicy} {name : String}

theorem permit_of_not_isIdentifier (h : ¬ Text.IsIdentifier name)
    (definition : Except Violation β) :
    registry.permit policy name definition = .error (.invalidName name) :=
  dif_neg h

theorem permit_of_taken (h : Text.IsIdentifier name)
    (taken : policy = .reject ∧ registry.contains name = true)
    (definition : Except Violation β) :
    registry.permit policy name definition = .error (.alreadyRegistered name) := by
  rw [permit, dif_pos h, if_pos taken]

theorem permit_of_free (h : Text.IsIdentifier name)
    (free : ¬ (policy = .reject ∧ registry.contains name = true))
    (definition : Except Violation β) :
    registry.permit policy name definition = definition.map (⟨·, h⟩) := by
  rw [permit, dif_pos h, if_neg free]

/-- An interface is registered with the fields that it is resolved to, and that is logged. -/
theorem registerInterface_eq_ok {registry : Registry Shape} {fields : Shape}
    {base : Option String} {admitted : Admitted registry name}
    (made : registry.registerInterface policy name fields base = .ok admitted) :
    registry.resolve fields base = .ok admitted.definition ∧
      admitted.event = .interfaceRegistered name admitted.definition.size base
        (registry.contains name) := by
  unfold registerInterface permit at made
  split at made
  · split at made
    · cases made
    · cases resolved : registry.resolve fields base with
      | error violation =>
        rw [resolved] at made
        cases made
      | ok shape =>
        rw [resolved] at made
        cases made
        exact ⟨rfl, rfl⟩
  · cases made

/-- A type is registered with its kind, and that is logged. -/
theorem registerType_eq_ok {registry : Registry Kind} {kind : Kind}
    {admitted : Admitted registry name}
    (made : registry.registerType policy name kind = .ok admitted) :
    admitted.definition = kind ∧
      admitted.event = .typeRegistered name kind (registry.contains name) := by
  unfold registerType permit at made
  split at made
  · split at made
    · cases made
    · cases made
      exact ⟨rfl, rfl⟩
  · cases made

end Registry

namespace Catalog

variable {catalog : Catalog} {name : String} {definition : Definition} {violation : Violation}

/-- The two checks of a name, one in each registry, come to the checks of
`Declaration.verdict`.  That a name of the other sort is looked for before the name is
checked makes no difference: names that are held are identifiers. -/
theorem permit_eq {β : Type} (catalog : Catalog) (registry : Registry β) {held : Bool}
    (taken : (catalog.definition? name).isSome = (held || registry.contains name))
    (wanted : Except Violation β) (wrap : β → Definition) :
    (if catalog.isClaimed held then .error (.alreadyRegistered name)
      else (registry.permit catalog.policy.registration name wanted).map fun x => wrap x.1) =
    if ¬ Text.IsIdentifier name then .error (.invalidName name)
    else if catalog.policy.registration = .reject ∧ (catalog.definition? name).isSome then
      .error (.alreadyRegistered name)
    else wanted.map wrap := by
  by_cases ident : Text.IsIdentifier name
  · rw [if_neg (not_not_intro ident)]
    by_cases rejects : catalog.policy.registration = .reject
    · cases held with
      | true => rw [if_pos ((isClaimed_eq ..).2 ⟨rfl, rejects⟩), if_pos ⟨rejects, by simp [taken]⟩]
      | false =>
        rw [if_neg (by simp [isClaimed_eq])]
        cases contained : registry.contains name with
        | true =>
          rw [Registry.permit_of_taken ident ⟨rejects, contained⟩,
            if_pos ⟨rejects, by simp [taken, contained]⟩]
          rfl
        | false =>
          rw [Registry.permit_of_free ident (by simp [contained]),
            if_neg (by simp [taken, contained])]
          cases wanted <;> rfl
    · rw [if_neg (by simp [isClaimed_eq, rejects]), if_neg (by simp [rejects]),
        Registry.permit_of_free ident (by simp [rejects])]
      cases wanted <;> rfl
  · -- a name that is held would be an identifier, so the first check lets it pass
    have free : (catalog.definition? name).isSome = false :=
      Bool.eq_false_iff.2 fun bound => ident (isIdentifier_of_isSome bound)
    have unheld : held = false := by
      rw [taken, Bool.or_eq_false_iff] at free
      exact free.1
    rw [if_pos ident, if_neg (by simp [isClaimed_eq, unheld]),
      Registry.permit_of_not_isIdentifier ident]
    rfl

/-- The fields of an interface as the registry resolves them are those that its
declaration asks for. -/
theorem map_resolve (catalog : Catalog) (name : String) (fields : Shape)
    (base : Option String) :
    (catalog.interfaces.resolve fields base).map .interface =
      (Declaration.interface ⟨name, base, fields⟩).definition catalog.definition? := by
  cases base with
  | none => rfl
  | some base =>
    simp only [Registry.resolve, Declaration.definition, interfaces_get?,
      Shape.extending_eq_ofList]
    rcases catalog.definition? base with _ | (_ | _) <;> rfl

/-- Defining an interface follows `Declaration.verdict`. -/
theorem map_defineInterface (catalog : Catalog) (name : String) (fields : Shape)
    (base : Option String) :
    (catalog.defineInterface name fields base).map
        (fun defined => .interface defined.handle.shape) =
      (Declaration.interface ⟨name, base, fields⟩).verdict catalog.policy.registration
        catalog.definition? := by
  have taken : (catalog.definition? name).isSome =
      (catalog.types.contains name || catalog.interfaces.contains name) := by
    rw [isSome_definition?, Bool.or_comm]
  have checks := catalog.permit_eq catalog.interfaces taken
    (catalog.interfaces.resolve fields base) .interface
  rw [map_resolve] at checks
  refine Eq.trans ?_ checks
  unfold defineInterface Registry.registerInterface
  simp only []
  split
  · rfl
  · cases Registry.permit .. <;> rfl

/-- Defining a type follows `Declaration.verdict`. -/
theorem map_defineType (catalog : Catalog) (name : String) (kind : Kind) :
    (catalog.defineType name kind).map (fun defined => .type defined.handle.kind) =
      (Declaration.type name kind).verdict catalog.policy.registration catalog.definition? := by
  have checks := catalog.permit_eq catalog.types (isSome_definition? catalog name)
    (.ok kind) .type
  refine Eq.trans ?_ checks
  unfold defineType Registry.registerType
  simp only []
  split
  · rfl
  · cases Registry.permit .. <;> rfl

/-- An interface that is defined has the name, the seed policy of the catalog, and takes
the place of whatever had the name. -/
theorem takesIn_of_defineInterface {fields : Shape} {base : Option String}
    {defined : Defined Interface} (h : catalog.defineInterface name fields base = .ok defined) :
    defined.handle = ⟨name, defined.handle.shape, catalog.policy.seeds⟩ ∧
      catalog.TakesIn name (.interface defined.handle.shape) defined.catalog := by
  unfold defineInterface at h
  simp only [] at h
  split at h
  · cases h
  · cases registered : catalog.interfaces.registerInterface catalog.policy.registration name
        fields base with
    | error violation => rw [registered] at h; cases h
    | ok admitted =>
      rw [registered] at h
      cases h
      refine ⟨rfl, rfl, fun other => ?_⟩
      -- the interface is in front of what is left of the types
      simp only [definition?, Registry.Admitted.registry, Registry.get?_insert,
        Registry.get?_erase]
      split <;> rfl

/-- A type that is defined has the name, the seed policy of the catalog, and takes the
place of whatever had the name. -/
theorem takesIn_of_defineType {kind : Kind} {defined : Defined SlotType}
    (h : catalog.defineType name kind = .ok defined) :
    defined.handle = ⟨name, defined.handle.kind, catalog.policy.seeds⟩ ∧
      catalog.TakesIn name (.type defined.handle.kind) defined.catalog := by
  unfold defineType at h
  simp only [] at h
  split at h
  · cases h
  · cases registered : catalog.types.registerType catalog.policy.registration name kind with
    | error violation => rw [registered] at h; cases h
    | ok admitted =>
      rw [registered] at h
      cases h
      refine ⟨rfl, rfl, fun other => ?_⟩
      simp only [definition?, Registry.Admitted.registry, Registry.get?_insert,
        Registry.get?_erase]
      split <;> rfl

/-- An interface that is defined is registered, and may take its name from a type. -/
theorem exists_admitted_of_defineInterface {fields : Shape} {base : Option String}
    {defined : Defined Interface} (h : catalog.defineInterface name fields base = .ok defined) :
    ∃ admitted : Registry.Admitted catalog.interfaces name,
      catalog.interfaces.registerInterface catalog.policy.registration name fields base =
          .ok admitted ∧
        admitted.definition = defined.handle.shape ∧
        defined.events = admitted.event ::
          if catalog.types.contains name then [.typeEvicted name] else [] := by
  unfold defineInterface at h
  dsimp only at h
  split at h
  · cases h
  · cases registered : catalog.interfaces.registerInterface catalog.policy.registration name
        fields base with
    | error violation => rw [registered] at h; cases h
    | ok admitted =>
      rw [registered] at h
      cases h
      exact ⟨admitted, rfl, rfl, rfl⟩

/-- A type that is defined is registered, and may take its name from an interface. -/
theorem exists_admitted_of_defineType {kind : Kind} {defined : Defined SlotType}
    (h : catalog.defineType name kind = .ok defined) :
    ∃ admitted : Registry.Admitted catalog.types name,
      catalog.types.registerType catalog.policy.registration name kind = .ok admitted ∧
        admitted.definition = defined.handle.kind ∧
        defined.events = admitted.event ::
          if catalog.interfaces.contains name then [.interfaceEvicted name] else [] := by
  unfold defineType at h
  dsimp only at h
  split at h
  · cases h
  · cases registered : catalog.types.registerType catalog.policy.registration name kind with
    | error violation => rw [registered] at h; cases h
    | ok admitted =>
      rw [registered] at h
      cases h
      exact ⟨admitted, rfl, rfl, rfl⟩

/-- **Making a declaration follows `Declaration.verdict`**: it fails for the first reason
against it, and without one its name, and no other, is bound to what it declares. -/
theorem declare_of_verdict_error {declaration : Declaration}
    (h : declaration.verdict catalog.policy.registration catalog.definition? = .error violation) :
    catalog.declare declaration = .error violation := by
  cases declaration with
  | type name kind =>
    rw [← map_defineType] at h
    simp only [declare]
    cases defined : catalog.defineType name kind with
    | error _ => rw [defined] at h; cases h; rfl
    | ok _ => rw [defined] at h; cases h
  | interface declaration =>
    rw [← map_defineInterface] at h
    simp only [declare]
    cases defined : catalog.defineInterface declaration.name declaration.fields
        declaration.base with
    | error _ => rw [defined] at h; cases h; rfl
    | ok _ => rw [defined] at h; cases h

theorem declare_of_verdict_ok {declaration : Declaration}
    (h : declaration.verdict catalog.policy.registration catalog.definition? = .ok definition) :
    ∃ next events, catalog.declare declaration = .ok (next, events) ∧
      catalog.TakesIn declaration.name definition next := by
  cases declaration with
  | type name kind =>
    rw [← map_defineType] at h
    simp only [declare]
    cases defined : catalog.defineType name kind with
    | error _ => rw [defined] at h; cases h
    | ok _ =>
      rw [defined] at h
      cases h
      exact ⟨_, _, rfl, (takesIn_of_defineType defined).2⟩
  | interface declaration =>
    rw [← map_defineInterface] at h
    simp only [declare]
    cases defined : catalog.defineInterface declaration.name declaration.fields
        declaration.base with
    | error _ => rw [defined] at h; cases h
    | ok _ =>
      rw [defined] at h
      cases h
      exact ⟨_, _, rfl, (takesIn_of_defineInterface defined).2⟩

end Catalog

end Contracts
