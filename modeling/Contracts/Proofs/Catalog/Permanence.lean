import Contracts.Proofs.Catalog.Lineage

/-!
# Permanence

Where a name that is taken cannot be defined again, what a name is bound to once it is bound
to for good.  Whatever is asked of such a catalog, at any two times a name gives the same
interface or the same type, and never one of them at one time and the other at another.  So
whoever is handed an interface or a type has the only one that ever was or will be under its
name, and nothing in the log tells of a definition that was replaced or evicted.

## Main definitions

* `Catalog.HandsOutInterface`, `Catalog.HandsOutType` — what is handed out for a name, by a
  definition or by a lookup, in the course of some requests.
* `Event.displaces` — an event that tells that a name lost a definition.
* `Catalog.logged` — what is logged in the course of some requests.

## Main results

* `Catalog.definition?_after_of_reject` — **what is bound stays bound.**
* `Catalog.HandsOutInterface.interface_after`, `Catalog.HandsOutType.type_after` — what is
  handed out for a name is what the name gives in the end.
* `Catalog.displaces_logged` — no definition is lost.
* `Catalog.bindings_permanent` — all of it, at any two times of a run.
-/

namespace Contracts

/-- The event tells that a name lost the definition it had. -/
def Event.displaces : Event → Bool
  | .interfaceEvicted _ | .typeEvicted _ => true
  | .interfaceRegistered _ _ _ replaced | .typeRegistered _ _ replaced => replaced
  | _ => false

/-! ### What an instance takes -/

/-- What comes of a seed depends on its entries only, wherever it is. -/
theorem Interface.map_recordOf_constructWith_congr {interface : Interface}
    {world world' : World} {seed seed' : RecordId}
    (same : world.store.record seed = world'.store.record seed') :
    (world.constructWith interface seed).map World.recordOf =
      (world'.constructWith interface seed').map World.recordOf := by
  cases seeds : interface.seeds with
  | validate =>
    rw [map_recordOf_constructWith seeds, map_recordOf_constructWith seeds, same]
  | trust =>
    rw [World.constructWith, World.constructWith, seeds]
    exact congrArg Except.ok same

/-- What comes of a first value depends on the type only. -/
theorem SlotType.map_held_constructSlot (type : SlotType) (world : World) (initial : Value) :
    (world.constructSlot type initial).map (fun made => made.2.held) =
      match type.seeds with
      | .validate => (type.check initial).map fun _ => initial
      | .trust => .ok initial := by
  rw [World.constructSlot]
  cases type.seeds with
  | validate => cases type.check initial <;> rfl
  | trust => rfl

/-- What comes of a write depends on the type of the slot only. -/
theorem Slot.map_held_setSlot (slot : Slot) (world : World) (field : String) (value : Value) :
    (world.setSlot slot field value).2.map Slot.held =
      if field = accessor then (slot.type.check value).map fun _ => value
      else .error (.wrongAccessor slot.type.name field) := by
  rw [World.setSlot]
  split
  · rw [World.setSlotValue]
    cases slot.type.check value <;> rfl
  · rfl

namespace Catalog

variable {catalog : Catalog} {name : String}

/-! ### What is bound -/

theorem after_append (catalog : Catalog) (front rest : List Request) :
    catalog.after (front ++ rest) = (catalog.after front).after rest :=
  List.foldl_append

theorem policy_after (catalog : Catalog) (requests : List Request) :
    (catalog.after requests).policy = catalog.policy :=
  (catalog.makes_history requests).policy

theorem policy_respond (catalog : Catalog) (request : Request) :
    (catalog.respond request).1.policy = catalog.policy :=
  catalog.policy_after [request]

/-- **What is bound stays bound**, where no name may be taken over. -/
theorem definition?_after_of_reject (rejects : catalog.policy.registration = .reject)
    {definition : Definition} (bound : catalog.definition? name = some definition)
    (requests : List Request) : (catalog.after requests).definition? name = some definition := by
  have made := catalog.makes_history requests
  -- all that is declared was free before, which the name was not
  have undeclared : ∀ declaration ∈ catalog.history requests, declaration.name ≠ name := by
    rintro declaration member rfl
    rw [made.definition?_eq_none rejects declaration member] at bound
    cases bound
  rw [made.definition?_of_undeclared undeclared, bound]

theorem interface_eq_ok {interface : Interface} :
    catalog.interface name = .ok interface ↔ ∃ shape,
      catalog.definition? name = some (.interface shape) ∧
        ⟨name, shape, catalog.policy.seeds⟩ = interface := by
  rw [Catalog.interface, interfaces_get?]
  rcases catalog.definition? name with _ | _ | _ <;> simp

theorem type_eq_ok {type : SlotType} :
    catalog.type name = .ok type ↔ ∃ kind,
      catalog.definition? name = some (.type kind) ∧
        ⟨name, kind, catalog.policy.seeds⟩ = type := by
  rw [Catalog.type, types_get?]
  rcases catalog.definition? name with _ | _ | _ <;> simp

theorem interface_eq_error :
    catalog.interface name = .error (.unknownInterface name) ↔
      ∀ shape, catalog.definition? name ≠ some (.interface shape) := by
  rw [Catalog.interface, interfaces_get?]
  rcases catalog.definition? name with _ | _ | _ <;> simp

theorem type_eq_error :
    catalog.type name = .error (.unknownType name) ↔
      ∀ kind, catalog.definition? name ≠ some (.type kind) := by
  rw [Catalog.type, types_get?]
  rcases catalog.definition? name with _ | _ | _ <;> simp

/-- A name under which an interface is found gives this interface from then on. -/
theorem interface_after_of_reject (rejects : catalog.policy.registration = .reject)
    {interface : Interface} (found : catalog.interface name = .ok interface)
    (requests : List Request) : (catalog.after requests).interface name = .ok interface := by
  obtain ⟨shape, bound, rfl⟩ := interface_eq_ok.1 found
  refine interface_eq_ok.2 ⟨shape, definition?_after_of_reject rejects bound requests, ?_⟩
  rw [policy_after]

theorem type_after_of_reject (rejects : catalog.policy.registration = .reject)
    {type : SlotType} (found : catalog.type name = .ok type) (requests : List Request) :
    (catalog.after requests).type name = .ok type := by
  obtain ⟨kind, bound, rfl⟩ := type_eq_ok.1 found
  refine type_eq_ok.2 ⟨kind, definition?_after_of_reject rejects bound requests, ?_⟩
  rw [policy_after]

theorem mem_interfaces_names :
    name ∈ catalog.interfaces.names ↔ ∃ interface, catalog.interface name = .ok interface := by
  rw [Registry.names, Dict.mem_keys, Dict.contains, Catalog.interface, Registry.get?]
  cases catalog.interfaces.entries.get? name <;> simp

theorem mem_types_names :
    name ∈ catalog.types.names ↔ ∃ type, catalog.type name = .ok type := by
  rw [Registry.names, Dict.mem_keys, Dict.contains, Catalog.type, Registry.get?]
  cases catalog.types.entries.get? name <;> simp

/-! ### What is handed out -/

/-- In the course of some requests an interface is handed out for a name, to whoever defines
it or looks it up. -/
def HandsOutInterface (catalog : Catalog) (requests : List Request) (name : String)
    (handle : Interface) : Prop :=
  ∃ front request rest, requests = front ++ request :: rest ∧
    (request = .interface name ∨ ∃ fields base, request = .defineInterface name fields base) ∧
    ((catalog.after front).respond request).2 = .interface (.ok handle)

/-- In the course of some requests a type is handed out for a name, to whoever defines it or
looks it up. -/
def HandsOutType (catalog : Catalog) (requests : List Request) (name : String)
    (handle : SlotType) : Prop :=
  ∃ front request rest, requests = front ++ request :: rest ∧
    (request = .type name ∨ ∃ kind, request = .defineType name kind) ∧
    ((catalog.after front).respond request).2 = .type (.ok handle)

/-- What is handed out for a name is what the name gives in the end. -/
theorem HandsOutInterface.interface_after {requests : List Request} {handle : Interface}
    (rejects : catalog.policy.registration = .reject)
    (given : catalog.HandsOutInterface requests name handle) :
    (catalog.after requests).interface name = .ok handle := by
  obtain ⟨front, request, rest, rfl, asked, answer⟩ := given
  -- it is found when it is handed out, and from then on
  have found : ((catalog.after front).respond request).1.interface name = .ok handle := by
    rcases asked with rfl | ⟨fields, base, rfl⟩
    · exact Response.interface.inj answer
    · simp only [respond] at answer ⊢
      cases made : (catalog.after front).defineInterface name fields base with
      | error violation =>
        rw [made] at answer
        cases answer
      | ok defined =>
        rw [made] at answer
        cases answer
        exact interface_of_takesIn (takesIn_of_defineInterface made)
  have rejects' : ((catalog.after front).respond request).1.policy.registration = .reject := by
    rw [policy_respond, policy_after, rejects]
  rw [after_append]
  exact interface_after_of_reject rejects' found rest

theorem HandsOutType.type_after {requests : List Request} {handle : SlotType}
    (rejects : catalog.policy.registration = .reject)
    (given : catalog.HandsOutType requests name handle) :
    (catalog.after requests).type name = .ok handle := by
  obtain ⟨front, request, rest, rfl, asked, answer⟩ := given
  have found : ((catalog.after front).respond request).1.type name = .ok handle := by
    rcases asked with rfl | ⟨kind, rfl⟩
    · exact Response.type.inj answer
    · simp only [respond] at answer ⊢
      cases made : (catalog.after front).defineType name kind with
      | error violation =>
        rw [made] at answer
        cases answer
      | ok defined =>
        rw [made] at answer
        cases answer
        exact type_of_takesIn (takesIn_of_defineType made)
  have rejects' : ((catalog.after front).respond request).1.policy.registration = .reject := by
    rw [policy_respond, policy_after, rejects]
  rw [after_append]
  exact type_after_of_reject rejects' found rest

/-! ### What is logged -/

/-- What is logged when an interface is defined. -/
theorem events_of_defineInterface {fields : Shape} {base : Option String}
    {defined : Defined Interface}
    (made : catalog.defineInterface name fields base = .ok defined) :
    defined.events =
      .interfaceRegistered name defined.handle.shape.size base
          (catalog.interfaces.contains name) ::
        if catalog.types.contains name then [.typeEvicted name] else [] := by
  obtain ⟨admitted, registered, same, logged⟩ := exists_admitted_of_defineInterface made
  rw [logged, (Registry.registerInterface_eq_ok registered).2, same]

/-- What is logged when a type is defined. -/
theorem events_of_defineType {kind : Kind} {defined : Defined SlotType}
    (made : catalog.defineType name kind = .ok defined) :
    defined.events =
      .typeRegistered name defined.handle.kind (catalog.types.contains name) ::
        if catalog.interfaces.contains name then [.interfaceEvicted name] else [] := by
  obtain ⟨admitted, registered, same, logged⟩ := exists_admitted_of_defineType made
  obtain ⟨definition, event⟩ := Registry.registerType_eq_ok registered
  rw [logged, event, ← same, definition]

/-- A name that is declared was of no sort before, where no name may be taken over. -/
theorem contains_of_verdict_ok (rejects : catalog.policy.registration = .reject)
    {declaration : Declaration} {definition : Definition}
    (verdict : declaration.verdict catalog.policy.registration catalog.definition? =
      .ok definition) :
    catalog.interfaces.contains declaration.name = false ∧
      catalog.types.contains declaration.name = false := by
  have free := (Declaration.verdict_eq_ok.1 verdict).2.1
  rw [isSome_definition?] at free
  simpa [rejects] using free

/-- Making a declaration displaces nothing, then. -/
theorem displaces_declare (rejects : catalog.policy.registration = .reject)
    {declaration : Declaration} {next : Catalog} {events : List Event}
    (made : catalog.declare declaration = .ok (next, events)) :
    ∀ event ∈ events, event.displaces = false := by
  cases declaration with
  | type name kind =>
    have verdict := catalog.map_defineType name kind
    rw [declare] at made
    cases defined : catalog.defineType name kind with
    | error violation =>
      rw [defined] at made
      cases made
    | ok defined' =>
      rw [defined] at made verdict
      cases made
      have free := contains_of_verdict_ok rejects verdict.symm
      rw [Declaration.name_type] at free
      rw [events_of_defineType defined, free.1, free.2]
      simp [Event.displaces]
  | interface declaration =>
    have verdict := catalog.map_defineInterface declaration.name declaration.fields
      declaration.base
    rw [declare] at made
    cases defined : catalog.defineInterface declaration.name declaration.fields
        declaration.base with
    | error violation =>
      rw [defined] at made
      cases made
    | ok defined' =>
      rw [defined] at made verdict
      cases made
      have free := contains_of_verdict_ok rejects verdict.symm
      rw [Declaration.name_interface] at free
      rw [events_of_defineInterface defined, free.1, free.2]
      simp [Event.displaces]

theorem policy_declare {declaration : Declaration} {next : Catalog} {events : List Event}
    (made : catalog.declare declaration = .ok (next, events)) : next.policy = catalog.policy := by
  cases verdict : declaration.verdict catalog.policy.registration catalog.definition? with
  | error violation =>
    rw [declare_of_verdict_error verdict] at made
    cases made
  | ok definition =>
    obtain ⟨next', events', made', taken⟩ := declare_of_verdict_ok verdict
    rw [made'] at made
    cases made
    exact taken.policy

theorem displaces_declareAll (rejects : catalog.policy.registration = .reject)
    (declarations : List Declaration) :
    ∀ event ∈ (catalog.declareAll declarations).events, event.displaces = false := by
  induction declarations generalizing catalog with
  | nil => exact List.forall_mem_nil _
  | cons first rest ih =>
    cases made : catalog.declare first with
    | error violation =>
      simp only [declareAll, made]
      exact List.forall_mem_nil _
    | ok outcome =>
      obtain ⟨middle, events⟩ := outcome
      simp only [declareAll, made]
      rw [List.forall_mem_append]
      exact ⟨displaces_declare rejects made, ih (policy_declare made ▸ rejects)⟩

/-- What is logged for a request. -/
def loggedFor (catalog : Catalog) : Request → List Event
  | .defineInterface name fields base =>
      match catalog.defineInterface name fields base with
      | .error _ => []
      | .ok defined => defined.events
  | .defineType name kind =>
      match catalog.defineType name kind with
      | .error _ => []
      | .ok defined => defined.events
  | .load document => (catalog.load document).events
  | _ => []

/-- What is logged in the course of some requests. -/
def logged (catalog : Catalog) : List Request → List Event
  | [] => []
  | request :: rest => catalog.loggedFor request ++ (catalog.respond request).1.logged rest

/-- Nothing but the declarations of a request is logged, and that a document was loaded. -/
theorem mem_loggedFor {request : Request} {event : Event}
    (member : event ∈ catalog.loggedFor request) :
    event ∈ (catalog.declareAll request.declarations).events ∨
      ∃ kinds interfaces, event = .documentLoaded kinds interfaces := by
  cases request with
  | defineInterface name fields base =>
    refine .inl ?_
    simp only [loggedFor] at member
    simp only [Request.declarations, declareAll, declare]
    cases made : catalog.defineInterface name fields base with
    | error violation =>
      rw [made] at member
      cases member
    | ok defined =>
      rw [made] at member
      exact List.mem_append_left _ member
  | defineType name kind =>
    refine .inl ?_
    simp only [loggedFor] at member
    simp only [Request.declarations, declareAll, declare]
    cases made : catalog.defineType name kind with
    | error violation =>
      rw [made] at member
      cases member
    | ok defined =>
      rw [made] at member
      exact List.mem_append_left _ member
  | load document =>
    simp only [loggedFor, load] at member
    cases outcome : (catalog.declareAll document.declarations).outcome with
    | error violation =>
      simp only [outcome] at member
      exact .inl member
    | ok tally =>
      simp only [outcome] at member
      rcases List.mem_append.1 member with member | member
      · exact .inl member
      · exact .inr ⟨_, _, List.mem_singleton.1 member⟩
  | _ => cases member

/-- **No definition is lost**, where no name may be taken over. -/
theorem displaces_logged (rejects : catalog.policy.registration = .reject)
    (requests : List Request) : ∀ event ∈ catalog.logged requests, event.displaces = false := by
  induction requests generalizing catalog with
  | nil => exact List.forall_mem_nil _
  | cons request rest ih =>
    rw [logged, List.forall_mem_append]
    refine ⟨fun event member => ?_, ih (policy_respond catalog request ▸ rejects)⟩
    rcases mem_loggedFor member with declared | ⟨kinds, interfaces, rfl⟩
    · exact displaces_declareAll rejects _ event declared
    · rfl

/-! ### At any two times -/

/-- What is bound at some time is bound at the end. -/
theorem definition?_of_front {requests earlier : List Request} {name : String}
    {definition : Definition} (rejects : catalog.policy.registration = .reject)
    (front : earlier <+: requests)
    (bound : (catalog.after earlier).definition? name = some definition) :
    (catalog.after requests).definition? name = some definition := by
  obtain ⟨rest, rfl⟩ := front
  rw [after_append]
  refine definition?_after_of_reject ?_ bound rest
  rw [policy_after, rejects]

/-- A name that gives an interface at one time gives no type at any other. -/
theorem type_eq_error_of_interface {requests one other : List Request} {name : String}
    {interface : Interface} (rejects : catalog.policy.registration = .reject)
    (front : one <+: requests) (front' : other <+: requests)
    (found : (catalog.after one).interface name = .ok interface) :
    (catalog.after other).type name = .error (.unknownType name) := by
  obtain ⟨shape, bound, -⟩ := interface_eq_ok.1 found
  refine type_eq_error.2 fun kind bound' => ?_
  cases (definition?_of_front rejects front bound).symm.trans
    (definition?_of_front rejects front' bound')

theorem interface_eq_error_of_type {requests one other : List Request} {name : String}
    {type : SlotType} (rejects : catalog.policy.registration = .reject)
    (front : one <+: requests) (front' : other <+: requests)
    (found : (catalog.after one).type name = .ok type) :
    (catalog.after other).interface name = .error (.unknownInterface name) := by
  obtain ⟨kind, bound, -⟩ := type_eq_ok.1 found
  refine interface_eq_error.2 fun shape bound' => ?_
  cases (definition?_of_front rejects front bound).symm.trans
    (definition?_of_front rejects front' bound')

/-- **The main theorem**: where no name may be taken over, whatever a name gives at one time
of a run of requests it gives at any later time, and at no time does it give something of the
other sort; names are never lost.  All the interfaces that are handed out for a name in the
run, by whatever request and whenever, are one, and so are the types, and there are not both.
So whatever their instances are and wherever they live, they accept and refuse the same seeds
and the same writes.  And nothing that is logged tells that a definition was replaced or
evicted. -/
theorem bindings_permanent (rejects : catalog.policy.registration = .reject)
    (requests : List Request) :
    (∀ earlier later, earlier <+: later → later <+: requests →
      (∀ name interface, (catalog.after earlier).interface name = .ok interface →
        (catalog.after later).interface name = .ok interface) ∧
      (∀ name type, (catalog.after earlier).type name = .ok type →
        (catalog.after later).type name = .ok type) ∧
      (∀ name ∈ (catalog.after earlier).interfaces.names,
        name ∈ (catalog.after later).interfaces.names) ∧
      (∀ name ∈ (catalog.after earlier).types.names,
        name ∈ (catalog.after later).types.names)) ∧
    (∀ one other, one <+: requests → other <+: requests → ∀ name,
      (∀ interface, (catalog.after one).interface name = .ok interface →
        (catalog.after other).type name = .error (.unknownType name)) ∧
      (∀ type, (catalog.after one).type name = .ok type →
        (catalog.after other).interface name = .error (.unknownInterface name))) ∧
    (∀ name handle, catalog.HandsOutInterface requests name handle →
      (∀ type, ¬ catalog.HandsOutType requests name type) ∧
      ∀ handle', catalog.HandsOutInterface requests name handle' → handle = handle' ∧
        (∀ (world world' : World) (seed seed' : RecordId),
          world.store.record seed = world'.store.record seed' →
            (world.constructWith handle seed).map World.recordOf =
              (world'.constructWith handle' seed').map World.recordOf) ∧
        ∀ (world world' : World) (inst inst' : Instance),
          inst.interface = handle → inst'.interface = handle' → ∀ field value,
            (world.setField inst field value).2 = (world'.setField inst' field value).2) ∧
    (∀ name handle, catalog.HandsOutType requests name handle →
      ∀ handle', catalog.HandsOutType requests name handle' → handle = handle' ∧
        (∀ (world world' : World) (initial : Value),
          (world.constructSlot handle initial).map (fun made => made.2.held) =
            (world'.constructSlot handle' initial).map fun made => made.2.held) ∧
        ∀ (world world' : World) (slot slot' : Slot),
          slot.type = handle → slot'.type = handle' → ∀ field value,
            (world.setSlot slot field value).2.map Slot.held =
              (world'.setSlot slot' field value).2.map Slot.held) ∧
    ∀ event ∈ catalog.logged requests, event.displaces = false := by
  have rejects' : ∀ earlier, (catalog.after earlier).policy.registration = .reject := fun _ => by
    rw [policy_after, rejects]
  refine ⟨?_, ?_, ?_, ?_, displaces_logged rejects requests⟩
  · rintro earlier later ⟨rest, rfl⟩ -
    rw [after_append]
    have interfaces : ∀ name interface, (catalog.after earlier).interface name = .ok interface →
        ((catalog.after earlier).after rest).interface name = .ok interface :=
      fun name interface found => interface_after_of_reject (rejects' earlier) found rest
    have types : ∀ name type, (catalog.after earlier).type name = .ok type →
        ((catalog.after earlier).after rest).type name = .ok type :=
      fun name type found => type_after_of_reject (rejects' earlier) found rest
    refine ⟨interfaces, types, fun name listed => ?_, fun name listed => ?_⟩
    · obtain ⟨interface, found⟩ := mem_interfaces_names.1 listed
      exact mem_interfaces_names.2 ⟨interface, interfaces name interface found⟩
    · obtain ⟨type, found⟩ := mem_types_names.1 listed
      exact mem_types_names.2 ⟨type, types name type found⟩
  · intro one other front front' name
    exact ⟨fun interface found => type_eq_error_of_interface rejects front front' found,
      fun type found => interface_eq_error_of_type rejects front front' found⟩
  · intro name handle given
    have found := given.interface_after rejects
    refine ⟨fun type wrong => ?_, fun handle' given' => ?_⟩
    · -- the name would give both in the end
      have whole := List.prefix_refl requests
      cases (wrong.type_after rejects).symm.trans
        (type_eq_error_of_interface rejects whole whole found)
    · have one : handle = handle' :=
        Except.ok.inj (found.symm.trans (given'.interface_after rejects))
      subst one
      refine ⟨rfl, fun world world' seed seed' same => ?_, ?_⟩
      · exact Interface.map_recordOf_constructWith_congr same
      · intro world world' inst inst' of of' field value
        rw [World.setField_outcome, World.setField_outcome, of, of']
  · intro name handle given handle' given'
    have one : handle = handle' :=
      Except.ok.inj ((given.type_after rejects).symm.trans (given'.type_after rejects))
    subst one
    refine ⟨rfl, fun world world' initial => ?_, ?_⟩
    · rw [SlotType.map_held_constructSlot, SlotType.map_held_constructSlot]
    · intro world world' slot slot' of of' field value
      rw [Slot.map_held_setSlot, Slot.map_held_setSlot, of, of']

/-- A definition, an attempt to extend it under its own name, and a document that is loaded in
part: the type and the interface that come before the failure stay. -/
theorem bindings_permanent_partly_loaded :
    let catalog := empty ⟨.validate, .reject⟩
    let earlier : List Request :=
      [.defineInterface "A" (.ofList [("x", some (.single .number))]) none,
        .defineInterface "A" (.ofList [("x", none)]) (some "A"),
        .load ⟨.ofList [("B", .single .string)],
          [⟨"C", some "A", .empty⟩, ⟨"B", none, .empty⟩, ⟨"D", none, .empty⟩]⟩]
    let requests := earlier ++ [.defineType "C" (.single .boolean), .interface "C", .type "B"]
    let interface : Interface := ⟨"C", .ofList [("x", some (.single .number))], .validate⟩
    catalog.policy.registration = .reject ∧
      (catalog.after earlier).interface "C" = .ok interface ∧
      (catalog.after requests).interface "C" = .ok interface ∧
      (catalog.after requests).type "C" = .error (.unknownType "C") ∧
      (catalog.after requests).interface "D" = .error (.unknownInterface "D") ∧
      catalog.HandsOutInterface requests "C" interface ∧
      (∀ other, catalog.HandsOutInterface requests "C" other → interface = other) ∧
      (∀ type, ¬ catalog.HandsOutType requests "C" type) ∧
      (catalog.logged requests).length = 3 ∧
      ∀ event ∈ catalog.logged requests, event.displaces = false := by
  intro catalog earlier requests interface
  obtain ⟨later, sorts, interfaces, -, logged⟩ :=
    bindings_permanent (show catalog.policy.registration = .reject from rfl) requests
  let middle := earlier ++ [.defineType "C" (.single .boolean)]
  have front : earlier <+: middle := List.prefix_append ..
  have split : middle ++ [.interface "C", .type "B"] = requests := List.append_assoc ..
  have rest : middle <+: requests := ⟨_, split⟩
  have whole := List.prefix_refl requests
  have found : (catalog.after earlier).interface "C" = .ok interface := by decide +kernel
  have asked := (later earlier middle front rest).1 "C" interface found
  have last := (later middle requests rest whole).1 "C" interface asked
  have given : catalog.HandsOutInterface requests "C" interface :=
    ⟨middle, .interface "C", [.type "B"], split.symm, .inl rfl,
      congrArg Response.interface asked⟩
  obtain ⟨no, one⟩ := interfaces "C" interface given
  exact ⟨rfl, found, last, (sorts middle requests rest whole "C").1 interface asked,
    by decide +kernel, given, fun other given' => (one other given').1, no, by decide +kernel,
    logged⟩

end Catalog

end Contracts
