import Contracts.Proofs.Event
import Contracts.Proofs.Session.Perform

/-!
# The lines of a log

Definitions can only be registered under identifiers, and whatever is made of a definition
keeps its name.  So the names in the events of a session are identifiers, and what may be
any text in one of its lines is just the field, the key or the spelling of a kind that an
action was given.  Nothing is done to it on its way into the line.  A line break in it
therefore breaks the line, and a space splits it where no token ends.

## Main definitions

* `Action.texts` — what an action may leave in a line as it is.
* `Event.Tells` — an event has identifiers for names, and otherwise such texts.
* `Session.IsNamed` — what is held, and can be named in an event, has an identifier for
  its name.
* `Session.Upholds` — what is done leaves a session so, and gives only such things.

## Main results

* `Session.tells_of_mem_actionLogs` — **one action** logs events with identifiers for names.
* `Session.upholds_perform`, `Session.isNamed_run` — and gives nothing that has another name.
* `Session.tells_of_mem_logged` — **steps in turn** do.
* `Session.isReadable_iff_isSolid` — **the main theorem**: what is logged, and which of its
  lines can be read.
* `Session.not_isReadable_forged` — a session with a line that cannot.
-/

namespace Contracts

/-! ### What events tell -/

/-- An event has identifiers for names, and otherwise texts that were given. -/
structure Event.Tells (texts : List String) (event : Event) : Prop where
  /-- Names are identifiers. -/
  named : event.IsNamed
  /-- What may be any text was given. -/
  given : event.freeText = "" ∨ event.freeText ∈ texts

theorem Event.Tells.mono {texts more : List String} {event : Event} (h : event.Tells texts)
    (among : texts ⊆ more) : event.Tells more :=
  ⟨h.named, h.given.imp_right fun member => among member⟩

/-- The spelling of the kind that a declaration gives to a type. -/
def Declaration.texts : Declaration → List String
  | .type _ kind => [kind.display]
  | .interface _ => []

/-- What an action may leave in a line as it is: the spelling of a kind, a field or a key. -/
def Action.texts : Action → List String
  | .defineType _ _ kind | .registerKind _ _ kind _ => [kind.display]
  | .load _ text =>
      match Document.parse text with
      | .ok document => document.declarations.flatMap Declaration.texts
      | .error _ => []
  | .getField _ key | .setField _ key | .getSlot _ key | .changeFrozen _ _ key => [key]
  | .setSlot _ key => [key.getD Slot.accessor]
  | _ => []

theorem Instance.tells_refusal (inst : Instance) (named : Text.IsIdentifier inst.interface.name)
    (field : String) (cause : Violation) : (inst.refusal field cause).Tells [field] :=
  ⟨named, .inr List.mem_cons_self⟩

theorem Slot.tells_refusal (slot : Slot) (named : Text.IsIdentifier slot.type.name)
    (field : String) (cause : Violation) : (slot.refusal field cause).Tells [field] :=
  ⟨named, .inr List.mem_cons_self⟩

namespace Registry

variable {policy : RegistrationPolicy} {name : String}

/-- An interface is registered under an identifier, and so was its base. -/
theorem tells_of_registerInterface {registry : Registry Shape} {fields : Shape}
    {base : Option String} {admitted : Admitted registry name}
    (made : registry.registerInterface policy name fields base = .ok admitted) :
    admitted.event.Tells [] := by
  obtain ⟨resolved, event⟩ := registerInterface_eq_ok made
  rw [event]
  refine ⟨⟨admitted.isIdentifier, ?_⟩, .inl rfl⟩
  rintro other rfl
  unfold resolve at resolved
  dsimp only at resolved
  split at resolved
  · next found => exact registry.named other (congrArg Option.isSome found)
  · cases resolved

/-- So is a type, and its kind is told. -/
theorem tells_of_registerType {registry : Registry Kind} {kind : Kind}
    {admitted : Admitted registry name}
    (made : registry.registerType policy name kind = .ok admitted) :
    admitted.event.Tells [kind.display] := by
  rw [(registerType_eq_ok made).2]
  exact ⟨admitted.isIdentifier, .inr List.mem_cons_self⟩

end Registry

namespace Catalog

variable {catalog : Catalog} {name : String}

/-- An interface is defined as it is registered, and may take its name from a type. -/
theorem tells_of_defineInterface {fields : Shape} {base : Option String}
    {defined : Defined Interface}
    (made : catalog.defineInterface name fields base = .ok defined) :
    ∀ event ∈ defined.events, event.Tells [] := by
  obtain ⟨admitted, registered, -, logged⟩ := exists_admitted_of_defineInterface made
  rw [logged, List.forall_mem_cons]
  refine ⟨Registry.tells_of_registerInterface registered, fun event member => ?_⟩
  split at member
  · cases List.mem_singleton.1 member
    exact ⟨admitted.isIdentifier, .inl rfl⟩
  · cases member

/-- And the other way round. -/
theorem tells_of_defineType {kind : Kind} {defined : Defined SlotType}
    (made : catalog.defineType name kind = .ok defined) :
    ∀ event ∈ defined.events, event.Tells [kind.display] := by
  obtain ⟨admitted, registered, -, logged⟩ := exists_admitted_of_defineType made
  rw [logged, List.forall_mem_cons]
  refine ⟨Registry.tells_of_registerType registered, fun event member => ?_⟩
  split at member
  · cases List.mem_singleton.1 member
    exact ⟨admitted.isIdentifier, .inl rfl⟩
  · cases member

theorem tells_of_declare {declaration : Declaration} {next : Catalog} {events : List Event}
    (made : catalog.declare declaration = .ok (next, events)) :
    ∀ event ∈ events, event.Tells declaration.texts := by
  cases declaration with
  | type name kind =>
    rw [declare] at made
    cases defined : catalog.defineType name kind with
    | error violation =>
      rw [defined] at made
      cases made
    | ok defined' =>
      rw [defined] at made
      cases made
      exact tells_of_defineType defined
  | interface declaration =>
    rw [declare] at made
    cases defined : catalog.defineInterface declaration.name declaration.fields
        declaration.base with
    | error violation =>
      rw [defined] at made
      cases made
    | ok defined' =>
      rw [defined] at made
      cases made
      exact tells_of_defineInterface defined

/-- Making declarations logs the definitions that are made. -/
theorem tells_of_mem_declareAll (catalog : Catalog) (declarations : List Declaration) :
    ∀ event ∈ (catalog.declareAll declarations).events,
      event.Tells (declarations.flatMap Declaration.texts) := by
  induction declarations generalizing catalog with
  | nil => exact fun _ member => nomatch member
  | cons declaration rest ih =>
    intro event member
    rw [declareAll] at member
    rw [List.flatMap_cons]
    split at member
    · cases member
    · next next events made =>
      rcases List.mem_append.1 member with now | later
      · exact (tells_of_declare made event now).mono (List.subset_append_left _ _)
      · exact (ih next event later).mono (List.subset_append_right _ _)

/-- Loading a document does, and counts them in the end. -/
theorem tells_of_mem_load (catalog : Catalog) (document : Document) :
    ∀ event ∈ (catalog.load document).events,
      event.Tells (document.declarations.flatMap Declaration.texts) := by
  have declared := tells_of_mem_declareAll catalog document.declarations
  unfold load
  dsimp only
  split
  · exact declared
  · intro event member
    rcases List.mem_append.1 member with earlier | last
    · exact declared event earlier
    · cases List.mem_singleton.1 last
      exact ⟨trivial, .inl rfl⟩

/-- What is looked up was registered under an identifier. -/
theorem isIdentifier_of_interface {interface : Interface}
    (found : catalog.interface name = .ok interface) : Text.IsIdentifier interface.name := by
  unfold Catalog.interface at found
  split at found
  · next registered =>
    cases found
    exact catalog.interfaces.named name (congrArg Option.isSome registered)
  · cases found

theorem isIdentifier_of_type {type : SlotType} (found : catalog.type name = .ok type) :
    Text.IsIdentifier type.name := by
  unfold Catalog.type at found
  split at found
  · next registered =>
    cases found
    exact catalog.types.named name (congrArg Option.isSome registered)
  · cases found

end Catalog

/-! ### Names of what is held -/

/-- A definition, or what was made of one, has an identifier for its name. -/
def Holding.IsNamed : Holding → Prop
  | .interface definition => Text.IsIdentifier definition.name
  | .type definition => Text.IsIdentifier definition.name
  | .inst made => Text.IsIdentifier made.interface.name
  | .slot made => Text.IsIdentifier made.type.name
  | _ => True

/-- What is plain has no name. -/
theorem Holding.IsPlain.isNamed {holding : Holding} (plain : holding.IsPlain) :
    holding.IsNamed := by
  cases plain <;> exact trivial

namespace Session

variable {session : Session} {performed : Performed} {name : String}

/-- So has all that is held. -/
def IsNamed (session : Session) : Prop :=
  ∀ name holding, session.holdings.get? name = some holding → holding.IsNamed

/-- What is done leaves a session so, and gives something that may be held. -/
structure Upholds (performed : Performed) : Prop where
  /-- What is held afterwards is named. -/
  session : performed.session.IsNamed
  /-- So is the result. -/
  result : ∀ answer result, performed.outcome = .ok (answer, some result) → result.IsNamed

namespace IsNamed

theorem hold (h : session.IsNamed) (name : String) (holding : Holding) (named : holding.IsNamed) :
    (session.hold name holding).IsNamed := by
  intro other found held
  rw [show (session.hold name holding).holdings = session.holdings.insert name holding from rfl,
    Dict.get?_insert] at held
  split at held
  · cases held
    exact named
  · exact h other found held

theorem withStore (h : session.IsNamed) (store : Store) : (session.withStore store).IsNamed := h

theorem interface? (h : session.IsNamed) {interface : Interface}
    (held : session.holdings.interface? name = some interface) :
    Text.IsIdentifier interface.name :=
  h name _ (Holdings.interface?_eq_some.1 held)

theorem type? (h : session.IsNamed) {type : SlotType}
    (held : session.holdings.type? name = some type) : Text.IsIdentifier type.name :=
  h name _ (Holdings.type?_eq_some.1 held)

theorem inst? (h : session.IsNamed) {inst : Instance}
    (held : session.holdings.inst? name = some inst) : Text.IsIdentifier inst.interface.name :=
  h name _ (Holdings.inst?_eq_some.1 held)

theorem slot? (h : session.IsNamed) {slot : Slot}
    (held : session.holdings.slot? name = some slot) : Text.IsIdentifier slot.type.name :=
  h name _ (Holdings.slot?_eq_some.1 held)

end IsNamed

/-! ### What is done upholds the names -/

section

variable (h : session.IsNamed) {action : Action} {operands : List Value}
include h

/-- A catalog only gives definitions that have identifiers for names, and a slot or an instance
has the name of its definition. -/
theorem isNamed_of_gift {holding : Holding} (gift : session.Gift operands holding) :
    holding.IsNamed := by
  cases gift with
  | operand | entry | undefined | item | content | view | application => trivial
  | slot held => exact h.type? held
  | shared held => exact h.interface? held
  | interfaceDefined made =>
    obtain ⟨handle, taken⟩ := Catalog.takesIn_of_defineInterface made
    show Text.IsIdentifier _
    rw [handle]
    exact taken.isIdentifier
  | typeDefined made =>
    obtain ⟨handle, taken⟩ := Catalog.takesIn_of_defineType made
    show Text.IsIdentifier _
    rw [handle]
    exact taken.isIdentifier
  | interfaceFound found => exact Catalog.isIdentifier_of_interface found
  | typeFound found => exact Catalog.isIdentifier_of_type found
  | plain plain => exact plain.isNamed

theorem isNamed_of_works {assigned : Option Assignment} {store : Store} {result : Option Holding}
    (works : session.Works action operands assigned store result) :
    ∀ holding, result = some holding → holding.IsNamed := by
  intro holding given
  cases works with
  | idle | push | write => cases given
  | give gift =>
    cases given
    exact isNamed_of_gift h gift
  | insert | remove =>
    obtain ⟨_, _, rfl⟩ := Option.map_eq_some_iff.1 given
    trivial
  | construct held | copy held =>
    cases given
    exact h.interface? held
  | _ =>
    cases given
    trivial

/-- A slot that is written keeps its type. -/
theorem isNamed_of_arranges {holdings : Holdings}
    (arranges : session.Arranges action operands holdings) {name : String} {holding : Holding}
    (held : holdings.get? name = some holding) : holding.IsNamed := by
  rcases arranges.of_get? held with same | plain | ⟨slot, value, stored, _, rfl⟩
  · exact h name holding same
  · exact plain.isNamed
  · show Text.IsIdentifier slot.type.name
    exact h.slot? stored

/-- **One action** upholds the names. -/
theorem upholds_perform : Upholds (session.perform action operands) where
  session _ _ := isNamed_of_arranges h (session.arranges_perform action operands)
  result answer result outcome :=
    isNamed_of_works h (session.works_perform action operands) result
      (by rw [Performed.result?, outcome])

end

/-- **One step** does. -/
theorem isNamed_run (h : session.IsNamed) (step : Step) : (session.run step).1.IsNamed := by
  cases evaluated : session.holdings.evaluateItems session.store step.operands with
  | none =>
    rw [run_of_none evaluated]
    exact h
  | some result =>
    obtain ⟨store, operands⟩ := result
    have stored : (session.withStore store).IsNamed := h
    have done := @upholds_perform _ stored step.action operands
    rw [(run_of_some evaluated).1]
    split
    · next answer result name outcome _ =>
      exact done.session.hold name result (done.result answer result outcome)
    · exact done.session

/-! ### What is logged -/

section Logs

variable {texts : List String} {event : Event}

theorem tells_of_mem_registered {α : Type} {outcome : Except Violation α}
    {events : α → List Event}
    (each : ∀ made, outcome = .ok made → ∀ event ∈ events made, event.Tells texts)
    (member : event ∈ registered outcome events) : event.Tells texts := by
  cases outcome with
  | ok made => exact each made rfl event member
  | error violation => cases member

theorem tells_of_mem_refused {α : Type} {outcome : Except Violation α}
    {refusal : Violation → Event} (each : ∀ violation, (refusal violation).Tells texts)
    (member : event ∈ refused outcome refusal) : event.Tells texts := by
  cases outcome with
  | ok made => cases member
  | error violation =>
    cases List.mem_singleton.1 member
    exact each violation

theorem tells_of_mem_elim {α : Type} {held : Option α} {events : α → List Event}
    (each : ∀ thing, held = some thing → event ∈ events thing → event.Tells texts)
    (member : event ∈ held.elim [] events) : event.Tells texts := by
  cases held with
  | none => cases member
  | some thing => exact each thing rfl member

theorem tells_of_mem_catalogLogs {catalog : Catalog} {action : Action}
    (member : event ∈ session.catalogLogs catalog action) : event.Tells action.texts := by
  unfold catalogLogs at member
  split at member
  · split at member
    · exact tells_of_mem_registered (fun _ => Catalog.tells_of_defineInterface) member
    · cases member
  · exact tells_of_mem_registered (fun _ => Catalog.tells_of_defineType) member
  · split at member
    · next parsed =>
      rw [Action.texts, parsed]
      exact Catalog.tells_of_mem_load catalog _ event member
    · cases member
  · cases member

theorem tells_of_mem_registryLogs {action : Action} (member : event ∈ session.registryLogs action) :
    event.Tells action.texts := by
  unfold registryLogs at member
  split at member
  · refine tells_of_mem_elim (fun registry _ member => ?_) member
    split at member
    · refine tells_of_mem_registered (fun admitted made event member => ?_) member
      cases List.mem_singleton.1 member
      exact Registry.tells_of_registerInterface made
    · cases member
  · refine tells_of_mem_elim (fun registry _ member => ?_) member
    refine tells_of_mem_registered (fun admitted made event member => ?_) member
    cases List.mem_singleton.1 member
    exact Registry.tells_of_registerType made
  · cases member

theorem tells_of_mem_instanceLogs {inst : Instance} {action : Action} {operands : List Value}
    (named : Text.IsIdentifier inst.interface.name)
    (member : event ∈ instanceLogs inst action operands) : event.Tells action.texts := by
  unfold instanceLogs at member
  split at member
  · next key =>
    split at member
    · cases member
    · cases List.mem_singleton.1 member
      exact inst.tells_refusal named key _
  · exact tells_of_mem_refused (inst.tells_refusal named _) member
  · cases member

theorem tells_of_mem_slotLogs {slot : Slot} {action : Action} {operands : List Value}
    (named : Text.IsIdentifier slot.type.name)
    (member : event ∈ slotLogs slot action operands) : event.Tells action.texts := by
  unfold slotLogs at member
  split at member
  · next key =>
    split at member
    · cases member
    · cases List.mem_singleton.1 member
      exact slot.tells_refusal named key _
  · exact tells_of_mem_refused (slot.tells_refusal named _) member
  · cases member

theorem tells_of_mem_frozenLogs {action : Action} (member : event ∈ frozenLogs action) :
    event.Tells action.texts := by
  unfold frozenLogs at member
  split at member
  · cases List.mem_singleton.1 member
    exact ⟨trivial, .inr List.mem_cons_self⟩
  · cases member

/-- **One action** logs events with identifiers for names, and otherwise texts that it was
given. -/
theorem tells_of_mem_actionLogs (h : session.IsNamed) {action : Action} {operands : List Value}
    (member : event ∈ session.actionLogs action operands) : event.Tells action.texts := by
  cases action with
  | defineInterface | defineType | lookUpInterface | lookUpType | lookUpDefinitions
  | listNames | load =>
    exact tells_of_mem_elim (fun _ _ member => tells_of_mem_catalogLogs member) member
  | registerShape | registerKind => exact tells_of_mem_registryLogs member
  | getField | setField | instanceInfo =>
    exact tells_of_mem_elim
      (fun _ held member => tells_of_mem_instanceLogs (h.inst? held) member) member
  | getSlot | setSlot | takeSlot =>
    exact tells_of_mem_elim
      (fun _ held member => tells_of_mem_slotLogs (h.slot? held) member) member
  | getFrozen | changeFrozen | frozenInfo =>
    exact tells_of_mem_elim (fun _ _ member => tells_of_mem_frozenLogs member) member
  | _ => cases member

/-- **Steps in turn** do. -/
theorem tells_of_mem_logged (h : session.IsNamed) {steps : List Step}
    (member : event ∈ session.logged steps) :
    event.Tells (steps.flatMap fun step => step.action.texts) := by
  induction steps generalizing session with
  | nil => cases member
  | cons step rest ih =>
    rw [List.flatMap_cons]
    rcases List.mem_append.1 member with now | later
    · refine Event.Tells.mono ?_ (List.subset_append_left _ _)
      refine tells_of_mem_elim (fun evaluated _ member => ?_) now
      exact tells_of_mem_actionLogs (h.withStore evaluated.1) member
    · exact (ih (isNamed_run h step) later).mono (List.subset_append_right _ _)

end Logs

/-! ### Lines of the log -/

/-- **The main theorem**: what a session has logged is what its steps were foretold to log.
The line of an event can be read if what may be any text in it, which one of the steps was
given, has no space and no line break. -/
theorem isReadable_iff_isSolid (series : Nat) (steps : List Step) :
    ((start series).runSteps steps).world.log.toList = (start series).logged steps ∧
      ∀ event ∈ (start series).logged steps,
        (event.IsReadable (InstanceId.text series) ↔ Text.IsSolid event.freeText) ∧
          (event.freeText = "" ∨ ∃ step ∈ steps, event.freeText ∈ step.action.texts) := by
  have empty : (start series).IsNamed := fun _ _ held => nomatch held
  refine ⟨(start series).log_runSteps steps, fun event member => ?_⟩
  have told := tells_of_mem_logged empty member
  refine ⟨Event.isReadable_iff told.named (InstanceId.isSolid_text series), ?_⟩
  rw [← List.mem_flatMap]
  exact told.given

/-- Not all lines can be read: a key may break its line, and begin another as an event
would. -/
theorem not_isReadable_forged :
    ¬ ∀ (series : Nat) (steps : List Step),
      ∀ event ∈ ((start series).runSteps steps).world.log.toList,
        event.IsReadable (InstanceId.text series) := by
  intro readable
  let steps : List Step :=
    [⟨.newRecord, [], some "o"⟩, ⟨.freeze, [.held "o"], some "f"⟩,
      ⟨.changeFrozen "f" .write "a\nevent=guard_reject", [.null], none⟩]
  have logged : ((start 0).runSteps steps).world.log.toList =
      [.changeRefused .write "a\nevent=guard_reject"] := rfl
  have broken := (readable 0 steps _ (logged ▸ List.mem_cons_self)).unbroken
  revert broken
  decide

end Session

end Contracts
