import Contracts.Proofs.Catalog.Definitions
import Contracts.Proofs.Session.Handles
import Contracts.Proofs.Session.Lasting

/-!
# What a slot holds

A slot type keeps the kind it was registered with, and a slot keeps the type it was made of.
What becomes of the catalog afterwards, and of the name of the type there, is nothing to them.
So a slot holds at any time the last value that was written to it and accepted, or else the one
that it was made with, and says the same to every write.

## Main definitions

* `Session.Obtains` — a step registers a slot type, or looks one up.
* `Session.acceptedSlotWrites` — what was written to a slot and accepted.
* `Step.Spares` — a step neither takes a slot nor holds something else in its place.
* `Session.Serves` — what a slot of a type says to reads and writes while it holds a value.

## Main results

* `Session.run_setSlot_eq` — all that a write of a slot does.
* `Session.slot?_run`, `Session.slot?_runSteps` — a slot holds what was accepted last.
* `Session.serves_of_slot?` — how a slot answers follows from what it holds.
* `Session.slot_eq_acceptedSlotWrites` — **a slot over its whole life.**
-/

namespace Contracts

/-- A type is registered with its kind. -/
theorem Catalog.handle_of_defineType {catalog : Catalog} {name : String} {kind : Kind}
    {defined : Catalog.Defined SlotType} (h : catalog.defineType name kind = .ok defined) :
    defined.handle = ⟨name, kind, catalog.policy.seeds⟩ := by
  obtain ⟨admitted, registered, same, -⟩ := exists_admitted_of_defineType h
  rw [← (Registry.registerType_eq_ok registered).1, same]
  exact (takesIn_of_defineType h).1

/-- A step neither takes the slot that is held under a name, nor holds something else there. -/
def Step.Spares (step : Step) (name : String) : Prop :=
  step.into ≠ some name ∧ step.action ≠ .takeSlot name

namespace Session

variable {session : Session} {step : Step} {name : String} {slot : Slot} {type : SlotType}
  {key : Option String} {store : Store} {operands : List Value} {value : Value}

/-! ### Slot types -/

/-- A step gives a slot type. -/
inductive Obtains (session : Session) (step : Step) : SlotType → Prop
  /-- It registers the type. -/
  | define {on typeName : String} {kind : Kind} {catalog : Catalog}
      {defined : Catalog.Defined SlotType} {store : Store} {operands : List Value}
      (action : step.action = .defineType on typeName kind)
      (held : session.holdings.catalog? on = some catalog)
      (made : catalog.defineType typeName kind = .ok defined)
      (evaluated : session.holdings.evaluateItems session.store step.operands =
        some (store, operands)) :
      Obtains session step ⟨typeName, kind, catalog.policy.seeds⟩
  /-- It looks up what is registered. -/
  | lookUp {on typeName : String} {kind : Kind} {catalog : Catalog} {store : Store}
      {operands : List Value} (action : step.action = .lookUpType on typeName)
      (held : session.holdings.catalog? on = some catalog)
      (registered : catalog.types.get? typeName = some kind)
      (evaluated : session.holdings.evaluateItems session.store step.operands =
        some (store, operands)) :
      Obtains session step ⟨typeName, kind, catalog.policy.seeds⟩

/-- It can be held, as it is. -/
theorem Obtains.held (obtains : session.Obtains step type) (into : step.into = some name) :
    (session.run step).1.holdings.get? name = some (.type type) := by
  cases obtains with
  | @define on typeName kind catalog defined store operands action held made evaluated =>
    have outcome : ((session.withStore store).perform step.action operands).outcome =
        .ok (.type defined.handle, some (.type defined.handle)) := by
      rw [action]
      show ((session.withStore store).withHeld (session.holdings.catalog? on) _).outcome = _
      rw [held]
      simp only [withHeld, performOnCatalog, made]
      rfl
    rw [(run_of_outcome evaluated outcome).2 name _ into rfl, Catalog.handle_of_defineType made]
  | @lookUp on typeName kind catalog store operands action held registered evaluated =>
    have outcome : ((session.withStore store).perform step.action operands).outcome =
        .ok (.type ⟨typeName, kind, catalog.policy.seeds⟩,
          some (.type ⟨typeName, kind, catalog.policy.seeds⟩)) := by
      rw [action]
      show ((session.withStore store).withHeld (session.holdings.catalog? on) _).outcome = _
      rw [held]
      simp only [withHeld, performOnCatalog, Catalog.type, registered]
      rfl
    exact (run_of_outcome evaluated outcome).2 name _ into rfl

/-! ### Writing -/

/-- An action on a slot is done on what is held. -/
theorem perform_setSlot (action : step.action = .setSlot name key)
    (held : session.holdings.slot? name = some slot) (store : Store) (operands : List Value) :
    (session.withStore store).perform step.action operands =
      (session.withStore store).performOnSlot name slot (.setSlot name key) operands := by
  rw [action]
  show (session.withStore store).withHeld (session.holdings.slot? name) _ = _
  rw [held]
  rfl

/-- **All that a write of a slot does**: the slot holds the value if that may be written, and
otherwise what it held before. -/
theorem run_setSlot_eq (action : step.action = .setSlot name key)
    (held : session.holdings.slot? name = some slot)
    (evaluated : session.holdings.evaluateItems session.store step.operands =
      some (store, [value])) :
    let after := (session.run step).1
    let reply := (session.run step).2
    (slot.type.permits key value = .ok () ∧ reply.outcome = .ok .done ∧
        reply.remains = some (.slot (store.unfold value)) ∧
        after.holdings.slot? name = some { slot with held := value }) ∨
      ∃ violation, slot.type.permits key value = .error violation ∧
        reply.outcome = .error (.violation violation) ∧
        reply.remains = some (.slot (store.unfold slot.held)) ∧
        after.holdings = session.holdings := by
  intro after reply
  obtain ⟨left, outcome⟩ := run_of_some evaluated
  have remains := remains_run evaluated
  rw [perform_setSlot action held, performOnSlot_setSlot] at left outcome remains
  cases permitted : slot.type.permits key value with
  | ok _ =>
    rw [permitted] at left outcome remains
    refine .inl ⟨rfl, outcome, remains, Holdings.slot?_eq_some.2 ?_⟩
    rw [show after.holdings = session.holdings.insert name (.slot { slot with held := value }) from
      congrArg Session.holdings left]
    exact Dict.get?_insert_self ..
  | error violation =>
    rw [permitted] at left outcome remains
    exact .inr ⟨violation, rfl, outcome, remains, (congrArg Session.holdings left).trans rfl⟩

/-! ### What was accepted -/

/-- What a step wrote to the slot that is held under a name, if it did and was not refused. -/
def acceptedSlotWrite (session : Session) (name : String) (step : Step) : Option Value :=
  match step.action, session.holdings.evaluateItems session.store step.operands,
      (session.run step).2.outcome with
  | .setSlot on _, some (_, [value]), .ok _ => if on = name then some value else none
  | _, _, _ => none

/-- What steps wrote to the slot, in order. -/
def acceptedSlotWrites (session : Session) (name : String) : List Step → List Value
  | [] => []
  | step :: rest =>
      (session.acceptedSlotWrite name step).toList ++
        (session.run step).1.acceptedSlotWrites name rest

/-- A step that writes to no slot of the name wrote nothing to it. -/
theorem acceptedSlotWrite_eq_none (other : ∀ key, step.action ≠ .setSlot name key) :
    session.acceptedSlotWrite name step = none := by
  unfold acceptedSlotWrite
  split
  · next on key _ _ _ action _ _ =>
    refine if_neg ?_
    rintro rfl
    exact other key action
  · rfl

/-- Neither did one that was refused. -/
theorem acceptedSlotWrite_of_error {refusal : Refusal}
    (outcome : (session.run step).2.outcome = .error refusal) :
    session.acceptedSlotWrite name step = none := by
  unfold acceptedSlotWrite
  split
  · next accepted => cases outcome.symm.trans accepted
  · rfl

theorem acceptedSlotWrite_of_ok {answer : Answer} (action : step.action = .setSlot name key)
    (evaluated : session.holdings.evaluateItems session.store step.operands =
      some (store, [value]))
    (outcome : (session.run step).2.outcome = .ok answer) :
    session.acceptedSlotWrite name step = some value := by
  unfold acceptedSlotWrite
  rw [action, evaluated, outcome]
  exact if_pos rfl

/-! ### A slot over steps -/

/-- A write leaves a slot with what was accepted, or as it was. -/
theorem slot?_run_setSlot (action : step.action = .setSlot name key)
    (held : session.holdings.slot? name = some slot) :
    (session.run step).1.holdings.slot? name =
        some { slot with held := (session.acceptedSlotWrite name step).getD slot.held } ∧
      ∀ value, session.acceptedSlotWrite name step = some value →
        slot.type.kind.accepts value = true := by
  -- what is refused is not accepted, and so nothing is to be shown of it
  have refused {refusal : Refusal} (outcome : (session.run step).2.outcome = .error refusal)
      (same : (session.run step).1.holdings = session.holdings) :
      (session.run step).1.holdings.slot? name =
          some { slot with held := (session.acceptedSlotWrite name step).getD slot.held } ∧
        ∀ value, session.acceptedSlotWrite name step = some value →
          slot.type.kind.accepts value = true := by
    rw [acceptedSlotWrite_of_error outcome, same]
    exact ⟨held, fun _ wrong => nomatch wrong⟩
  cases evaluated : session.holdings.evaluateItems session.store step.operands with
  | none =>
    have same := run_of_none evaluated
    exact refused (congrArg (·.2.outcome) same) (congrArg (·.1.holdings) same)
  | some result =>
    obtain ⟨store, operands⟩ := result
    have performed := perform_setSlot action held store operands
    obtain ⟨after, outcome⟩ := run_of_some evaluated
    match operands, evaluated with
    | [value], evaluated =>
      rcases run_setSlot_eq action held evaluated with
        ⟨permitted, answered, -, holds⟩ | ⟨violation, -, answered, -, holds⟩
      · rw [acceptedSlotWrite_of_ok action evaluated answered]
        refine ⟨holds, fun written same => ?_⟩
        cases same
        exact SlotType.accepts_of_permits permitted
      · exact refused answered holds
    | [], _ | _ :: _ :: _, _ =>
      rw [performed] at after outcome
      exact refused outcome ((congrArg Session.holdings after).trans rfl)

/-- Reading a slot changes nothing that is held. -/
theorem holdings_getSlot (session : Session) (name : String) (slot : Slot) (field : String)
    (operands : List Value) :
    (session.performOnSlot name slot (.getSlot name field) operands).session.holdings =
      session.holdings := by
  cases operands with
  | nil =>
    dsimp only [performOnSlot, World.getSlot]
    split <;> rfl
  | cons => rfl

/-- **One step**: a slot that is spared holds what was written to it, if that was accepted, and
otherwise what it held before. -/
theorem slot?_run (held : session.holdings.slot? name = some slot) (spares : step.Spares name) :
    (session.run step).1.holdings.slot? name =
        some { slot with held := (session.acceptedSlotWrite name step).getD slot.held } ∧
      ∀ value, session.acceptedSlotWrite name step = some value →
        slot.type.kind.accepts value = true := by
  obtain ⟨unnamed, untaken⟩ := spares
  by_cases writes : ∃ key, step.action = .setSlot name key
  · obtain ⟨key, action⟩ := writes
    exact slot?_run_setSlot action held
  · have none : session.acceptedSlotWrite name step = none :=
      acceptedSlotWrite_eq_none fun key action => writes ⟨key, action⟩
    rw [none]
    refine ⟨Holdings.slot?_eq_some.2 ?_, fun _ wrong => nomatch wrong⟩
    have held' := Holdings.slot?_eq_some.1 held
    by_cases reads : ∃ field, step.action = .getSlot name field
    · obtain ⟨field, action⟩ := reads
      cases evaluated : session.holdings.evaluateItems session.store step.operands with
      | none =>
        rw [run_of_none evaluated]
        exact held'
      | some result =>
        rw [get?_run_of_some evaluated unnamed, action]
        show ((session.withStore result.1).withHeld (session.holdings.slot? name)
          _).session.holdings.get? name = _
        rw [held]
        have same := holdings_getSlot (session.withStore result.1) name slot field result.2
        exact (congrArg (·.get? name) same).trans held'
    · rw [get?_run_of_not_isOn unnamed, held']
      · rfl
      · intro found held'' isOn
        cases held'.symm.trans held''
        -- of the actions on slots only these three are done on this one
        cases action : step.action with
        | getSlot on field =>
          rw [action] at isOn
          cases isOn
          exact reads ⟨field, action⟩
        | setSlot on key =>
          rw [action] at isOn
          cases isOn
          exact writes ⟨key, action⟩
        | takeSlot on =>
          rw [action] at isOn
          cases isOn
          exact untaken action
        | _ =>
          rw [action] at isOn
          exact isOn

/-- **Runs**: a slot that is spared holds what was accepted last, which was of its kind, or
else what it held before. -/
theorem slot?_runSteps (held : session.holdings.slot? name = some slot) {steps : List Step}
    (spares : ∀ step ∈ steps, step.Spares name) :
    (session.runSteps steps).holdings.slot? name =
        some { slot with
          held := (session.acceptedSlotWrites name steps).getLast?.getD slot.held } ∧
      ∀ value ∈ session.acceptedSlotWrites name steps, slot.type.kind.accepts value = true := by
  induction steps generalizing session slot with
  | nil => exact ⟨held, fun _ member => nomatch member⟩
  | cons step rest ih =>
    rw [List.forall_mem_cons] at spares
    obtain ⟨now, accepted⟩ := slot?_run held spares.1
    obtain ⟨later, accepted'⟩ := ih now spares.2
    refine ⟨later.trans ?_, fun value member => ?_⟩
    · rw [acceptedSlotWrites, List.getLast?_append]
      cases ((session.run step).1.acceptedSlotWrites name rest).getLast? with
      | some value => rfl
      | none => cases session.acceptedSlotWrite name step <;> rfl
    · rcases List.mem_append.1 member with first | others
      · exact accepted value (Option.mem_toList.1 first)
      · exact accepted' value others

/-! ### What a slot says -/

/-- What a slot of a type says to reads and writes while it holds a value. -/
structure Serves (session : Session) (name : String) (type : SlotType) (current : Value) :
    Prop where
  /-- It is read under its own name, and under no other. -/
  reads : ∀ step field store, step.action = .getSlot name field →
    session.holdings.evaluateItems session.store step.operands = some (store, []) →
    if field = "value" then
      (session.run step).2.outcome = .ok (.value (store.unfold current)) ∧
        ∀ into, step.into = some into →
          (session.run step).1.holdings.get? into = some (.value current)
    else (session.run step).2.outcome = .error (.violation (.wrongAccessor type.name field))
  /-- It is not written under another name, be the value of the kind or not. -/
  wrongAccessor : ∀ step field store value, step.action = .setSlot name (some field) →
    session.holdings.evaluateItems session.store step.operands = some (store, [value]) →
    ((session.run step).2.outcome = .error (.violation (.wrongAccessor type.name field)) ↔
      field ≠ "value")
  /-- Under its own name or without one, a value is written if it is of the kind, and only
  then. -/
  writes : ∀ step key store value, step.action = .setSlot name key →
    (key = none ∨ key = some "value") →
    session.holdings.evaluateItems session.store step.operands = some (store, [value]) →
    ((session.run step).2.outcome =
        .error (.violation (.wrongKind none type.kind value.category)) ↔
      type.kind.accepts value = false) ∧
    ((session.run step).2.outcome = .ok .done ↔ type.kind.accepts value = true)
  /-- A write under its own name and one without a name are the same. -/
  same : ∀ operands into,
    session.run ⟨.setSlot name (some "value"), operands, into⟩ =
      session.run ⟨.setSlot name none, operands, into⟩
  /-- After a write it shows what it holds then. -/
  shows : ∀ step key store value, step.action = .setSlot name key →
    session.holdings.evaluateItems session.store step.operands = some (store, [value]) →
    (session.run step).2.remains =
      some (.slot (store.unfold ((session.acceptedSlotWrite name step).getD current)))
  /-- Whoever takes it has what it holds. -/
  takes : ∀ step store, step.action = .takeSlot name →
    session.holdings.evaluateItems session.store step.operands = some (store, []) →
    (session.run step).2.outcome = .ok (.value (store.unfold current)) ∧
      ∀ into, step.into = some into →
        (session.run step).1.holdings.get? into = some (.value current)

/-- A read is of what the slot holds, under the right name. -/
theorem run_getSlot {field : String} (action : step.action = .getSlot name field)
    (held : session.holdings.slot? name = some slot)
    (evaluated : session.holdings.evaluateItems session.store step.operands = some (store, [])) :
    if field = "value" then
      (session.run step).2.outcome = .ok (.value (store.unfold slot.held)) ∧
        ∀ into, step.into = some into →
          (session.run step).1.holdings.get? into = some (.value slot.held)
    else
      (session.run step).2.outcome =
        .error (.violation (.wrongAccessor slot.type.name field)) := by
  have performed : (session.withStore store).perform step.action [] =
      (session.withStore store).performOnSlot name slot (.getSlot name field) [] := by
    rw [action]
    show (session.withStore store).withHeld (session.holdings.slot? name) _ = _
    rw [held]
    rfl
  dsimp only [performOnSlot] at performed
  split
  · next named =>
    have found : (session.withStore store).world.getSlot slot field = (_, .ok slot.held) :=
      if_pos named
    rw [found] at performed
    have outcome : ((session.withStore store).perform step.action []).outcome =
        .ok (.value (store.unfold slot.held), some (.value slot.held)) := by
      rw [performed]
      rfl
    obtain ⟨answered, result⟩ := run_of_outcome evaluated outcome
    exact ⟨answered, fun into named => result into _ named rfl⟩
  · next other =>
    have refused : (session.withStore store).world.getSlot slot field =
      (_, .error (.wrongAccessor slot.type.name field)) := if_neg other
    rw [refused] at performed
    rw [(run_of_some evaluated).2, performed]
    rfl

/-- Writing under the name of the slot and writing without a name are one. -/
theorem performOnSlot_accessor (session : Session) (name : String) (slot : Slot)
    (operands : List Value) :
    session.performOnSlot name slot (.setSlot name (some "value")) operands =
      session.performOnSlot name slot (.setSlot name none) operands := by
  match operands with
  | [value] =>
    have same : session.world.setSlot slot "value" value = session.world.setSlotValue slot value :=
      if_pos rfl
    dsimp only [performOnSlot]
    rw [same]
  | [] | _ :: _ :: _ => rfl

/-- A write is answered as it is judged. -/
theorem outcome_setSlot (action : step.action = .setSlot name key)
    (held : session.holdings.slot? name = some slot)
    (evaluated : session.holdings.evaluateItems session.store step.operands =
      some (store, [value])) :
    (session.run step).2.outcome =
      match slot.type.permits key value with
      | .ok _ => .ok .done
      | .error violation => .error (.violation violation) := by
  rcases run_setSlot_eq action held evaluated with
    ⟨permitted, outcome, -⟩ | ⟨violation, refused, outcome, -⟩
  · rw [permitted, outcome]
  · rw [refused, outcome]

/-- **How a slot answers** follows from its type and what it holds. -/
theorem serves_of_slot? (held : session.holdings.slot? name = some slot) :
    session.Serves name slot.type slot.held where
  reads step field store action evaluated := run_getSlot action held evaluated
  wrongAccessor step field store value action evaluated := by
    rw [outcome_setSlot action held evaluated]
    by_cases named : field = Slot.accessor
    · rw [SlotType.permits_of_named (.inr (congrArg some named))]
      refine ⟨fun wrong => ?_, fun other => absurd named other⟩
      -- it may be refused for its kind, which is another reason
      cases accepted : slot.type.kind.accepts value with
      | true =>
        rw [SlotType.check_eq_ok.2 accepted] at wrong
        cases wrong
      | false =>
        rw [SlotType.check_of_not_accepts accepted] at wrong
        cases wrong
    · rw [SlotType.permits_of_ne named]
      exact ⟨fun _ => named, fun _ => rfl⟩
  writes step key store value action named evaluated := by
    rw [outcome_setSlot action held evaluated, SlotType.permits_of_named named]
    cases accepted : slot.type.kind.accepts value with
    | true =>
      rw [SlotType.check_eq_ok.2 accepted]
      exact ⟨⟨fun wrong => (nomatch wrong), fun wrong => (nomatch wrong)⟩, fun _ => rfl,
        fun _ => rfl⟩
    | false =>
      rw [SlotType.check_of_not_accepts accepted]
      exact ⟨⟨fun _ => rfl, fun _ => rfl⟩, fun wrong => (nomatch wrong),
        fun wrong => (nomatch wrong)⟩
  same operands into := by
    have performed (session : Session) (values : List Value) :
        session.perform (.setSlot name (some "value")) values =
          session.perform (.setSlot name none) values := by
      show session.withHeld _ _ = session.withHeld _ _
      simp only [performOnSlot_accessor]
    simp only [run, performed]
  shows step key store value action evaluated := by
    rcases run_setSlot_eq action held evaluated with
      ⟨_, outcome, remains, -⟩ | ⟨_, _, outcome, remains, -⟩
    · rw [acceptedSlotWrite_of_ok action evaluated outcome]
      exact remains
    · rw [acceptedSlotWrite_of_error outcome]
      exact remains
  takes step store action evaluated := by
    have outcome : ((session.withStore store).perform step.action []).outcome =
        .ok (.value (store.unfold slot.held), some (.value slot.held)) := by
      rw [action]
      show ((session.withStore store).withHeld (session.holdings.slot? name) _).outcome = _
      rw [held]
      rfl
    obtain ⟨answered, result⟩ := run_of_outcome evaluated outcome
    exact ⟨answered, fun into named => result into _ named rfl⟩

/-! ### From registration on -/

/-- What comes of making a slot: it holds its first value, unless that is checked and refused. -/
theorem run_newSlot {typeName : String} {initial : Value} (action : step.action = .newSlot typeName)
    (held : session.holdings.get? typeName = some (.type type))
    (evaluated : session.holdings.evaluateItems session.store step.operands =
      some (store, [initial])) :
    (type.seeds = .validate ∧ type.kind.accepts initial = false ∧
        (session.run step).2.outcome =
          .error (.violation (.wrongKind none type.kind initial.category))) ∨
      (type.seeds = .validate → type.kind.accepts initial = true) ∧
        (session.run step).2.outcome = .ok (.slot type (store.unfold initial)) ∧
        ∃ id, ∀ name, step.into = some name →
          (session.run step).1.holdings.slot? name = some ⟨id, type, initial⟩ := by
  have found : (session.withStore store).holdings.type? typeName = some type :=
    Holdings.type?_eq_some.2 held
  rcases (session.withStore store).world.constructSlot_eq type initial with
    ⟨checks, refused, made⟩ | ⟨accepted, next, id, made, stored, -⟩
  · refine .inl ⟨checks, refused, ?_⟩
    rw [(run_of_some evaluated).2, action, perform, found, withHeld]
    dsimp only
    rw [made]
    rfl
  · have tree : ((session.withStore store).withWorld next).tree initial = store.unfold initial :=
      congrArg (Store.unfold · initial) stored
    have outcome : ((session.withStore store).perform step.action [initial]).outcome =
        .ok (.slot type (store.unfold initial), some (.slot ⟨id, type, initial⟩)) := by
      rw [action, perform, found, withHeld, ← tree]
      dsimp only
      rw [made]
      rfl
    obtain ⟨answered, result⟩ := run_of_outcome evaluated outcome
    exact .inr ⟨accepted, answered, id, fun name into =>
      Holdings.slot?_eq_some.2 (result name _ into rfl)⟩

/-- **The main theorem**: whatever is done with the catalog after a type was registered or looked
up, a slot of the type is made unless its first value is checked and is not of the kind.  From
then on, whatever else is done, it holds the last value that was written to it and accepted, or
else the first one, and answers as a slot does that holds it.  So what it holds is of the kind
if first values are checked, and in any case once a write was accepted. -/
theorem slot_eq_acceptedSlotWrites {registration construct : Step} {typeName : String}
    {initial : Value} {between : List Step} (obtains : session.Obtains registration type)
    (named : registration.into = some typeName)
    (unnamed : ∀ step ∈ between, step.into ≠ some typeName)
    (action : construct.action = .newSlot typeName) (into : construct.into = some name)
    (evaluated : ((session.run registration).1.runSteps between).holdings.evaluateItems
        ((session.run registration).1.runSteps between).store construct.operands =
      some (store, [initial])) :
    let before := (session.run registration).1.runSteps between
    let made := (before.run construct).1
    let outcome := (before.run construct).2.outcome
    (outcome = .error (.violation (.wrongKind none type.kind initial.category)) ↔
        type.seeds = .validate ∧ type.kind.accepts initial = false) ∧
      (¬ (type.seeds = .validate ∧ type.kind.accepts initial = false) →
        outcome = .ok (.slot type (store.unfold initial)) ∧
        ∃ id, ∀ later, (∀ step ∈ later, step.Spares name) →
          let session := made.runSteps later
          let accepted := made.acceptedSlotWrites name later
          let current := accepted.getLast?.getD initial
          session.holdings.slot? name = some ⟨id, type, current⟩ ∧
            session.Serves name type current ∧
            (type.seeds = .validate ∨ accepted ≠ [] → type.kind.accepts current = true)) := by
  intro before made outcome
  have held : before.holdings.get? typeName = some (.type type) :=
    get?_runSteps (obtains.held named) trivial unnamed
  rcases run_newSlot action held evaluated with
    ⟨checks, refused, answered⟩ | ⟨checked, answered, id, holds⟩
  · exact ⟨⟨fun _ => ⟨checks, refused⟩, fun _ => answered⟩,
      fun fine => absurd ⟨checks, refused⟩ fine⟩
  · have fine : ¬ (type.seeds = .validate ∧ type.kind.accepts initial = false) := by
      rintro ⟨checks, refused⟩
      cases refused.symm.trans (checked checks)
    refine ⟨⟨fun wrong => ?_, fun wrong => absurd wrong fine⟩, fun _ => ⟨answered, id, ?_⟩⟩
    · cases answered.symm.trans wrong
    intro later spares session accepted current
    obtain ⟨now, ofKind⟩ := slot?_runSteps (holds name into) spares
    refine ⟨now, serves_of_slot? now, fun safe => ?_⟩
    show type.kind.accepts (accepted.getLast?.getD initial) = true
    cases last : accepted.getLast? with
    | some value => exact ofKind value (List.mem_of_getLast? last)
    | none =>
      rw [List.getLast?_eq_none_iff] at last
      exact checked (safe.resolve_right fun some => some last)

/-- A slot of a type whose name is registered anew, for another kind and then for an interface:
it still takes what its type took, and nothing else. -/
theorem slot_eq_acceptedSlotWrites_reregistered :
    let kind : Kind := .anyOf [.string, .boolean]
    let type : SlotType := ⟨"T", kind, .validate⟩
    let session := (start 0).runSteps [⟨.newCatalog {}, [], some "k"⟩]
    let registration : Step := ⟨.defineType "k" "T" kind, [], some "T"⟩
    let between : List Step := [⟨.defineType "k" "T" (.single .number), [], none⟩]
    let construct : Step := ⟨.newSlot "T", [.string "x"], some "t"⟩
    let later : List Step :=
      [⟨.setSlot "t" none, [.boolean true], none⟩,
        ⟨.defineInterface "k" "T" (.declared []) none, [], none⟩,
        ⟨.setSlot "t" (some "value"), [.null], none⟩,
        ⟨.setSlot "t" (some "other"), [.string "y"], none⟩]
    let made := (((session.run registration).1.runSteps between).run construct).1
    session.Obtains registration type ∧
      (∀ step ∈ later, step.Spares "t") ∧
      ∃ id value, value.category = .boolean ∧
        made.acceptedSlotWrites "t" later = [value] ∧
        (made.runSteps later).holdings.slot? "t" = some ⟨id, type, value⟩ ∧
        ((made.runSteps later).run ⟨.getSlot "t" "value", [], none⟩).2.outcome =
          .ok (.value ((made.runSteps later).tree value)) := by
  intro kind type session registration between construct later
  dsimp only
  have obtains : session.Obtains registration type :=
    @Obtains.define session registration "k" "T" kind (.empty {}) _ _ _ rfl rfl rfl rfl
  have spares : ∀ step ∈ later, step.Spares "t" := by
    intro step member
    simp only [later, List.mem_cons, List.not_mem_nil, or_false] at member
    rcases member with rfl | rfl | rfl | rfl <;> exact ⟨nofun, nofun⟩
  have unnamed : ∀ step ∈ between, step.into ≠ some "T" := by
    intro step member
    cases List.mem_singleton.1 member
    exact nofun
  have once : ((((session.run registration).1.runSteps between).run
      construct).1.acceptedSlotWrites "t" later).map Value.category = [.boolean] := by
    decide +kernel
  obtain ⟨value, accepted, sort⟩ := List.map_eq_singleton_iff.1 once
  obtain ⟨-, made⟩ := slot_eq_acceptedSlotWrites obtains rfl unnamed
    (show construct.action = .newSlot "T" from rfl) (show construct.into = some "t" from rfl)
    (show _ = some (_, [.string "x"]) from rfl)
  obtain ⟨-, id, holds⟩ := made (by decide)
  obtain ⟨held, serves, -⟩ := holds later spares
  rw [accepted] at held serves
  have read := serves.reads ⟨.getSlot "t" "value", [], none⟩ "value" _ rfl rfl
  rw [if_pos rfl] at read
  exact ⟨obtains, spares, id, value, sort, accepted, held, read.1⟩

end Session

end Contracts
