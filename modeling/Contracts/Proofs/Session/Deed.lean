import Contracts.Proofs.Heap.Changes
import Contracts.Proofs.Instance
import Contracts.Session

/-!
# What an action comes to

There are many actions, but few things that one of them does.  It may change the store in one
way, hold something else under a name that it is done on, log events that can be told
beforehand, and give a result.  A **deed** is all of this.  It does not depend on the log, and
an action that is refused has changed nothing else.

## Main definitions

* `Session.Gift` — what can be given as a result while the store stays as it is.
* `Session.Works` — what an action does to the store, and what it gives.
* `Session.Arranges` — what it does with what is held.
* `Session.actionAssigns`, `Session.actionLogs` — what it assigns to records, and what it logs.
* `Session.contents` — all of a session but the log, and what was listed of it.
* `Session.Parallel` — an action did the same in two sessions, and nothing if refused.
* `Session.Deed` — **all that an action comes to.**

## Main results

* `Session.Arranges.of_get?`, `Session.Arranges.get?_of_not_isOn` — what is held afterwards.
* `Session.Deed.accept`, `Session.Deed.refuse`, `Session.Deed.reject` — the three ways in which
  an action ends.
-/

namespace Contracts

/-! ### What is held, by its sort -/

namespace Holdings

variable {holdings : Holdings} {name : String}

theorem value?_eq_some {value : Value} :
    holdings.value? name = some value ↔ holdings.get? name = some (.value value) := by
  unfold value?
  split <;> simp_all

theorem shape?_eq_some {shape : Shape} :
    holdings.shape? name = some shape ↔ holdings.get? name = some (.shape shape) := by
  unfold shape?
  split <;> simp_all

theorem catalog?_eq_some {catalog : Catalog} :
    holdings.catalog? name = some catalog ↔ holdings.get? name = some (.catalog catalog) := by
  unfold catalog?
  split <;> simp_all

theorem shapes?_eq_some {registry : Registry Shape} :
    holdings.shapes? name = some registry ↔ holdings.get? name = some (.shapes registry) := by
  unfold shapes?
  split <;> simp_all

theorem kinds?_eq_some {registry : Registry Kind} :
    holdings.kinds? name = some registry ↔ holdings.get? name = some (.kinds registry) := by
  unfold kinds?
  split <;> simp_all

theorem interface?_eq_some {interface : Interface} :
    holdings.interface? name = some interface ↔
      holdings.get? name = some (.interface interface) := by
  unfold interface?
  split <;> simp_all

theorem type?_eq_some {type : SlotType} :
    holdings.type? name = some type ↔ holdings.get? name = some (.type type) := by
  unfold type?
  split <;> simp_all

theorem inst?_eq_some {inst : Instance} :
    holdings.inst? name = some inst ↔ holdings.get? name = some (.inst inst) := by
  unfold inst?
  split <;> simp_all

theorem slot?_eq_some {slot : Slot} :
    holdings.slot? name = some slot ↔ holdings.get? name = some (.slot slot) := by
  unfold slot?
  split <;> simp_all

theorem frozen?_eq_some {view : FrozenView} :
    holdings.frozen? name = some view ↔ holdings.get? name = some (.frozen view) := by
  unfold frozen?
  split <;> simp_all

theorem application?_eq_some {application : Application} :
    holdings.application? name = some application ↔
      holdings.get? name = some (.application application) := by
  unfold application?
  split <;> simp_all

end Holdings

/-- Whether an action is done on something that is held under a name, and that may be changed
there. -/
def Action.IsOn (name : String) : Action → Holding → Prop
  | .declareField on _ _, .shape _ => on = name
  | .defineInterface on _ _ _, .catalog _ => on = name
  | .defineType on _ _, .catalog _ => on = name
  | .lookUpInterface on _, .catalog _ => on = name
  | .lookUpType on _, .catalog _ => on = name
  | .lookUpDefinitions on _, .catalog _ => on = name
  | .listNames on, .catalog _ => on = name
  | .load on _, .catalog _ => on = name
  | .registerShape on _ _ _ _, .shapes _ => on = name
  | .registerKind on _ _ _, .kinds _ => on = name
  | .getSlot on _, .slot _ => on = name
  | .setSlot on _, .slot _ => on = name
  | .takeSlot on, .slot _ => on = name
  | _, _ => False

/-- Something that is held has no value in it, and no name of its own. -/
inductive Holding.IsPlain : Holding → Prop
  /-- A shape. -/
  | shape (shape : Shape) : IsPlain (.shape shape)
  /-- A catalog. -/
  | catalog (catalog : Catalog) : IsPlain (.catalog catalog)
  /-- A registry of shapes. -/
  | shapes (registry : Registry Shape) : IsPlain (.shapes registry)
  /-- A registry of kinds. -/
  | kinds (registry : Registry Kind) : IsPlain (.kinds registry)

/-- Whether an action loads a document. -/
def Action.isLoad : Action → Bool
  | .load .. => true
  | _ => false

/-- Whether an action tells what was logged. -/
def Action.readsLog : Action → Bool
  | .listEvents => true
  | _ => false

/-- The result of an action, if there is one. -/
def Performed.result? (performed : Performed) : Option Holding :=
  match performed.outcome with
  | .ok (_, result) => result
  | .error _ => none

namespace Session

/-! ### Results and stores -/

/-- What can be given as a result while the store stays as it is. -/
inductive Gift (session : Session) (operands : List Value) : Holding → Prop
  /-- An operand. -/
  | operand {value : Value} : value ∈ operands → Gift session operands (.value value)
  /-- An entry of a record. -/
  | entry {id : RecordId} {key : String} {value : Value} :
      (session.store.record id).get? key = some value → Gift session operands (.value value)
  /-- What is read where there is no entry. -/
  | undefined : Gift session operands (.value .undefined)
  /-- An item of an array. -/
  | item {id : ArrayId} {value : Value} :
      value ∈ session.store.array id → Gift session operands (.value value)
  /-- What a slot holds. -/
  | content {on : String} {slot : Slot} :
      session.holdings.slot? on = some slot → Gift session operands (.value slot.held)
  /-- A view of a record that is an operand. -/
  | view {id : RecordId} : .record id ∈ operands → Gift session operands (.frozen ⟨id⟩)
  /-- An application of a function that is an operand. -/
  | application {f : Callable} :
      .function f ∈ operands → Gift session operands (.application (.of f))
  /-- A slot for an operand. -/
  | slot {on : String} {slot : Slot} :
      session.holdings.type? on = some slot.type → slot.held ∈ operands →
      Gift session operands (.slot slot)
  /-- An instance that shares a record, which is an operand. -/
  | shared {on : String} {inst : Instance} :
      session.holdings.interface? on = some inst.interface → .record inst.record ∈ operands →
      Gift session operands (.inst inst)
  /-- An interface that was just defined. -/
  | interfaceDefined {catalog : Catalog} {name : String} {fields : Shape} {base : Option String}
      {defined : Catalog.Defined Interface} :
      catalog.defineInterface name fields base = .ok defined →
      Gift session operands (.interface defined.handle)
  /-- A type that was just defined. -/
  | typeDefined {catalog : Catalog} {name : String} {kind : Kind}
      {defined : Catalog.Defined SlotType} :
      catalog.defineType name kind = .ok defined → Gift session operands (.type defined.handle)
  /-- An interface that was looked up. -/
  | interfaceFound {catalog : Catalog} {name : String} {interface : Interface} :
      catalog.interface name = .ok interface → Gift session operands (.interface interface)
  /-- A type that was looked up. -/
  | typeFound {catalog : Catalog} {name : String} {type : SlotType} :
      catalog.type name = .ok type → Gift session operands (.type type)
  /-- What has no value in it, and no name. -/
  | plain {holding : Holding} : holding.IsPlain → Gift session operands holding

/-- What an action with its operands does to the store: the entry of a record that it assigns,
the store afterwards, and the result. -/
inductive Works (session : Session) :
    Action → List Value → Option Assignment → Store → Option Holding → Prop
  /-- Nothing. -/
  | idle {action : Action} {operands : List Value} :
      Works session action operands none session.store none
  /-- Nothing, but it gives something. -/
  | give {action : Action} {operands : List Value} {holding : Holding} :
      session.Gift operands holding →
      Works session action operands none session.store (some holding)
  /-- It makes a record. -/
  | newRecord : Works session .newRecord [] none (session.store.newRecord .empty).1
      (some (.value (.record (session.store.newRecord .empty).2)))
  /-- It makes an array. -/
  | newArray : Works session .newArray [] none (session.store.newArray #[]).1
      (some (.value (.array (session.store.newArray #[]).2)))
  /-- It writes an entry, and gives what was there. -/
  | insert (id : RecordId) (key : String) (value : Value) :
      Works session (.insertEntry key) [.record id, value] (some ⟨id, key, some value⟩)
        (session.store.insert id key value) (((session.store.record id).get? key).map .value)
  /-- It removes an entry, and gives what was there. -/
  | remove (id : RecordId) (key : String) :
      Works session (.removeEntry key) [.record id] (some ⟨id, key, none⟩)
        (session.store.remove id key) (((session.store.record id).get? key).map .value)
  /-- It adds an item to an array. -/
  | push (id : ArrayId) (value : Value) :
      Works session .pushItem [.array id, value] none (session.store.push id value) none
  /-- It calls a function. -/
  | call (f : Callable) (arguments : List Value) :
      Works session .call (.function f :: arguments)
        (session.store.assigned Routine.forecast f arguments)
        (session.store.call Routine.bodies f arguments).1
        (some (.value (session.store.call Routine.bodies f arguments).2))
  /-- It makes an instance without entries. -/
  | construct {on name : String} {inst : Instance} :
      session.holdings.interface? on = some inst.interface →
      inst.record = (session.store.newRecord .empty).2 →
      Works session (.construct name) [] none (session.store.newRecord .empty).1 (some (.inst inst))
  /-- It makes an instance with the entries of a record. -/
  | copy {on name : String} {seed : RecordId} {inst : Instance} :
      session.holdings.interface? on = some inst.interface →
      inst.record = (session.store.newRecord (session.store.record seed)).2 →
      Works session (.constructWith name) [.record seed] none
        (session.store.newRecord (session.store.record seed)).1 (some (.inst inst))
  /-- It writes a field. -/
  | write {on key : String} {inst : Instance} {value : Value} :
      session.holdings.inst? on = some inst →
      Works session (.setField on key) [value] (some ⟨inst.record, key, some value⟩)
        (session.store.insert inst.record key value) none
  /-- It gives arguments to an application, and those were all. -/
  | complete {on : String} {application : Application} {operands : List Value} {store : Store}
      {value : Value} :
      session.holdings.application? on = some application →
      session.store.apply Routine.bodies application operands = (store, .complete value) →
      Works session (.apply on) operands
        (session.store.assignedBy Routine.forecast application operands) store
        (some (.value value))
  /-- It gives arguments to an application, and there are more to give. -/
  | incomplete {on : String} {application next : Application} {operands : List Value}
      {store : Store} :
      session.holdings.application? on = some application →
      session.store.apply Routine.bodies application operands = (store, .incomplete next) →
      Works session (.apply on) operands
        (session.store.assignedBy Routine.forecast application operands) store
        (some (.application next))
  /-- It gives arguments to an application, and takes a value. -/
  | applyToValue {on : String} {application : Application} {operands : List Value}
      {store : Store} {applied : Applied} :
      session.holdings.application? on = some application →
      session.store.apply Routine.bodies application operands = (store, applied) →
      Works session (.applyToValue on) operands
        (session.store.assignedBy Routine.forecast application operands)
        (store.toValue applied).1 (some (.value (store.toValue applied).2))
  /-- It makes a function of an application. -/
  | toFunction {on : String} {application : Application} {operands : List Value} :
      session.holdings.application? on = some application →
      Works session (.toFunction on) operands none (session.store.toFunction application).1
        (some (.value (.function (session.store.toFunction application).2)))

/-- What an action does with what is held, apart from its result. -/
inductive Arranges (session : Session) (action : Action) (operands : List Value) :
    Holdings → Prop
  /-- Nothing. -/
  | same : Arranges session action operands session.holdings
  /-- It holds something plain instead of what it is done on. -/
  | hold {on : String} {found holding : Holding} :
      session.holdings.get? on = some found → action.IsOn on found → holding.IsPlain →
      Arranges session action operands (session.holdings.insert on holding)
  /-- It writes an operand to the slot that it is done on. -/
  | write {on : String} {slot : Slot} {value : Value} :
      session.holdings.slot? on = some slot → action.IsOn on (.slot slot) → value ∈ operands →
      Arranges session action operands
        (session.holdings.insert on (.slot { slot with held := value }))
  /-- It takes away the slot that it is done on. -/
  | take {on : String} {slot : Slot} :
      session.holdings.slot? on = some slot → action.IsOn on (.slot slot) →
      Arranges session action operands (session.holdings.erase on)

/-- What is held afterwards was held before, is plain, or is a slot that holds an operand. -/
theorem Arranges.of_get? {session : Session} {action : Action} {operands : List Value}
    {holdings : Holdings} (arranges : session.Arranges action operands holdings) {name : String}
    {holding : Holding} (held : holdings.get? name = some holding) :
    session.holdings.get? name = some holding ∨ holding.IsPlain ∨
      ∃ slot value, session.holdings.slot? name = some slot ∧ value ∈ operands ∧
        holding = .slot { slot with held := value } := by
  cases arranges with
  | same => exact .inl held
  | hold _ _ plain =>
    rw [Dict.get?_insert] at held
    split at held
    · cases held
      exact .inr (.inl plain)
    · exact .inl held
  | write stored _ given =>
    rw [Dict.get?_insert] at held
    split at held
    · next here =>
      cases held
      exact .inr (.inr ⟨_, _, here ▸ stored, given, rfl⟩)
    · exact .inl held
  | take =>
    rw [Dict.get?_erase] at held
    split at held
    · cases held
    · exact .inl held

/-- Under a name that an action is not done on, nothing is held anew. -/
theorem Arranges.get?_of_not_isOn {session : Session} {action : Action} {operands : List Value}
    {holdings : Holdings} (arranges : session.Arranges action operands holdings) {name : String}
    (apart : ∀ found, session.holdings.get? name = some found → ¬ action.IsOn name found) :
    holdings.get? name = session.holdings.get? name := by
  -- what an action is done on is held under another name
  have other {on : String} {found : Holding} (held : session.holdings.get? on = some found)
      (isOn : action.IsOn on found) : name ≠ on := by
    rintro rfl
    exact apart found held isOn
  cases arranges with
  | same => rfl
  | hold held isOn => rw [Dict.get?_insert, if_neg (other held isOn)]
  | write held isOn =>
    rw [Dict.get?_insert, if_neg (other (Holdings.slot?_eq_some.1 held) isOn)]
  | take held isOn => rw [Dict.get?_erase, if_neg (other (Holdings.slot?_eq_some.1 held) isOn)]

/-- What is read in a record is an entry, or undefined. -/
theorem gift_read {session : Session} {operands : List Value} (id : RecordId) (key : String) :
    session.Gift operands (.value (session.store.read id key)) := by
  unfold Store.read
  cases found : (session.store.record id).get? key with
  | none => exact .undefined
  | some value => exact .entry found

/-! ### Assignments -/

/-- The assignment that an action on values makes, if it makes one. -/
def valuesAssign (session : Session) (action : Action) (operands : List Value) :
    Option Assignment :=
  match action, operands with
  | .insertEntry key, [.record id, value] => some ⟨id, key, some value⟩
  | .removeEntry key, [.record id] => some ⟨id, key, none⟩
  | .call, .function f :: arguments => session.store.assigned Routine.forecast f arguments
  | _, _ => none

/-- The assignment that a write of a field makes, unless it is refused. -/
def fieldAssigns (inst : Instance) (key : String) (operands : List Value) : Option Assignment :=
  match operands with
  | [value] =>
      match inst.interface.check key value with
      | .ok () => some ⟨inst.record, key, some value⟩
      | .error _ => none
  | _ => none

/-- The assignment that an action makes, if it makes one. -/
def actionAssigns (session : Session) (action : Action) (operands : List Value) :
    Option Assignment :=
  match action with
  | .setField on key =>
      (session.holdings.inst? on).bind fun inst => fieldAssigns inst key operands
  | .apply on | .applyToValue on =>
      (session.holdings.application? on).bind fun application =>
      session.store.assignedBy Routine.forecast application operands
  | _ => session.valuesAssign action operands

/-! ### Events -/

/-- The events of a registration, unless it is refused. -/
def registered {α : Type} (outcome : Except Violation α) (events : α → List Event) : List Event :=
  match outcome with
  | .ok made => events made
  | .error _ => []

/-- The event of a refusal, if there is one. -/
def refused {α : Type} (outcome : Except Violation α) (event : Violation → Event) : List Event :=
  match outcome with
  | .ok _ => []
  | .error violation => [event violation]

/-- What an action on a catalog logs. -/
def catalogLogs (session : Session) (catalog : Catalog) : Action → List Event
  | .defineInterface _ name fields base =>
      match session.shapeOf fields with
      | .ok fields => registered (catalog.defineInterface name fields base) (·.events)
      | .error _ => []
  | .defineType _ name kind => registered (catalog.defineType name kind) (·.events)
  | .load _ text =>
      match Document.parse text with
      | .ok document => (catalog.load document).events
      | .error _ => []
  | _ => []

/-- What an action on registries logs. -/
def registryLogs (session : Session) : Action → List Event
  | .registerShape on name fields policy base =>
      (session.holdings.shapes? on).elim [] fun registry =>
      match session.shapeOf fields with
      | .ok fields =>
          registered (registry.registerInterface policy name fields base) fun admitted =>
            [admitted.event]
      | .error _ => []
  | .registerKind on name kind policy =>
      (session.holdings.kinds? on).elim [] fun registry =>
      registered (registry.registerType policy name kind) fun admitted => [admitted.event]
  | _ => []

/-- What an action on an instance logs. -/
def instanceLogs (inst : Instance) (action : Action) (operands : List Value) : List Event :=
  match action, operands with
  | .getField _ key, [] =>
      if inst.interface.shape.declares key then []
      else [inst.refusal key (.undeclaredField inst.interface.name key .read)]
  | .setField _ key, [value] => refused (inst.interface.check key value) (inst.refusal key)
  | _, _ => []

/-- What an action on a slot logs. -/
def slotLogs (slot : Slot) (action : Action) (operands : List Value) : List Event :=
  match action, operands with
  | .getSlot _ key, [] =>
      if key = Slot.accessor then []
      else [slot.refusal key (.wrongAccessor slot.type.name key)]
  | .setSlot _ key, [value] =>
      refused (slot.type.permits key value) (slot.refusal (key.getD Slot.accessor))
  | _, _ => []

/-- What an action on a frozen view logs. -/
def frozenLogs : Action → List Event
  | .changeFrozen _ change key => [.changeRefused change key]
  | _ => []

/-- What an action logs. -/
def actionLogs (session : Session) (action : Action) (operands : List Value) : List Event :=
  match action with
  | .defineInterface on .. | .defineType on .. | .lookUpInterface on _ | .lookUpType on _
  | .lookUpDefinitions on _ | .listNames on | .load on _ =>
      (session.holdings.catalog? on).elim [] fun catalog => session.catalogLogs catalog action
  | .registerShape .. | .registerKind .. => session.registryLogs action
  | .getField on _ | .setField on _ | .instanceInfo on =>
      (session.holdings.inst? on).elim [] fun inst => instanceLogs inst action operands
  | .getSlot on _ | .setSlot on _ | .takeSlot on =>
      (session.holdings.slot? on).elim [] fun slot => slotLogs slot action operands
  | .getFrozen on _ | .changeFrozen on .. | .frozenInfo on _ =>
      (session.holdings.frozen? on).elim [] fun _ => frozenLogs action
  | _ => []

/-- A session has logged events since an earlier one. -/
def Adds (before : Session) (events : List Event) (after : Session) : Prop :=
  after.world.log.toList = before.world.log.toList ++ events

theorem Adds.refl (session : Session) : Adds session [] session := (List.append_nil _).symm

/-- Nothing was logged if the log is the same. -/
theorem Adds.of_log {before after : Session} (same : after.world.log = before.world.log) :
    Adds before [] after := by
  rw [Adds, same, List.append_nil]

theorem adds_emitAll (session : Session) (events : List Event) :
    Adds session events (session.emitAll events) := by
  show (session.world.log ++ events.toArray).toList = _
  rw [Array.toList_append]

theorem adds_emit (session : Session) (event : Event) :
    Adds session [event] (session.withWorld (session.world.emit event)) :=
  Array.toList_push

/-! ### Sessions without their logs -/

/-- All of a session but the log, and what was listed of it. -/
structure Contents where
  /-- The contents of records and arrays, and the calls of functions. -/
  store : Store
  /-- How many instances were made. -/
  instances : Nat
  /-- What is held: values, catalogs, registries, instances, slots and all the rest. -/
  holdings : Holdings
  /-- How many calls have been listed. -/
  listedCalls : Nat
  /-- The series of the instances. -/
  series : Nat

/-- What a session consists of besides its log. -/
def contents (session : Session) : Contents where
  store := session.store
  instances := session.world.instances
  holdings := session.holdings
  listedCalls := session.listedCalls
  series := session.series

/-- The session with another log, of which something was listed. -/
def relog (session : Session) (log : Array Event) (listed : Nat) (mentioned : List String) :
    Session :=
  { session with world := { session.world with log }, listedEvents := listed, mentioned }

variable {action : Action} {before session one other : Session}

/-- A session with the same contents is the session with another log. -/
theorem exists_relog (same : one.contents = other.contents) :
    ∃ log listed mentioned, other = one.relog log listed mentioned := by
  obtain ⟨⟨store, log, instances⟩, holdings, listedCalls, listedEvents, mentioned, series⟩ := other
  cases same
  exact ⟨log, listedEvents, mentioned, rfl⟩

section

variable (same : one.contents = other.contents)
include same

theorem contents_withStore (store : Store) :
    (one.withStore store).contents = (other.withStore store).contents := by
  obtain ⟨log, listed, mentioned, rfl⟩ := exists_relog same
  rfl

theorem contents_hold (name : String) (holding : Holding) :
    (one.hold name holding).contents = (other.hold name holding).contents := by
  obtain ⟨log, listed, mentioned, rfl⟩ := exists_relog same
  rfl

theorem contents_release (name : String) :
    (one.release name).contents = (other.release name).contents := by
  obtain ⟨log, listed, mentioned, rfl⟩ := exists_relog same
  rfl

theorem contents_emitAll (events : List Event) :
    (one.emitAll events).contents = (other.emitAll events).contents := by
  obtain ⟨log, listed, mentioned, rfl⟩ := exists_relog same
  rfl

end

/-- An action did the same in two sessions, and nothing in the first if it was refused. -/
structure Parallel (action : Action) (before : Session) (one other : Performed) : Prop where
  /-- The sessions differ in their logs at most. -/
  contents : one.session.contents = other.session.contents
  /-- So do the outcomes, none of which has a result if they do. -/
  outcome : one.outcome = other.outcome ∨ action.readsLog = true ∧
    ∃ answer answer', one.outcome = .ok (answer, none) ∧ other.outcome = .ok (answer', none)
  /-- A write has left the same behind. -/
  remains : one.remains = other.remains
  /-- What is refused has changed nothing. -/
  refused : action.isLoad = false → ∀ refusal, one.outcome = .error refusal →
    one.session.contents = before.contents

/-! ### Deeds -/

/-- All that an action comes to: what it does in a session, and that it does the same in another
one that differs in its log at most. -/
structure Deed (session : Session) (action : Action) (operands : List Value)
    (assigned : Option Assignment) (events : List Event) (one other : Performed) : Prop where
  /-- What it does to the store, and what it gives. -/
  works : session.Works action operands assigned one.session.store one.result?
  /-- What it does with what is held. -/
  arranges : session.Arranges action operands one.session.holdings
  /-- What it logs. -/
  adds : Adds session events one.session
  /-- It does the same in both, and nothing if it is refused. -/
  parallel : Parallel action session one other

namespace Deed

variable {operands : List Value} {assigned : Option Assignment} {events : List Event}
  {result : Option Holding}

/-- It was done. -/
theorem accept {next next' : Session} (same : next.contents = next'.contents) (answer : Answer)
    (remains : Option Remains)
    (works : session.Works action operands assigned next.store result)
    (arranges : session.Arranges action operands next.holdings)
    (adds : Adds session events next) :
    Deed session action operands assigned events ⟨next, .ok (answer, result), remains⟩
      ⟨next', .ok (answer, result), remains⟩ :=
  ⟨works, arranges, adds, same, .inl rfl, rfl, fun _ _ refused => nomatch refused⟩

section

variable (same : session.contents = other.contents)
include same

/-- It was refused at once. -/
theorem refuse (refusal : Refusal) :
    Deed session action operands none [] (session.refuse refusal) (other.refuse refusal) :=
  ⟨.idle, .same, .refl session, same, .inl rfl, rfl, fun _ _ _ => rfl⟩

/-- It was refused, and that was logged. -/
theorem reject (event : Event) (refusal : Refusal) (remains : Option Remains) :
    Deed session action operands none [event]
      ⟨session.withWorld (session.world.emit event), .error refusal, remains⟩
      ⟨other.withWorld (other.world.emit event), .error refusal, remains⟩ := by
  obtain ⟨log, listed, mentioned, rfl⟩ := exists_relog same
  exact ⟨.idle, .same, adds_emit session event, rfl, .inl rfl, rfl, fun _ _ _ => rfl⟩

/-- It gave an answer, and that was all. -/
theorem answer (answer : Answer) :
    Deed session action operands none [] (session.answer answer) (other.answer answer) :=
  .accept same answer none .idle .same (.refl session)

/-- It gave something. -/
theorem yield (answer : Answer) {holding : Holding} (gift : session.Gift operands holding) :
    Deed session action operands none [] (session.yield answer holding)
      (other.yield answer holding) :=
  .accept same answer none (.give gift) .same (.refl session)

theorem yieldValue {value : Value} (gift : session.Gift operands (.value value)) :
    Deed session action operands none [] (session.yieldValue value) (other.yieldValue value) := by
  obtain ⟨log, listed, mentioned, rfl⟩ := exists_relog same
  exact yield same _ gift

theorem yieldMaybe {value : Option Value}
    (gift : ∀ v, value = some v → session.Gift operands (.value v)) :
    Deed session action operands none [] (session.yieldMaybe value) (other.yieldMaybe value) := by
  obtain ⟨log, listed, mentioned, rfl⟩ := exists_relog same
  cases value with
  | none => exact .accept same _ none .idle .same (.refl session)
  | some value => exact .accept same _ none (.give (gift value rfl)) .same (.refl session)

theorem describe {application : Application}
    (gift : session.Gift operands (.application application))
    (wording : Nat → Nat → List Tree → Answer) :
    Deed session action operands none [] (session.describe application wording)
      (other.describe application wording) := by
  obtain ⟨log, listed, mentioned, rfl⟩ := exists_relog same
  exact yield same _ gift

/-- It did something to the store. -/
theorem store {store : Store} (answer : Answer) (remains : Option Remains)
    (works : session.Works action operands assigned store result) :
    Deed session action operands assigned []
      ⟨session.withStore store, .ok (answer, result), remains⟩
      ⟨other.withStore store, .ok (answer, result), remains⟩ :=
  .accept (contents_withStore same store) answer remains works .same (.of_log rfl)

/-- What it is done on was registered in, and that was logged. -/
theorem register {on : String} {found holding : Holding}
    (held : session.holdings.get? on = some found) (isOn : action.IsOn on found)
    (plain : holding.IsPlain) (events : List Event) (answer : Answer)
    (works : session.Works action operands none session.store result) :
    Deed session action operands none events
      ⟨(session.hold on holding).emitAll events, .ok (answer, result), none⟩
      ⟨(other.hold on holding).emitAll events, .ok (answer, result), none⟩ :=
  .accept (contents_emitAll (contents_hold same on holding) events) answer none works
    (.hold held isOn plain) (adds_emitAll (session.hold on holding) events)

/-- It is refused without a shape. -/
theorem withShape {source : FieldSource} {next next' : Shape → Performed}
    (nothing : ∀ refusal, session.shapeOf source = .error refusal → events = [])
    (deed : ∀ shape, session.shapeOf source = .ok shape →
      Deed session action operands none events (next shape) (next' shape)) :
    Deed session action operands none events (session.withShape source next)
      (other.withShape source next') := by
  obtain ⟨log, listed, mentioned, rfl⟩ := exists_relog same
  have shapeOf : (session.relog log listed mentioned).shapeOf source = session.shapeOf source := rfl
  unfold Session.withShape
  rw [shapeOf]
  cases shaped : session.shapeOf source with
  | error refusal =>
    rw [nothing refusal shaped]
    exact refuse same refusal
  | ok shape => exact deed shape shaped

/-- It is refused if nothing of the right sort is held. -/
theorem withHeld {α : Type} {held : Option α} {next next' : α → Performed}
    (deed : ∀ thing, held = some thing →
      Deed session action operands none [] (next thing) (next' thing)) :
    Deed session action operands none [] (session.withHeld held next)
      (other.withHeld held next') := by
  cases held with
  | none => exact refuse same _
  | some thing => exact deed thing rfl

/-- Then nothing is logged. -/
theorem withHeldLogging {α : Type} {held : Option α} {next next' : α → Performed}
    {logs : α → List Event}
    (deed : ∀ thing, held = some thing →
      Deed session action operands none (logs thing) (next thing) (next' thing)) :
    Deed session action operands none (held.elim [] logs) (session.withHeld held next)
      (other.withHeld held next') := by
  cases held with
  | none => exact refuse same _
  | some thing => exact deed thing rfl

/-- Nor is anything assigned. -/
theorem withHeldAssigning {α : Type} {held : Option α} {next next' : α → Performed}
    {assigns : α → Option Assignment}
    (deed : ∀ thing, held = some thing →
      Deed session action operands (assigns thing) [] (next thing) (next' thing)) :
    Deed session action operands (held.bind assigns) [] (session.withHeld held next)
      (other.withHeld held next') := by
  cases held with
  | none => exact refuse same _
  | some thing => exact deed thing rfl

end

end Deed

end Session

end Contracts
