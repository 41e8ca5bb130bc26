import Contracts.Format.Document
import Contracts.Heap.Inspect
import Contracts.Session.Action

/-!
# Sessions

A **session** holds things under names and does one action after the other on them.
What an action changes is kept, and so is what it logs; whatever it refuses leaves the
rest as it was.

## Main definitions

* `Session` — what is held, and the world it lives in.
* `Session.perform` — do an action whose operands are values.
* `Session.run` — evaluate the operands of a step, perform it, and hold its result.
* `Session.runAll` — the replies to steps in turn.
-/

namespace Contracts

/-- What is held, and the world it lives in. -/
structure Session where
  /-- The store, the log and the count of instances. -/
  world : World
  /-- What is held. -/
  holdings : Holdings
  /-- How many calls have been listed. -/
  listedCalls : Nat
  /-- How many events have been listed. -/
  listedEvents : Nat
  /-- The instances that listed events were about, by first mention. -/
  mentioned : List String
  /-- The series of the instances. -/
  series : Nat

/-- What comes of an action. -/
structure Performed where
  /-- The session afterwards. -/
  session : Session
  /-- The answer, with the result that can be held, or why there is none. -/
  outcome : Except Refusal (Answer × Option Holding)
  /-- What a write has left behind. -/
  remains : Option Remains

namespace Session

/-- The session that holds nothing, with a series for its instances. -/
def start (series : Nat) : Session := ⟨.empty, .empty, 0, 0, [], series⟩

instance : Inhabited Session := ⟨start 0⟩

/-! ### Parts of a session -/

/-- Change the store. -/
def withStore (session : Session) (store : Store) : Session :=
  { session with world := { session.world with store } }

/-- Change the world. -/
def withWorld (session : Session) (world : World) : Session := { session with world }

/-- Hold something under a name. -/
def hold (session : Session) (name : String) (holding : Holding) : Session :=
  { session with holdings := session.holdings.insert name holding }

/-- Hold nothing under a name. -/
def release (session : Session) (name : String) : Session :=
  { session with holdings := session.holdings.erase name }

/-- Log events in order. -/
def emitAll (session : Session) (events : List Event) : Session :=
  session.withWorld (session.world.emitAll events)

/-- The store. -/
def store (session : Session) : Store := session.world.store

/-- A value written out. -/
def tree (session : Session) (value : Value) : Tree := session.store.unfold value

/-- The entries of a record written out. -/
def entries (session : Session) (id : RecordId) : Entries :=
  (session.store.record id).entries.map fun entry => (entry.1, session.tree entry.2)

/-! ### Outcomes -/

/-- An answer without a result to hold. -/
def answer (session : Session) (answer : Answer) : Performed :=
  ⟨session, .ok (answer, none), none⟩

/-- An answer with a result to hold. -/
def yield (session : Session) (answer : Answer) (result : Holding) : Performed :=
  ⟨session, .ok (answer, some result), none⟩

/-- A refusal. -/
def refuse (session : Session) (refusal : Refusal) : Performed :=
  ⟨session, .error refusal, none⟩

/-- A value as the answer and as the result. -/
def yieldValue (session : Session) (value : Value) : Performed :=
  session.yield (.value (session.tree value)) (.value value)

/-- A value, if there is one, as the answer and as the result. -/
def yieldMaybe (session : Session) (value : Option Value) : Performed :=
  ⟨session, .ok (.maybe (value.map session.tree), value.map .value), none⟩

/-- A value or a violation. -/
def yieldOrRefuse (session : Session) : Except Violation Value → Performed
  | .ok value => session.yieldValue value
  | .error violation => session.refuse (.violation violation)

/-- The description of an application. -/
def describe (session : Session) (application : Application)
    (wording : Nat → Nat → List Tree → Answer) : Performed :=
  session.yield
    (wording application.arity application.remaining (application.supplied.map session.tree))
    (.application application)

/-! ### Listing -/

/-- List the events since they were last listed. -/
def listEvents (session : Session) : Performed :=
  let entries :=
    (session.world.log.toList.drop session.listedEvents).map (Event.entry session.series)
  let mentioned := Entry.mention session.mentioned entries
  { session with listedEvents := session.world.log.size, mentioned }.answer
    (.entries (Entry.number mentioned entries))

/-- List the calls since they were last listed. -/
def listCalls (session : Session) : Performed :=
  { session with listedCalls := session.store.history.size }.answer
    (.calls (session.store.history.toList.drop session.listedCalls))

/-! ### Shapes -/

/-- The shape that a source of fields stands for. -/
def shapeOf (session : Session) : FieldSource → Except Refusal Shape
  | .declared declarations =>
      .ok (declarations.foldl (fun shape declaration =>
        match declaration.2 with
        | some kind => shape.field declaration.1 kind
        | none => shape.untyped declaration.1) .empty)
  | .held name =>
      match session.holdings.shape? name with
      | some shape => .ok shape
      | none => .error .misuse
  | .text text =>
      match Shape.parse text with
      | .ok shape => .ok shape
      | .error fault => .error (.unreadable fault.reason.faultClass (fault.message text))

/-- The shape of all declarations of a source at once. -/
def collectedShape (session : Session) : FieldSource → Except Refusal Shape
  | .declared declarations => .ok (.ofList declarations)
  | source => session.shapeOf source

/-- Go on with the shape of a source of fields. -/
def withShape (session : Session) (source : FieldSource) (next : Shape → Performed) :
    Performed :=
  match session.shapeOf source with
  | .ok shape => next shape
  | .error refusal => session.refuse refusal

/-- A shape as the answer and as the result. -/
def yieldShape (session : Session) (shape : Shape) : Performed :=
  session.yield (.shape shape) (.shape shape)

/-! ### Actions -/

/-- Actions on values, records, arrays and functions. -/
def performOnValues (session : Session) (action : Action) (operands : List Value) :
    Performed :=
  match action, operands with
  | .take, [value] => session.yieldValue value
  | .profile, [value] => session.answer (.profile (session.store.profile value))
  | .category, [value] => session.answer (.text value.category.text)
  | .inspect, [value] => session.answer (.text (session.store.inspect value))
  | .compare, [a, b] => session.answer (.truths (a.same b) (b.same a))
  | .accepts kind, [value] => session.answer (.truth (kind.accepts value))
  | .newRecord, [] =>
      let (store, id) := session.store.newRecord .empty
      (session.withStore store).yieldValue (.record id)
  | .getEntry key, [.record id] => session.yieldMaybe ((session.store.record id).get? key)
  | .insertEntry key, [.record id, value] =>
      (session.withStore (session.store.insert id key value)).yieldMaybe
        ((session.store.record id).get? key)
  | .removeEntry key, [.record id] =>
      (session.withStore (session.store.remove id key)).yieldMaybe
        ((session.store.record id).get? key)
  | .recordInfo key, [.record id] =>
      session.answer (.record (session.entries id) ((session.store.record id).contains key))
  | .sameRecord, [.record a, .record b] => session.answer (.truth (a == b))
  | .newArray, [] =>
      let (store, id) := session.store.newArray #[]
      (session.withStore store).yieldValue (.array id)
  | .getItem index, [.array id] => session.yieldMaybe ((session.store.array id)[index]?)
  | .pushItem, [.array id, value] =>
      let session := session.withStore (session.store.push id value)
      session.answer (.count (session.store.array id).size)
  | .arrayInfo, [.array id] =>
      session.answer (.array ((session.store.array id).toList.map session.tree))
  | .sameArray, [.array a, .array b] => session.answer (.truth (a == b))
  | .call, .function f :: arguments =>
      let (store, value) := session.store.call Routine.bodies f arguments
      (session.withStore store).yieldValue value
  | .listCalls, [] => session.listCalls
  | .listEvents, [] => session.listEvents
  | _, _ => session.refuse .misuse

/-- Actions on shapes. -/
def performOnShapes (session : Session) (action : Action) : Performed :=
  match action with
  | .shape fields => session.withShape fields session.yieldShape
  | .collectShape fields =>
      match session.collectedShape fields with
      | .ok shape => session.yieldShape shape
      | .error refusal => session.refuse refusal
  | .declareField on name kind =>
      match session.holdings.shape? on with
      | some shape =>
          let shape := shape.declare name kind
          (session.hold on (.shape shape)).yieldShape shape
      | none => session.refuse .misuse
  | .extendShape base derived =>
      session.withShape base fun base =>
      session.withShape derived fun derived =>
      session.yieldShape (base.extending derived)
  | .lookUpField on name =>
      match session.holdings.shape? on with
      | some shape => session.answer (.field (shape.declares name) (shape.kindOf name))
      | none => session.refuse .misuse
  | .sameShape left right =>
      session.withShape left fun left =>
      session.withShape right fun right =>
      session.answer (.truth (left == right))
  | _ => session.refuse .misuse

/-- Actions on a catalog that is held. -/
def performOnCatalog (session : Session) (on : String) (catalog : Catalog) (action : Action) :
    Performed :=
  match action with
  | .defineInterface _ name fields base =>
      session.withShape fields fun fields =>
      match catalog.defineInterface name fields base with
      | .error violation => session.refuse (.violation violation)
      | .ok defined =>
          ((session.hold on (.catalog defined.catalog)).emitAll defined.events).yield
            (.interface defined.handle) (.interface defined.handle)
  | .defineType _ name kind =>
      match catalog.defineType name kind with
      | .error violation => session.refuse (.violation violation)
      | .ok defined =>
          ((session.hold on (.catalog defined.catalog)).emitAll defined.events).yield
            (.type defined.handle) (.type defined.handle)
  | .lookUpInterface _ name =>
      match catalog.interface name with
      | .error violation => session.refuse (.violation violation)
      | .ok interface => session.yield (.interface interface) (.interface interface)
  | .lookUpType _ name =>
      match catalog.type name with
      | .error violation => session.refuse (.violation violation)
      | .ok type => session.yield (.type type) (.type type)
  | .lookUpDefinitions _ name =>
      session.answer (.definitions (catalog.interfaces.get? name) (catalog.types.get? name))
  | .listNames _ => session.answer (.names catalog.interfaces.names catalog.types.names)
  | .load _ text =>
      match Document.parse text with
      | .error fault =>
          session.refuse
            (.unreadable fault.reason.faultClass (Document.faultMessage text fault))
      | .ok document =>
          let progress := catalog.load document
          let session := (session.hold on (.catalog progress.catalog)).emitAll progress.events
          match progress.outcome with
          | .error violation => session.refuse (.violation violation)
          | .ok tally => session.answer (.loaded tally.types tally.interfaces)
  | _ => session.refuse .misuse

/-- Actions on registries. -/
def performOnRegistries (session : Session) (action : Action) : Performed :=
  match action with
  | .newShapes => session.yield .done (.shapes .empty)
  | .newKinds => session.yield .done (.kinds .empty)
  | .registerShape on name fields policy base =>
      match session.holdings.shapes? on with
      | none => session.refuse .misuse
      | some registry =>
          session.withShape fields fun fields =>
          match registry.registerInterface policy name fields base with
          | .error violation => session.refuse (.violation violation)
          | .ok admitted =>
              ((session.hold on (.shapes admitted.registry)).emitAll [admitted.event]).yield
                (.fields admitted.definition) (.shape admitted.definition)
  | .registerKind on name kind policy =>
      match session.holdings.kinds? on with
      | none => session.refuse .misuse
      | some registry =>
          match registry.registerType policy name kind with
          | .error violation => session.refuse (.violation violation)
          | .ok admitted =>
              ((session.hold on (.kinds admitted.registry)).emitAll [admitted.event]).answer
                (.kind admitted.definition)
  | .registryInfo on name =>
      match session.holdings.get? on with
      | some (.shapes registry) =>
          session.answer (.shapes registry.names (registry.get? name))
      | some (.kinds registry) => session.answer (.kinds registry.names (registry.get? name))
      | _ => session.refuse .misuse
  | _ => session.refuse .misuse

/-- Actions on an interface that is held. -/
def performOnInterface (session : Session) (interface : Interface) (action : Action)
    (operands : List Value) : Performed :=
  match action, operands with
  | .construct _, [] =>
      let (world, inst) := session.world.construct interface
      let session := session.withWorld world
      session.yield (.inst interface (session.entries inst.record)) (.inst inst)
  | .constructWith _, [.record seed] =>
      match session.world.constructWith interface seed with
      | .error violation => session.refuse (.violation violation)
      | .ok (world, inst) =>
          let session := session.withWorld world
          session.yield (.inst interface (session.entries inst.record)) (.inst inst)
  | _, _ => session.refuse .misuse

/-- Actions on an instance of an interface that is held. -/
def performOnInstance (session : Session) (inst : Instance) (action : Action)
    (operands : List Value) : Performed :=
  match action, operands with
  | .getField _ key, [] =>
      let (world, outcome) := session.world.getField inst key
      (session.withWorld world).yieldOrRefuse outcome
  | .setField _ key, [value] =>
      let (world, outcome) := session.world.setField inst key value
      let session := session.withWorld world
      { session
        outcome := match outcome with
          | .ok () => .ok (.done, none)
          | .error violation => .error (.violation violation)
        remains := some (.record (session.entries inst.record)) }
  | .instanceInfo _, [] =>
      session.answer
        (.instanceInfo inst.interface (session.entries inst.record)
          (session.store.toJson (.record inst.record)).print)
  | _, _ => session.refuse .misuse

/-- Actions on a slot that is held. -/
def performOnSlot (session : Session) (on : String) (slot : Slot) (action : Action)
    (operands : List Value) : Performed :=
  match action, operands with
  | .getSlot _ key, [] =>
      let (world, outcome) := session.world.getSlot slot key
      (session.withWorld world).yieldOrRefuse outcome
  | .setSlot _ key, [value] =>
      let (world, outcome) := match key with
        | some key => session.world.setSlot slot key value
        | none => session.world.setSlotValue slot value
      let session := session.withWorld world
      match outcome with
      | .ok slot =>
          ⟨session.hold on (.slot slot), .ok (.done, none),
            some (.slot (session.tree slot.held))⟩
      | .error violation =>
          ⟨session, .error (.violation violation), some (.slot (session.tree slot.held))⟩
  | .takeSlot _, [] => (session.release on).yieldValue slot.held
  | _, _ => session.refuse .misuse

/-- Actions on a frozen view that is held. -/
def performOnFrozen (session : Session) (view : FrozenView) (action : Action)
    (operands : List Value) : Performed :=
  match action, operands with
  | .getFrozen _ key, [] => session.yieldValue (session.store.readFrozen view key)
  | .changeFrozen _ change key, _ =>
      let (world, outcome) := session.world.refuseChange view change key
      let session := session.withWorld world
      match outcome with
      | .ok () => session.answer .done
      | .error violation => session.refuse (.violation violation)
  | .frozenInfo _ key, [] =>
      let record := session.store.record view.record
      session.answer (.frozenInfo record.keys (record.contains key))
  | _, _ => session.refuse .misuse

/-- Actions on an application that is held. -/
def performOnApplication (session : Session) (application : Application) (action : Action)
    (operands : List Value) : Performed :=
  match action with
  | .apply _ =>
      let (store, applied) := session.store.apply Routine.bodies application operands
      let session := session.withStore store
      match applied with
      | .complete value => session.yield (.complete (session.tree value)) (.value value)
      | .incomplete application => session.describe application .incomplete
  | .applyToValue _ =>
      let (store, applied) := session.store.apply Routine.bodies application operands
      let (store, value) := store.toValue applied
      (session.withStore store).yieldValue value
  | .toFunction _ =>
      let (store, f) := session.store.toFunction application
      (session.withStore store).yieldValue (.function f)
  | _ => session.refuse .misuse

/-- Do something with what is held under a name, if it is of the right sort. -/
def withHeld {α : Type} (session : Session) (held : Option α) (next : α → Performed) :
    Performed :=
  match held with
  | some held => next held
  | none => session.refuse .misuse

/-- Do an action. -/
def perform (session : Session) (action : Action) (operands : List Value) : Performed :=
  match action with
  | .shape .. | .collectShape .. | .declareField .. | .extendShape .. | .lookUpField ..
  | .sameShape .. => session.performOnShapes action
  | .newCatalog policy => session.yield (.policy policy) (.catalog (.empty policy))
  | .defineInterface on .. | .defineType on .. | .lookUpInterface on _ | .lookUpType on _
  | .lookUpDefinitions on _ | .listNames on | .load on _ =>
      session.withHeld (session.holdings.catalog? on) fun catalog =>
      session.performOnCatalog on catalog action
  | .newShapes | .newKinds | .registerShape .. | .registerKind .. | .registryInfo .. =>
      session.performOnRegistries action
  | .construct on | .constructWith on =>
      session.withHeld (session.holdings.interface? on) fun interface =>
      session.performOnInterface interface action operands
  | .getField on _ | .setField on _ | .instanceInfo on =>
      session.withHeld (session.holdings.inst? on) fun inst =>
      session.performOnInstance inst action operands
  | .sameInstance left right =>
      session.withHeld (session.holdings.instanceId? left) fun left =>
      session.withHeld (session.holdings.instanceId? right) fun right =>
      session.answer (.truth (left == right))
  | .newSlot on =>
      session.withHeld (session.holdings.type? on) fun type =>
      match operands with
      | [initial] =>
          match session.world.constructSlot type initial with
          | .error violation => session.refuse (.violation violation)
          | .ok (world, slot) =>
              let session := session.withWorld world
              session.yield (.slot type (session.tree slot.held)) (.slot slot)
      | _ => session.refuse .misuse
  | .getSlot on _ | .setSlot on _ | .takeSlot on =>
      session.withHeld (session.holdings.slot? on) fun slot =>
      session.performOnSlot on slot action operands
  | .freeze =>
      match operands with
      | [.record id] =>
          session.yield (.frozen (session.store.record id).keys) (.frozen ⟨id⟩)
      | _ => session.refuse .misuse
  | .getFrozen on _ | .changeFrozen on .. | .frozenInfo on _ =>
      session.withHeld (session.holdings.frozen? on) fun view =>
      session.performOnFrozen view action operands
  | .curry =>
      match operands with
      | [.function f] => session.describe (.of f) .application
      | _ => session.refuse .misuse
  | .apply on | .applyToValue on | .toFunction on =>
      session.withHeld (session.holdings.application? on) fun application =>
      session.performOnApplication application action operands
  | _ => session.performOnValues action operands

/-! ### Steps -/

/-- Evaluate the operands of a step, do its action, and hold the result. -/
def run (session : Session) (step : Step) : Session × Reply :=
  match session.holdings.evaluateItems session.store step.operands with
  | none => (session, ⟨.error .misuse, none⟩)
  | some (store, operands) =>
      let performed := (session.withStore store).perform step.action operands
      match performed.outcome with
      | .error refusal => (performed.session, ⟨.error refusal, performed.remains⟩)
      | .ok (answer, result) =>
          let session := match step.into, result with
            | some name, some result => performed.session.hold name result
            | _, _ => performed.session
          (session, ⟨.ok answer, performed.remains⟩)

/-- The replies to steps in turn. -/
def runAll (session : Session) : List Step → List Reply
  | [] => []
  | step :: rest =>
      let (session, reply) := session.run step
      reply :: session.runAll rest

end Session

end Contracts
