import Contracts.Proofs.Session.Deed

/-!
# What actions come to

Each action of a session is looked at here, and its deed told.  What is shown of all actions
elsewhere is shown of deeds.  A step does its action, and holds the result if there is one.

## Main definitions

* `Session.runSteps` — a session after steps in turn.
* `Session.logs`, `Session.logged` — the events that a step logs, and steps in turn.

## Main results

* `Session.deed_perform` — **what an action comes to.**
* `Session.works_perform`, `Session.arranges_perform`, `Session.adds_perform`,
  `Session.parallel_perform` — what it does to the store, to what is held, to the log, and in
  another session.
* `Session.run_of_none`, `Session.run_of_some` — a step does its action, or nothing.
* `Session.log_run`, `Session.log_runSteps` — steps add to the log what was foretold, one by one and
  in turn.
-/

namespace Contracts

namespace Session

variable {session other : Session}

/-- What a slot does with a write, of a value that may be written or that may not. -/
theorem performOnSlot_setSlot (session : Session) (name on : String) (slot : Slot)
    (key : Option String) (value : Value) :
    session.performOnSlot name slot (.setSlot on key) [value] =
      match slot.type.permits key value with
      | .ok _ =>
          ⟨session.hold name (.slot { slot with held := value }), .ok (.done, none),
            some (.slot (session.tree value))⟩
      | .error violation =>
          let event := slot.refusal (key.getD Slot.accessor) violation
          ⟨session.withWorld (session.world.emit event), .error (.violation violation),
            some (.slot (session.tree slot.held))⟩ := by
  have written := session.world.set_eq slot key value
  cases key with
  | none =>
    rw [World.set] at written
    dsimp only [performOnSlot]
    rw [written]
    cases slot.type.permits none value <;> rfl
  | some key =>
    rw [World.set] at written
    dsimp only [performOnSlot]
    rw [written]
    cases slot.type.permits (some key) value <;> rfl

section

variable (same : session.contents = other.contents)
include same

/-! ### Actions on values -/

theorem deed_performOnValues (action : Action) (operands : List Value) :
    Deed session action operands (session.valuesAssign action operands) []
      (session.performOnValues action operands) (other.performOnValues action operands) := by
  obtain ⟨log, listed, mentioned, rfl⟩ := exists_relog same
  unfold performOnValues
  split
  · exact .yieldValue same (.operand List.mem_cons_self)
  · exact .answer same _
  · exact .answer same _
  · exact .answer same _
  · exact .answer same _
  · exact .answer same _
  · exact .store same _ _ .newRecord
  · exact .yieldMaybe same fun _ found => .entry found
  · next key id value => exact .store same _ _ (.insert id key value)
  · next key id => exact .store same _ _ (.remove id key)
  · exact .answer same _
  · exact .answer same _
  · exact .store same _ _ .newArray
  · exact .yieldMaybe same fun _ found => .item (Array.mem_of_getElem? found)
  · next id value => exact .store same _ _ (.push id value)
  · exact .answer same _
  · exact .answer same _
  · next f arguments => exact .store same _ _ (.call f arguments)
  · exact .accept (by rfl) _ _ .idle .same (.of_log rfl)
  · -- what was logged is told, and so the answers differ
    exact ⟨.idle, .same, .of_log rfl, rfl, .inr ⟨rfl, _, _, rfl, rfl⟩, rfl,
      fun _ _ refused => nomatch refused⟩
  · -- what is refused is none of the three that make an assignment
    have none : session.valuesAssign action operands = none := by
      unfold valuesAssign
      split <;> simp_all
    rw [none]
    exact .refuse same _

/-! ### Actions on definitions -/

theorem deed_performOnShapes (action : Action) (operands : List Value) :
    Deed session action operands none [] (session.performOnShapes action)
      (other.performOnShapes action) := by
  obtain ⟨log, listed, mentioned, rfl⟩ := exists_relog same
  have shape (shape : Shape) : session.Gift operands (.shape shape) := .plain (.shape shape)
  unfold performOnShapes
  split
  · exact .withShape same (fun _ _ => rfl) fun _ _ => .yield same _ (shape _)
  · rw [show (session.relog log listed mentioned).collectedShape = session.collectedShape from rfl]
    split
    · exact .yield same _ (shape _)
    · exact .refuse same _
  · rw [show (session.relog log listed mentioned).holdings = session.holdings from rfl]
    split
    · next found =>
      exact .accept (contents_hold same _ _) _ _ (.give (shape _))
        (.hold (Holdings.shape?_eq_some.1 found) rfl (.shape _)) (.of_log rfl)
    · exact .refuse same _
  · exact .withShape same (fun _ _ => rfl) fun _ _ =>
      .withShape same (fun _ _ => rfl) fun _ _ => .yield same _ (shape _)
  · rw [show (session.relog log listed mentioned).holdings = session.holdings from rfl]
    split
    · exact .answer same _
    · exact .refuse same _
  · exact .withShape same (fun _ _ => rfl) fun _ _ =>
      .withShape same (fun _ _ => rfl) fun _ _ => .answer same _
  · exact .refuse same _

/-- A catalog is held again once it has a new definition, and not before. -/
theorem deed_performOnCatalog {on : String} {catalog : Catalog} {action : Action}
    (held : session.holdings.catalog? on = some catalog)
    (isOn : action.IsOn on (.catalog catalog)) (operands : List Value) :
    Deed session action operands none (session.catalogLogs catalog action)
      (session.performOnCatalog on catalog action) (other.performOnCatalog on catalog action) := by
  have found := Holdings.catalog?_eq_some.1 held
  cases action with
  | defineInterface _ name fields base =>
    refine .withShape same (fun refusal shaped => ?_) fun shape shaped => ?_
    · rw [catalogLogs, shaped]
    · rw [catalogLogs, shaped]
      dsimp only
      cases made : catalog.defineInterface name shape base with
      | error violation => exact .refuse same _
      | ok defined =>
        exact .register same found isOn (.catalog _) defined.events _
          (.give (.interfaceDefined made))
  | defineType _ name kind =>
    rw [catalogLogs, performOnCatalog, performOnCatalog]
    cases made : catalog.defineType name kind with
    | error violation => exact .refuse same _
    | ok defined =>
      exact .register same found isOn (.catalog _) defined.events _ (.give (.typeDefined made))
  | load _ text =>
    rw [catalogLogs, performOnCatalog, performOnCatalog]
    cases Document.parse text with
    | error fault => exact .refuse same _
    | ok document =>
      let progress := catalog.load document
      have after := contents_emitAll (contents_hold same on (.catalog progress.catalog))
        progress.events
      have logs := adds_emitAll (session.hold on (.catalog progress.catalog)) progress.events
      dsimp only
      split
      · -- what was declared before the refusal stays, as it may in a load
        exact ⟨.idle, .hold found isOn (.catalog _), logs, after, .inl rfl, rfl,
          fun other => nomatch other⟩
      · exact .accept after _ _ .idle (.hold found isOn (.catalog _)) logs
  | lookUpInterface _ name =>
    rw [performOnCatalog, performOnCatalog]
    cases sought : catalog.interface name with
    | error violation => exact .refuse same _
    | ok interface => exact .yield same _ (.interfaceFound sought)
  | lookUpType _ name =>
    rw [performOnCatalog, performOnCatalog]
    cases sought : catalog.type name with
    | error violation => exact .refuse same _
    | ok type => exact .yield same _ (.typeFound sought)
  | lookUpDefinitions | listNames => exact .answer same _
  | _ => exact .refuse same _

theorem deed_performOnRegistries (action : Action) (operands : List Value) :
    Deed session action operands none (session.registryLogs action)
      (session.performOnRegistries action) (other.performOnRegistries action) := by
  have holdings : other.holdings = session.holdings := congrArg Contents.holdings same.symm
  cases action with
  | registerShape on name fields policy base =>
    rw [registryLogs, performOnRegistries, performOnRegistries, holdings]
    cases held : session.holdings.shapes? on with
    | none => exact .refuse same _
    | some registry =>
      refine .withShape same (fun refusal shaped => ?_) fun shape shaped => ?_
      · rw [Option.elim_some, shaped]
      · rw [Option.elim_some, shaped]
        dsimp only
        cases registry.registerInterface policy name shape base with
        | error violation => exact .refuse same _
        | ok admitted =>
          exact .register same (Holdings.shapes?_eq_some.1 held) (by exact rfl) (.shapes _) _ _
            (.give (.plain (.shape _)))
  | registerKind on name kind policy =>
    rw [registryLogs, performOnRegistries, performOnRegistries, holdings]
    cases held : session.holdings.kinds? on with
    | none => exact .refuse same _
    | some registry =>
      dsimp only [Option.elim]
      cases registry.registerType policy name kind with
      | error violation => exact .refuse same _
      | ok admitted =>
        exact .register same (Holdings.kinds?_eq_some.1 held) (by exact rfl) (.kinds _) _ _ .idle
  | registryInfo on name =>
    rw [performOnRegistries, performOnRegistries, holdings]
    split
    · exact .answer same _
    · exact .answer same _
    · exact .refuse same _
  | newShapes => exact .yield same _ (.plain (.shapes _))
  | newKinds => exact .yield same _ (.plain (.kinds _))
  | _ => exact .refuse same _

/-! ### Actions on interfaces and instances -/

/-- An instance gets a new record, or shares the record of its seed. -/
theorem deed_performOnInterface {on : String} {interface : Interface}
    (held : session.holdings.interface? on = some interface) (action : Action)
    (operands : List Value) :
    Deed session action operands none [] (session.performOnInterface interface action operands)
      (other.performOnInterface interface action operands) := by
  obtain ⟨log, listed, mentioned, rfl⟩ := exists_relog same
  unfold performOnInterface
  split
  · exact .accept (by rfl) _ _ (.construct held rfl) .same (.of_log rfl)
  · next seed =>
    unfold World.constructWith
    cases interface.seeds with
    | validate =>
      rw [show (session.relog log listed mentioned).world.store = session.world.store from rfl]
      dsimp only
      cases interface.checkEntries (session.world.store.record seed).entries with
      | error violation => exact .refuse same _
      | ok _ => exact .accept (by rfl) _ _ (.copy held rfl) .same (.of_log rfl)
    | trust =>
      exact .accept (by rfl) _ _ (.give (.shared held List.mem_cons_self)) .same (.of_log rfl)
  · exact .refuse same _

theorem deed_getField (inst : Instance) (on key : String) (operands : List Value) :
    Deed session (.getField on key) operands none (instanceLogs inst (.getField on key) operands)
      (session.performOnInstance inst (.getField on key) operands)
      (other.performOnInstance inst (.getField on key) operands) := by
  obtain ⟨log, listed, mentioned, rfl⟩ := exists_relog same
  cases operands with
  | cons value rest => exact .refuse same _
  | nil =>
    dsimp only [instanceLogs, performOnInstance, World.getField]
    by_cases declared : inst.interface.shape.declares key
    · simp only [if_pos declared]
      exact .yieldValue same (gift_read inst.record key)
    · simp only [if_neg declared]
      exact .reject same _ _ _

/-- A field is written once the value is accepted. -/
theorem deed_setField {inst : Instance} {on : String}
    (held : session.holdings.inst? on = some inst) (key : String) (operands : List Value) :
    Deed session (.setField on key) operands (fieldAssigns inst key operands)
      (instanceLogs inst (.setField on key) operands)
      (session.performOnInstance inst (.setField on key) operands)
      (other.performOnInstance inst (.setField on key) operands) := by
  obtain ⟨log, listed, mentioned, rfl⟩ := exists_relog same
  match operands with
  | [] | _ :: _ :: _ => exact .refuse same _
  | [value] =>
    dsimp only [instanceLogs, fieldAssigns, performOnInstance, World.setField]
    cases inst.interface.check key value with
    | ok _ => exact .accept (by rfl) _ _ (.write held) .same (.of_log rfl)
    | error violation => exact .reject same _ _ _

theorem deed_instanceInfo (inst : Instance) (on : String) (operands : List Value) :
    Deed session (.instanceInfo on) operands none []
      (session.performOnInstance inst (.instanceInfo on) operands)
      (other.performOnInstance inst (.instanceInfo on) operands) := by
  obtain ⟨log, listed, mentioned, rfl⟩ := exists_relog same
  cases operands with
  | nil => exact .answer same _
  | cons value rest => exact .refuse same _

/-! ### Actions on slots -/

theorem deed_performOnSlot {on : String} {slot : Slot} {action : Action}
    (held : session.holdings.slot? on = some slot) (isOn : action.IsOn on (.slot slot))
    (operands : List Value) :
    Deed session action operands none (slotLogs slot action operands)
      (session.performOnSlot on slot action operands)
      (other.performOnSlot on slot action operands) := by
  obtain ⟨log, listed, mentioned, rfl⟩ := exists_relog same
  unfold slotLogs
  split
  · next key =>
    dsimp only [performOnSlot, World.getSlot]
    by_cases named : key = Slot.accessor
    · simp only [if_pos named]
      exact .yieldValue same (.content held)
    · simp only [if_neg named]
      exact .reject same _ _ _
  · next key value =>
    rw [performOnSlot_setSlot, performOnSlot_setSlot]
    cases slot.type.permits key value with
    | ok _ =>
      exact .accept (contents_hold same on _) _ _ .idle (.write held isOn List.mem_cons_self)
        (.of_log rfl)
    | error violation => exact .reject same _ _ _
  · next noRead noWrite =>
    unfold performOnSlot
    split
    · exact absurd rfl (noRead _ _ rfl)
    · exact absurd rfl (noWrite _ _ _ rfl)
    · exact .accept (contents_release same on) _ _ (.give (.content held)) (.take held isOn)
        (.of_log rfl)
    · exact .refuse same _

/-! ### Actions on frozen views and applications -/

/-- A frozen view refuses changes, and logs that. -/
theorem deed_performOnFrozen (view : FrozenView) (action : Action) (operands : List Value) :
    Deed session action operands none (frozenLogs action)
      (session.performOnFrozen view action operands)
      (other.performOnFrozen view action operands) := by
  obtain ⟨log, listed, mentioned, rfl⟩ := exists_relog same
  cases action with
  | changeFrozen on change key => exact .reject same _ _ _
  | getFrozen on key =>
    cases operands with
    | nil => exact .yieldValue same (gift_read view.record key)
    | cons value rest => exact .refuse same _
  | frozenInfo on key =>
    cases operands with
    | nil => exact .answer same _
    | cons value rest => exact .refuse same _
  | _ => exact .refuse same _

theorem deed_apply {on : String} {application : Application}
    (held : session.holdings.application? on = some application) (operands : List Value) :
    Deed session (.apply on) operands
      (session.store.assignedBy Routine.forecast application operands) []
      (session.performOnApplication application (.apply on) operands)
      (other.performOnApplication application (.apply on) operands) := by
  obtain ⟨log, listed, mentioned, rfl⟩ := exists_relog same
  dsimp only [performOnApplication]
  rw [show (session.relog log listed mentioned).store = session.store from rfl]
  rcases given : session.store.apply Routine.bodies application operands with ⟨store, applied⟩
  cases applied with
  | complete value => exact .store same _ _ (.complete held given)
  | incomplete next => exact .store same _ _ (.incomplete held given)

/-! ### All actions -/

/-- **What an action comes to**: a deed that is the same in another session as long as that differs
in the log only. -/
theorem deed_perform (action : Action) (operands : List Value) :
    Deed session action operands (session.actionAssigns action operands)
      (session.actionLogs action operands) (session.perform action operands)
      (other.perform action operands) := by
  obtain ⟨log, listed, mentioned, rfl⟩ := exists_relog same
  cases action with
  | shape | collectShape | declareField | extendShape | lookUpField | sameShape =>
    exact deed_performOnShapes same _ operands
  | newCatalog policy => exact .yield same _ (.plain (.catalog _))
  | defineInterface | defineType | lookUpInterface | lookUpType | lookUpDefinitions | listNames
  | load =>
    exact .withHeldLogging same fun catalog held =>
      deed_performOnCatalog same held (by exact rfl) operands
  | newShapes | newKinds | registerShape | registerKind | registryInfo =>
    exact deed_performOnRegistries same _ operands
  | construct | constructWith =>
    exact .withHeld same fun interface held => deed_performOnInterface same held _ operands
  | getField on key =>
    exact .withHeldLogging same fun inst _ => deed_getField same inst on key operands
  | setField on key =>
    dsimp only [actionAssigns, actionLogs, perform]
    rw [show (session.relog log listed mentioned).holdings = session.holdings from rfl]
    cases held : session.holdings.inst? on with
    | none => exact .refuse same _
    | some inst => exact deed_setField same held key operands
  | instanceInfo on =>
    exact .withHeldLogging same fun inst _ => deed_instanceInfo same inst on operands
  | sameInstance =>
    exact .withHeld same fun left _ => .withHeld same fun right _ => .answer same _
  | newSlot on =>
    refine .withHeld same fun type held => ?_
    split
    · next initial =>
      -- the first value is checked unless seeds are trusted
      have gift (id : InstanceId) : session.Gift [initial] (.slot ⟨id, type, initial⟩) :=
        .slot held List.mem_cons_self
      unfold World.constructSlot
      cases type.seeds with
      | validate =>
        dsimp only
        cases type.check initial with
        | error violation => exact .refuse same _
        | ok _ => exact .accept (by rfl) _ _ (.give (gift _)) .same (.of_log rfl)
      | trust => exact .accept (by rfl) _ _ (.give (gift _)) .same (.of_log rfl)
    · exact .refuse same _
  | getSlot | setSlot | takeSlot =>
    exact .withHeldLogging same fun slot held =>
      deed_performOnSlot same held (by exact rfl) operands
  | freeze =>
    unfold perform
    dsimp only
    split
    · exact .yield same _ (.view List.mem_cons_self)
    · exact .refuse same _
  | getFrozen | changeFrozen | frozenInfo =>
    exact .withHeldLogging same fun view _ => deed_performOnFrozen same view _ operands
  | curry =>
    unfold perform
    dsimp only
    split
    · exact .describe same (.application List.mem_cons_self) _
    · exact .refuse same _
  | apply on =>
    exact .withHeldAssigning same fun application held => deed_apply same held operands
  | applyToValue on =>
    exact .withHeldAssigning same fun application held => .store same _ _ (.applyToValue held rfl)
  | toFunction on =>
    exact .withHeld same fun application held => .store same _ _ (.toFunction held)
  | _ => exact deed_performOnValues same _ operands

/-- **Actions**: what they do does not depend on the log, and what is refused only adds to it. -/
theorem parallel_perform (action : Action) (operands : List Value) :
    Parallel action session (session.perform action operands) (other.perform action operands) :=
  (deed_perform same action operands).parallel

end

section

variable (session : Session) (action : Action) (operands : List Value)

/-- What an action does to the store, and what it gives. -/
theorem works_perform :
    session.Works action operands (session.actionAssigns action operands)
      (session.perform action operands).session.store (session.perform action operands).result? :=
  (session.deed_perform rfl action operands).works

/-- What it does with what is held. -/
theorem arranges_perform :
    session.Arranges action operands (session.perform action operands).session.holdings :=
  (session.deed_perform rfl action operands).arranges

/-- It adds to the log what was foretold. -/
theorem adds_perform :
    Adds session (session.actionLogs action operands) (session.perform action operands).session :=
  (session.deed_perform rfl action operands).adds

end

/-! ### Steps -/

variable {step : Step} {store : Store} {operands : List Value}

/-- A step without operands that it could use changes nothing. -/
theorem run_of_none
    (h : session.holdings.evaluateItems session.store step.operands = none) :
    session.run step = (session, ⟨.error .misuse, none⟩) := by
  rw [run, h]

/-- Otherwise it does its action, and holds the result if there is one. -/
theorem run_of_some
    (h : session.holdings.evaluateItems session.store step.operands = some (store, operands)) :
    (session.run step).1 =
        (match ((session.withStore store).perform step.action operands).outcome, step.into with
        | .ok (_, some result), some name =>
            ((session.withStore store).perform step.action operands).session.hold name result
        | _, _ => ((session.withStore store).perform step.action operands).session) ∧
      (session.run step).2.outcome =
        ((session.withStore store).perform step.action operands).outcome.map Prod.fst := by
  rw [run, h]
  dsimp only
  cases ((session.withStore store).perform step.action operands).outcome with
  | error refusal => exact ⟨rfl, rfl⟩
  | ok outcome =>
    obtain ⟨answer, result⟩ := outcome
    cases result <;> cases step.into <;> exact ⟨rfl, rfl⟩

theorem store_run (evaluated : session.holdings.evaluateItems session.store step.operands =
      some (store, operands)) :
    (session.run step).1.store =
      ((session.withStore store).perform step.action operands).session.store := by
  rw [(run_of_some evaluated).1]
  split <;> rfl

/-- What a step leaves behind is what its action does. -/
theorem remains_run (evaluated : session.holdings.evaluateItems session.store step.operands =
      some (store, operands)) :
    (session.run step).2.remains =
      ((session.withStore store).perform step.action operands).remains := by
  rw [run, evaluated]
  dsimp only
  split <;> rfl

/-- What an action gives is what its step answers, and what can be held of it. -/
theorem run_of_outcome {shown : Answer × Option Holding}
    (evaluated : session.holdings.evaluateItems session.store step.operands =
      some (store, operands))
    (outcome : ((session.withStore store).perform step.action operands).outcome = .ok shown) :
    (session.run step).2.outcome = .ok shown.1 ∧
      ∀ name result, step.into = some name → shown.2 = some result →
        (session.run step).1.holdings.get? name = some result := by
  obtain ⟨after, replied⟩ := run_of_some evaluated
  refine ⟨by rw [replied, outcome]; rfl, fun name result into given => ?_⟩
  obtain ⟨answer, held⟩ := shown
  cases given
  rw [after, outcome, into]
  exact Dict.get?_insert_self ..

/-! ### Runs -/

/-- The session after steps in turn. -/
def runSteps (session : Session) (steps : List Step) : Session :=
  steps.foldl (fun session step => (session.run step).1) session

theorem runSteps_append (session : Session) (front rest : List Step) :
    session.runSteps (front ++ rest) = (session.runSteps front).runSteps rest :=
  List.foldl_append

/-- What a step logs. -/
def logs (session : Session) (step : Step) : List Event :=
  (session.holdings.evaluateItems session.store step.operands).elim [] fun evaluated =>
    (session.withStore evaluated.1).actionLogs step.action evaluated.2

/-- What steps log in turn. -/
def logged (session : Session) : List Step → List Event
  | [] => []
  | step :: rest => session.logs step ++ (session.run step).1.logged rest

/-- **One step** adds to the log what was foretold. -/
theorem log_run (session : Session) (step : Step) :
    Adds session (session.logs step) (session.run step).1 := by
  unfold logs
  cases evaluated : session.holdings.evaluateItems session.store step.operands with
  | none =>
    rw [run_of_none evaluated]
    exact .refl session
  | some result =>
    obtain ⟨store, operands⟩ := result
    have done := (session.withStore store).adds_perform step.action operands
    rw [(run_of_some evaluated).1]
    split <;> exact done

/-- **Steps in turn** log one after the other. -/
theorem log_runSteps (session : Session) (steps : List Step) :
    Adds session (session.logged steps) (session.runSteps steps) := by
  induction steps generalizing session with
  | nil => exact .refl session
  | cons step rest ih =>
    have later := ih (session.run step).1
    unfold Adds at later
    rw [session.log_run step, List.append_assoc] at later
    exact later

end Session

end Contracts
