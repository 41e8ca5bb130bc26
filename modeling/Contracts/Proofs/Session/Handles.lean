import Contracts.Proofs.Session.OwnRecord

/-!
# Handles on one record

A record is reached through its name, which any number of values can carry, through
instances of interfaces that took it for their own on trust, and through frozen views.
None of them keeps a copy.  Whatever a session does, what is read of the record through any
of them comes from the same entries, and those are the entries of the record at the start
with the assignments that the steps made to it, one over the other.

## Main definitions

* `Session.assignment`, `Session.assignments` — the assignments that steps make.
* `Session.Reads` — a step reads a record through a handle.

## Main results

* `Session.becomes_perform` — **one action** makes the assignment that was foretold.
* `Session.becomes_run`, `Session.becomes_runSteps` — so do steps, one by one and in turn.
* `Session.outcome_of_reads` — a handle shows the entries of the record.
* `Session.reads_eq_assignments` — **all handles agree, and show what was assigned last.**
-/

namespace Contracts

/-! ### Evaluating operands -/

namespace Holdings

variable {holdings : Holdings}

mutual

/-- Evaluating an expression changes no record. -/
theorem becomes_evaluate {store : Store} {expression : Expression} {result : Store × Value}
    (found : holdings.evaluate store expression = some result) :
    Store.Becomes none store result.1 := by
  cases expression with
  | array items =>
    simp only [evaluate, Option.bind_eq_bind, Option.bind_eq_some_iff] at found
    obtain ⟨⟨next, values⟩, evaluated, made⟩ := found
    cases made
    exact (becomes_evaluateItems evaluated).then_none (.of_records rfl)
  | record entries =>
    simp only [evaluate, Option.bind_eq_bind, Option.bind_eq_some_iff] at found
    obtain ⟨⟨next, values⟩, evaluated, made⟩ := found
    cases made
    exact (becomes_evaluateEntries evaluated).then_none (Store.becomes_newRecord _ _)
  | json json =>
    cases found
    exact store.becomes_addJson json
  | function name arity routine =>
    cases found
    exact .of_records rfl
  | held name =>
    simp only [evaluate, Option.bind_eq_bind, Option.bind_eq_some_iff] at found
    obtain ⟨value, named, made⟩ := found
    cases made
    exact .refl store
  | _ => cases found; exact .refl store

theorem becomes_evaluateItems {store : Store} {items : List Expression}
    {result : Store × List Value} (found : holdings.evaluateItems store items = some result) :
    Store.Becomes none store result.1 := by
  cases items with
  | nil => cases found; exact .refl store
  | cons item rest =>
    simp only [evaluateItems, Option.bind_eq_bind, Option.bind_eq_some_iff] at found
    obtain ⟨⟨next, value⟩, evaluated, ⟨last, values⟩, evaluated', made⟩ := found
    cases made
    have first := becomes_evaluate evaluated
    have others := becomes_evaluateItems evaluated'
    exact first.then_none others

theorem becomes_evaluateEntries {store : Store} {entries : List (String × Expression)}
    {result : Store × List (String × Value)}
    (found : holdings.evaluateEntries store entries = some result) :
    Store.Becomes none store result.1 := by
  cases entries with
  | nil => cases found; exact .refl store
  | cons entry rest =>
    obtain ⟨key, expression⟩ := entry
    simp only [evaluateEntries, Option.bind_eq_bind, Option.bind_eq_some_iff] at found
    obtain ⟨⟨next, value⟩, evaluated, ⟨last, values⟩, evaluated', made⟩ := found
    cases made
    have first := becomes_evaluate evaluated
    have others := becomes_evaluateEntries evaluated'
    exact first.then_none others

end

end Holdings

namespace Session

variable {session : Session} {step : Step} {id : RecordId}

/-! ### Actions -/

/-- What is done to the store makes the assignment that goes with it. -/
theorem becomes_of_works {action : Action} {operands : List Value}
    {assigned : Option Assignment} {store : Store} {result : Option Holding}
    (works : session.Works action operands assigned store result) :
    Store.Becomes assigned session.store store := by
  cases works with
  | idle | give => exact .refl _
  | newRecord | construct | copy => exact session.store.becomes_newRecord _
  | newArray | push | toFunction => exact .of_records rfl
  | insert id key value => exact session.store.becomes_insert id key value
  | remove id key => exact session.store.becomes_remove id key
  | call f arguments => exact Store.becomes_call Routine.keep_forecast session.store f arguments
  | write => exact session.store.becomes_insert _ _ _
  | @complete _ application _ _ _ _ applied | @incomplete _ application _ _ _ _ applied =>
    have given := Store.becomes_apply Routine.keep_forecast session.store application operands
    rw [applied] at given
    exact given
  | @applyToValue _ application _ _ _ _ applied =>
    have given := Store.becomes_apply Routine.keep_forecast session.store application operands
    rw [applied] at given
    exact given.then_none (Store.becomes_toValue _ _)

/-- **One action** makes the assignment that was foretold. -/
theorem becomes_perform (session : Session) (action : Action) (operands : List Value) :
    Store.Becomes (session.actionAssigns action operands) session.store
      (session.perform action operands).session.store :=
  becomes_of_works (session.works_perform action operands)

/-! ### Steps -/

/-- The assignment that a step makes, if it makes one. -/
def assignment (session : Session) (step : Step) : Option Assignment :=
  (session.holdings.evaluateItems session.store step.operands).bind fun evaluated =>
    (session.withStore evaluated.1).actionAssigns step.action evaluated.2

/-- The assignments that steps make in turn. -/
def assignments (session : Session) : List Step → List Assignment
  | [] => []
  | step :: rest =>
      (session.assignment step).toList ++ (session.run step).1.assignments rest

/-- **One step** makes the assignment that was foretold. -/
theorem becomes_run (session : Session) (step : Step) :
    Store.Becomes (session.assignment step) session.store (session.run step).1.store := by
  unfold assignment
  cases evaluated : session.holdings.evaluateItems session.store step.operands with
  | none =>
    rw [run_of_none evaluated]
    exact .refl _
  | some result =>
    obtain ⟨store, operands⟩ := result
    rw [store_run evaluated]
    have made := Holdings.becomes_evaluateItems evaluated
    exact made.after_none ((session.withStore store).becomes_perform step.action operands)

/-- **Steps in turn** make their assignments one after the other. -/
theorem becomes_runSteps (made : session.store.HasRecord id) (steps : List Step) :
    (session.runSteps steps).store.HasRecord id ∧
      (session.runSteps steps).store.record id =
        (session.assignments steps).foldl (Assignment.on id) (session.store.record id) := by
  induction steps generalizing session with
  | nil => exact ⟨made, rfl⟩
  | cons step rest ih =>
    obtain ⟨made', changed⟩ := session.becomes_run step id made
    obtain ⟨made'', changed'⟩ := ih made'
    refine ⟨made'', ?_⟩
    rw [assignments, List.foldl_append, ← changed]
    exact changed'

/-! ### Reading -/

/-- What a step shows of a record: the answer, and what it gives to be held. -/
abbrev View := Dict Value → Answer × Option Holding

/-- A step reads a record through a handle on it, and shows its entries in a certain way. -/
inductive Reads (session : Session) (id : RecordId) (step : Step) : View → Prop
  /-- It reads an entry through the name of the record. -/
  | entry {key : String} {store : Store} (action : step.action = .getEntry key)
      (operands : session.holdings.evaluateItems session.store step.operands =
        some (store, [.record id])) :
      Reads session id step fun entries =>
        (.maybe ((entries.get? key).map store.unfold), (entries.get? key).map .value)
  /-- It reads a declared field through an instance. -/
  | field {on key : String} {store : Store} {inst : Instance}
      (action : step.action = .getField on key)
      (held : session.holdings.inst? on = some inst) (shares : inst.record = id)
      (declared : inst.interface.shape.declares key = true)
      (operands : session.holdings.evaluateItems session.store step.operands = some (store, [])) :
      Reads session id step fun entries =>
        let value := (entries.get? key).getD .undefined
        (.value (store.unfold value), some (.value value))
  /-- It reads an entry through a frozen view. -/
  | frozen {on key : String} {store : Store} {view : FrozenView}
      (action : step.action = .getFrozen on key)
      (held : session.holdings.frozen? on = some view) (shares : view.record = id)
      (operands : session.holdings.evaluateItems session.store step.operands = some (store, [])) :
      Reads session id step fun entries =>
        let value := (entries.get? key).getD .undefined
        (.value (store.unfold value), some (.value value))
  /-- It lists the entries through the name of the record, and asks for a key. -/
  | record {key : String} {store : Store} (action : step.action = .recordInfo key)
      (operands : session.holdings.evaluateItems session.store step.operands =
        some (store, [.record id])) :
      Reads session id step fun entries =>
        (.record (entries.entries.map fun entry => (entry.1, store.unfold entry.2))
          (entries.contains key), none)
  /-- It lists the entries through an instance. -/
  | inst {on : String} {store : Store} {inst : Instance}
      (action : step.action = .instanceInfo on)
      (held : session.holdings.inst? on = some inst) (shares : inst.record = id)
      (operands : session.holdings.evaluateItems session.store step.operands = some (store, [])) :
      Reads session id step fun entries =>
        (.instanceInfo inst.interface
          (entries.entries.map fun entry => (entry.1, store.unfold entry.2))
          (store.toJson (.record id)).print, none)
  /-- It lists the keys through a frozen view, and asks for one. -/
  | keys {on key : String} {store : Store} {view : FrozenView}
      (action : step.action = .frozenInfo on key)
      (held : session.holdings.frozen? on = some view) (shares : view.record = id)
      (operands : session.holdings.evaluateItems session.store step.operands = some (store, [])) :
      Reads session id step fun entries =>
        (.frozenInfo entries.keys (entries.contains key), none)

/-- **A handle shows the entries of the record**, and what it gives can be held. -/
theorem outcome_of_reads (made : session.store.HasRecord id) {view : View}
    (reads : session.Reads id step view) :
    (session.run step).2.outcome = .ok (view (session.store.record id)).1 ∧
      ∀ name result, step.into = some name → (view (session.store.record id)).2 = some result →
        (session.run step).1.holdings.get? name = some result := by
  -- evaluating the operands leaves the record as it is
  have same {store : Store} {operands : List Value}
      (evaluated : session.holdings.evaluateItems session.store step.operands =
        some (store, operands)) : session.store.record id = store.record id :=
    (Holdings.becomes_evaluateItems evaluated id made).2.symm
  cases reads with
  | entry action operands =>
    rw [same operands]
    refine run_of_outcome operands ?_
    rw [action]
    rfl
  | @field on key store inst action held shares declared operands =>
    rw [same operands, ← shares]
    refine run_of_outcome operands ?_
    rw [action]
    show ((session.withStore store).withHeld (session.holdings.inst? on) _).outcome = _
    rw [held]
    simp only [withHeld, performOnInstance, World.getField, if_pos declared]
    rfl
  | @frozen on key store view action held shares operands =>
    rw [same operands, ← shares]
    refine run_of_outcome operands ?_
    rw [action]
    show ((session.withStore store).withHeld (session.holdings.frozen? on) _).outcome = _
    rw [held]
    rfl
  | record action operands =>
    rw [same operands]
    refine run_of_outcome operands ?_
    rw [action]
    rfl
  | @inst on store inst action held shares operands =>
    rw [same operands, ← shares]
    refine run_of_outcome operands ?_
    rw [action]
    show ((session.withStore store).withHeld (session.holdings.inst? on) _).outcome = _
    rw [held]
    rfl
  | @keys on key store view action held shares operands =>
    rw [same operands, ← shares]
    refine run_of_outcome operands ?_
    rw [action]
    show ((session.withStore store).withHeld (session.holdings.frozen? on) _).outcome = _
    rw [held]
    rfl

/-! ### Handles -/

/-- A change through a frozen view is refused, and assigns nothing. -/
theorem run_changeFrozen {on key : String} {change : Change} {view : FrozenView} {store : Store}
    {operands : List Value} (action : step.action = .changeFrozen on change key)
    (held : session.holdings.frozen? on = some view)
    (evaluated : session.holdings.evaluateItems session.store step.operands =
      some (store, operands)) :
    (session.run step).2.outcome = .error (.violation (.frozen change key)) ∧
      session.assignment step = none := by
  constructor
  · rw [(run_of_some evaluated).2, action]
    show (((session.withStore store).withHeld (session.holdings.frozen? on) _).outcome).map _ = _
    rw [held]
    rfl
  · rw [assignment, evaluated, action]
    rfl

/-- An instance that is made on trust takes the record of its seed for its own. -/
theorem run_constructWith_trust {on name : String} {interface : Interface} {store : Store}
    (action : step.action = .constructWith on)
    (held : session.holdings.interface? on = some interface) (trusts : interface.seeds = .trust)
    (evaluated : session.holdings.evaluateItems session.store step.operands =
      some (store, [.record id])) (into : step.into = some name) :
    ∃ inst, (session.run step).1.holdings.inst? name = some inst ∧ inst.interface = interface ∧
      inst.record = id := by
  have made : (session.withStore store).world.constructWith interface id =
      .ok ((session.withStore store).world.bind interface id) := by
    rw [World.constructWith, trusts]
  let inst := ((session.withStore store).world.bind interface id).2
  have outcome : ((session.withStore store).perform step.action [.record id]).outcome =
      .ok (.inst interface ((session.withStore store).entries id), some (.inst inst)) := by
    rw [action]
    show ((session.withStore store).withHeld (session.holdings.interface? on) _).outcome = _
    rw [held]
    simp only [withHeld, performOnInterface, made]
    rfl
  refine ⟨inst, ?_, rfl, rfl⟩
  rw [Holdings.inst?, (run_of_outcome evaluated outcome).2 name _ into rfl]

/-- A frozen view is of the record that it was made of. -/
theorem run_freeze {name : String} {store : Store} (action : step.action = .freeze)
    (evaluated : session.holdings.evaluateItems session.store step.operands =
      some (store, [.record id])) (into : step.into = some name) :
    (session.run step).1.holdings.frozen? name = some ⟨id⟩ := by
  have outcome : ((session.withStore store).perform step.action [.record id]).outcome =
      .ok (.frozen (store.record id).keys, some (.frozen ⟨id⟩)) := by
    rw [action]
    rfl
  rw [Holdings.frozen?, (run_of_outcome evaluated outcome).2 name _ into rfl]

/-- **The main theorem**: at any time, every handle on a record shows the same entries, and
each entry is as it was assigned last, or else as it was at the start.  Instances that are
made on trust and frozen views are handles on the record they were made of, and a change
through a frozen view is refused and changes no record. -/
theorem reads_eq_assignments (made : session.store.HasRecord id) (steps : List Step) :
    let after := session.runSteps steps
    let assignments := session.assignments steps
    let entries := assignments.foldl (Assignment.on id) (session.store.record id)
    (∀ key, entries.get? key =
        (Assignment.last? id key assignments).getD ((session.store.record id).get? key)) ∧
      (∀ step view, after.Reads id step view →
        (after.run step).2.outcome = .ok (view entries).1 ∧
          ∀ name result, step.into = some name → (view entries).2 = some result →
            (after.run step).1.holdings.get? name = some result) ∧
      (∀ step on change key view evaluated, step.action = .changeFrozen on change key →
        after.holdings.frozen? on = some view →
        after.holdings.evaluateItems after.store step.operands = some evaluated →
        (after.run step).2.outcome = .error (.violation (.frozen change key)) ∧
          ∀ other, after.store.HasRecord other →
            (after.run step).1.store.record other = after.store.record other) ∧
      (∀ step on name interface store, step.action = .constructWith on →
        after.holdings.interface? on = some interface → interface.seeds = .trust →
        after.holdings.evaluateItems after.store step.operands = some (store, [.record id]) →
        step.into = some name →
        ∃ inst, (after.run step).1.holdings.inst? name = some inst ∧
          inst.interface = interface ∧ inst.record = id) ∧
      ∀ step name store, step.action = .freeze →
        after.holdings.evaluateItems after.store step.operands = some (store, [.record id]) →
        step.into = some name → (after.run step).1.holdings.frozen? name = some ⟨id⟩ := by
  intro after assignments entries
  obtain ⟨made', changed⟩ := becomes_runSteps made steps
  have same : after.store.record id = entries := changed
  refine ⟨Assignment.get?_foldl_on id _ assignments, fun step view reads => ?_, ?_, ?_, ?_⟩
  · rw [← same]
    exact outcome_of_reads made' reads
  · intro step on change key view evaluated action held operands
    obtain ⟨refused, nothing⟩ := run_changeFrozen action held operands
    refine ⟨refused, fun other there => ?_⟩
    rw [(after.becomes_run step other there).2, nothing]
    rfl
  · intro step on name interface store action held trusts operands into
    exact run_constructWith_trust action held trusts operands into
  · intro step name store action operands into
    exact run_freeze action operands into

/-- A record that an instance shares on trust and that is frozen as well: what is written
through one handle is read through another. -/
theorem reads_eq_assignments_shared :
    let session := (start 0).runSteps
      [⟨.newCatalog ⟨.trust, .replace⟩, [], some "k"⟩,
        ⟨.defineInterface "k" "P" (.declared [("a", none)]) none, [], some "P"⟩,
        ⟨.newRecord, [], some "r"⟩]
    let steps : List Step :=
      [⟨.constructWith "P", [.held "r"], some "p"⟩,
        ⟨.freeze, [.held "r"], some "f"⟩,
        ⟨.insertEntry "b", [.held "r", .boolean true], none⟩,
        ⟨.setField "p" "a", [.string "x"], none⟩,
        ⟨.changeFrozen "f" .write "a", [.string "y"], none⟩,
        ⟨.removeEntry "b", [.held "r"], none⟩]
    session.store.HasRecord ⟨0⟩ ∧
      ((session.runSteps steps).run ⟨.getFrozen "f" "a", [], none⟩).2.outcome =
        .ok (.value (.string "x")) ∧
      ((session.runSteps steps).run ⟨.getEntry "b", [.held "r"], none⟩).2.outcome =
        .ok (.maybe none) ∧
      ((session.runSteps steps).run ⟨.frozenInfo "f" "b", [], none⟩).2.outcome =
        .ok (.frozenInfo ["a"] false) := by
  intro session steps
  have made : session.store.HasRecord ⟨0⟩ := by decide
  have held : (session.runSteps steps).holdings.frozen? "f" = some ⟨⟨0⟩⟩ := by
    dsimp only [steps, session]
    rfl
  have named : (session.runSteps steps).holdings.evaluateItems (session.runSteps steps).store
      [.held "r"] = some ((session.runSteps steps).store, [.record ⟨0⟩]) := by
    dsimp only [steps, session]
    rfl
  have entries : (session.assignments steps).foldl (Assignment.on ⟨0⟩)
      (session.store.record ⟨0⟩) = .ofList [("a", .string "x")] := by
    dsimp only [steps, session]
    rfl
  obtain ⟨_, shown, _⟩ := reads_eq_assignments made steps
  rw [entries] at shown
  have throughView := shown ⟨.getFrozen "f" "a", [], none⟩ _ (.frozen rfl held rfl rfl)
  have throughName := shown ⟨.getEntry "b", [.held "r"], none⟩ _ (.entry rfl named)
  have listed := shown ⟨.frozenInfo "f" "b", [], none⟩ _ (.keys rfl held rfl rfl)
  have x : (Dict.ofList [("a", Value.string "x")]).get? "a" = some (.string "x") := by rfl
  have gone : (Dict.ofList [("a", Value.string "x")]).get? "b" = none := by rfl
  refine ⟨made, throughView.1.trans ?_, throughName.1.trans ?_, listed.1⟩
  · simp only [x, Option.getD_some, Store.unfold, Store.unfoldWithin]
  · simp only [gone, Option.map_none]

end Session

end Contracts
