import Contracts.Proofs.Session.OwnRecord

/-!
# What is held and never changes

A catalog, a registry, a shape and a slot are changed where they are held.  All the rest is
**lasting**: a value, an interface, a slot type, an instance, a frozen view or an application
is held as it is until something else is held under its name, whatever becomes of the records
and arrays, of the catalog that it came from, and of the name it was registered under there.

## Main definitions

* `Holding.IsLasting` — what is not changed where it is held.

## Main results

* `Session.get?_perform` — an action changes nothing but what it is done on.
* `Session.get?_run_of_not_isOn` — neither does a step, apart from holding its result.
* `Session.get?_runSteps` — **what is lasting stays as it is held.**
-/

namespace Contracts

/-- Whether something is not changed where it is held. -/
def Holding.IsLasting : Holding → Prop
  | .shape _ | .catalog _ | .shapes _ | .kinds _ | .slot _ => False
  | _ => True

/-- No action is done on what is lasting, in this sense. -/
theorem Holding.IsLasting.not_isOn {holding : Holding} (lasting : holding.IsLasting)
    (name : String) (action : Action) : ¬ action.IsOn name holding := by
  unfold Action.IsOn
  split
  all_goals first | exact fun _ => lasting | exact id

namespace Session

variable {session : Session} {name : String} {holding : Holding}

/-- A value that is held is an operand as it is. -/
theorem evaluateItems_held {holdings : Holdings} {store : Store} {value : Value}
    (found : holdings.value? name = some value) :
    holdings.evaluateItems store [.held name] = some (store, [value]) := by
  simp only [Holdings.evaluateItems, Holdings.evaluate, found, Option.bind_eq_bind,
    Option.bind_some, Option.pure_def]

/-! ### Names that are held anew -/

/-- Something else is held under another name. -/
theorem get?_hold_of_ne (session : Session) (holding : Holding) {on : String} (other : name ≠ on) :
    (session.hold on holding).holdings.get? name = session.holdings.get? name := by
  show (session.holdings.insert on holding).get? name = _
  rw [Dict.get?_insert, if_neg other]

/-- **Actions** change nothing that is held but what they are done on. -/
theorem get?_perform {action : Action}
    (apart : ∀ found, session.holdings.get? name = some found → ¬ action.IsOn name found)
    (operands : List Value) :
    (session.perform action operands).session.holdings.get? name =
      session.holdings.get? name :=
  (session.arranges_perform action operands).get?_of_not_isOn apart

/-! ### Steps and runs -/

variable {step : Step}

/-- What is held after a step is what its action leaves, apart from its result. -/
theorem get?_run_of_some {store : Store} {operands : List Value}
    (evaluated : session.holdings.evaluateItems session.store step.operands =
      some (store, operands)) (unnamed : step.into ≠ some name) :
    (session.run step).1.holdings.get? name =
      ((session.withStore store).perform step.action operands).session.holdings.get? name := by
  rw [(run_of_some evaluated).1]
  split
  · next into _ named =>
    refine get?_hold_of_ne _ _ ?_
    rintro rfl
    exact unnamed named
  · rfl

/-- **One step** changes nothing that is held but what it is done on, unless its result is
held under the name. -/
theorem get?_run_of_not_isOn (unnamed : step.into ≠ some name)
    (apart : ∀ found, session.holdings.get? name = some found → ¬ step.action.IsOn name found) :
    (session.run step).1.holdings.get? name = session.holdings.get? name := by
  cases evaluated : session.holdings.evaluateItems session.store step.operands with
  | none => rw [run_of_none evaluated]
  | some result =>
    obtain ⟨store, operands⟩ := result
    have apart' : ∀ found, (session.withStore store).holdings.get? name = some found →
        ¬ step.action.IsOn name found := apart
    rw [get?_run_of_some evaluated unnamed, get?_perform apart' operands]
    rfl

section

variable (held : session.holdings.get? name = some holding) (lasting : holding.IsLasting)
include held lasting

/-- What is lasting is held as before after a step, unless its result is held under the
name. -/
theorem get?_run (unnamed : step.into ≠ some name) :
    (session.run step).1.holdings.get? name = some holding := by
  rw [get?_run_of_not_isOn unnamed, held]
  intro found held'
  cases held.symm.trans held'
  exact lasting.not_isOn name step.action

/-- **Runs**: what is lasting stays as it is held until something else is held under its
name. -/
theorem get?_runSteps {steps : List Step} (unnamed : ∀ step ∈ steps, step.into ≠ some name) :
    (session.runSteps steps).holdings.get? name = some holding := by
  induction steps generalizing session with
  | nil => exact held
  | cons step rest ih =>
    rw [List.forall_mem_cons] at unnamed
    exact ih (get?_run held lasting unnamed.1) unnamed.2

end

end Session

end Contracts
