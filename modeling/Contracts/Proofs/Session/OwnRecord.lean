import Contracts.Proofs.Session.Custody

/-!
# The record of an instance

An instance that is made without a seed, or from a validated one, has a record of its
own.  Whatever a session does from then on, the entries of that record are those that the
instance was made with, overwritten in turn by the writes of its fields that were
accepted.  It does not matter what is done with the seed, with records and arrays, with
other instances, frozen views and functions, or with the name of the interface.

The functions that a session makes have the bodies of `Routine.bodies`.  What any other body
does, it does by the same operations on records, instances and arrays, which are steps of a
session of their own.

## Main definitions

* `Session.Founds` — a step makes an instance with a record of its own.
* `Session.acceptedWrites` — the writes of fields that were accepted.

## Main results

* `Session.Founds.keeps` — nothing leads to the record of an instance just made.
* `Session.run_setField_eq` — all that a write of a field does.
* `Session.keeps_run` — **one step**: it stays so, and the record has changed by the write
  that was accepted, if there was one.
* `Session.record_eq_acceptedWrites` — **the record of an instance is made of its writes.**
-/

namespace Contracts

namespace Session

/-! ### Runs -/

/-- A step makes an instance of an interface with a record of its own, which has certain
entries. -/
inductive Founds (session : Session) (step : Step) :
    Interface → Instance → Dict Value → Prop
  /-- It is made without a seed. -/
  | construct {on : String} {interface : Interface} {store : Store} :
      step.action = .construct on →
      session.holdings.interface? on = some interface →
      session.holdings.evaluateItems session.store step.operands = some (store, []) →
      Founds session step interface ((session.withStore store).world.construct interface).2
        .empty
  /-- It is made from a seed that is validated, and has what the seed had. -/
  | constructWith {on : String} {interface : Interface} {store : Store} {seed : RecordId}
      {world : World} {inst : Instance} :
      step.action = .constructWith on →
      session.holdings.interface? on = some interface →
      interface.seeds = .validate →
      session.holdings.evaluateItems session.store step.operands =
        some (store, [.record seed]) →
      (session.withStore store).world.constructWith interface seed = .ok (world, inst) →
      Founds session step interface inst (store.record seed)

/-- What a step wrote to a field of an instance, if it did and was not refused. -/
def acceptedWrite (session : Session) (inst : Instance) (step : Step) :
    Option (String × Value) :=
  match step.action, session.holdings.evaluateItems session.store step.operands,
      (session.run step).2.outcome with
  | .setField on key, some (_, [value]), .ok _ =>
      if session.holdings.inst? on = some inst then some (key, value) else none
  | _, _, _ => none

/-- What steps wrote to fields of an instance, in order. -/
def acceptedWrites (session : Session) (inst : Instance) : List Step → List (String × Value)
  | [] => []
  | step :: rest =>
      (session.acceptedWrite inst step).toList ++ (session.run step).1.acceptedWrites inst rest

variable {session : Session} {step : Step} {interface : Interface} {inst : Instance}
  {entries : Dict Value}

/-! ### Before there is the instance -/

/-- Where no instance is set apart, no record is hidden. -/
theorem keeps_start (series : Nat) : (start series).Keeps fun _ => False where
  secludes :=
    { made := fun _ ⟨_, wrong, _⟩ => wrong.elim
      records := fun _ _ _ found => nomatch found
      arrays := fun _ _ member => nomatch member }
  guards _ _ held := nomatch held

/-- So it stays, whatever is done. -/
theorem keeps_runSteps_of_none (h : session.Keeps fun _ => False) (steps : List Step) :
    (session.runSteps steps).Keeps fun _ => False := by
  induction steps generalizing session with
  | nil => exact h
  | cons step rest ih =>
    have moved := moves_run h step fun _ _ _ _ _ wrong => wrong
    exact ih moved.keeps

/-! ### Making the instance -/

theorem hidden_eq_iff (inst : Instance) (container : Container) :
    Instance.Hidden (· = inst) container ↔ container = .record inst.record := by
  constructor
  · rintro ⟨_, rfl, rfl⟩
    rfl
  · rintro rfl
    exact ⟨inst, rfl, rfl⟩

/-- Once a record is made for an instance, and given to it alone, it can be set apart. -/
theorem keeps_of_newRecord (h : session.Keeps fun _ => False) {world : World}
    (within : ∀ key value, entries.get? key = some value →
      value.Within (session.store.Visible (Instance.Hidden fun _ => False)))
    (store : world.store = (session.store.newRecord entries).1)
    (record : inst.record = (session.store.newRecord entries).2) :
    (session.withWorld world).Keeps (· = inst) ∧
      (session.withWorld world).store.record inst.record = entries := by
  have only : ∀ container, Instance.Hidden (· = inst) container ↔
      container = .record (session.store.newRecord entries).2 := by
    intro container
    rw [hidden_eq_iff, record]
  obtain ⟨secludes, visible⟩ := h.secludes.conceal within only
  rw [← store] at secludes visible
  refine ⟨⟨secludes, fun name holding held => ?_⟩, ?_⟩
  · exact (h.guards name holding held).of_visible (fun _ wrong => wrong.elim) visible
  · show world.store.record inst.record = entries
    rw [store, record, Store.record_newRecord, if_pos rfl]

/-- What a step does that makes an instance with a record of its own. -/
theorem Founds.performed (founds : session.Founds step interface inst entries) :
    ∃ store operands world answer,
      session.holdings.evaluateItems session.store step.operands = some (store, operands) ∧
      (session.withStore store).perform step.action operands =
        ((session.withStore store).withWorld world).yield answer (.inst inst) ∧
      world.store = (store.newRecord entries).1 ∧ inst.record = (store.newRecord entries).2 ∧
      inst.interface = interface ∧ interface.Admits entries ∧
      (entries = .empty ∨ ∃ seed, entries = store.record seed) := by
  cases founds with
  | @construct on _ store action held evaluated =>
    have performed : (session.withStore store).perform step.action [] =
        (session.withStore store).performOnInterface interface (.construct on) [] := by
      rw [action]
      show (session.withStore store).withHeld (session.holdings.interface? on) _ = _
      rw [held]
      rfl
    exact ⟨store, [], _, _, evaluated, performed, rfl, rfl, rfl, Interface.admits_empty, .inl rfl⟩
  | @constructWith on _ store seed world _ action held validates evaluated made =>
    obtain ⟨same, ⟨_, admitted, next, record⟩ | ⟨trusts, _, _⟩⟩ :=
      World.constructWith_eq_ok made
    · refine ⟨store, [.record seed], world, .inst interface
        (((session.withStore store).withWorld world).entries inst.record), evaluated, ?_, next,
        record, same, admitted, .inr ⟨seed, rfl⟩⟩
      rw [action]
      show (session.withStore store).withHeld (session.holdings.interface? on) _ = _
      rw [held]
      simp only [withHeld, performOnInterface, made]
    · rw [validates] at trusts
      cases trusts

/-- What a step has that makes an instance of its own: the instance as its result, the
interface as it was, and nothing that leads to the record. -/
theorem Founds.keeps (founds : session.Founds step interface inst entries)
    (h : session.Keeps fun _ => False) :
    inst.interface = interface ∧ interface.Admits entries ∧
      (session.run step).1.Keeps (· = inst) ∧
      (session.run step).1.store.record inst.record = entries := by
  obtain ⟨store, operands, world, answer, evaluated, performed, made, record, same, admitted,
    origin⟩ := founds.performed
  have before : (session.withStore store).Keeps fun _ => False :=
    (Moves.withStore h (respects_operands h evaluated).1).keeps
  have within : ∀ key value, entries.get? key = some value →
      value.Within (store.Visible (Instance.Hidden fun _ => False)) := by
    rcases origin with rfl | ⟨seed, rfl⟩
    · exact fun _ _ found => nomatch found
    · exact before.secludes.records seed
  obtain ⟨keeps, initial⟩ := keeps_of_newRecord before within made record
  refine ⟨same, admitted, ?_⟩
  rw [(run_of_some evaluated).1, performed]
  -- the instance is held or not, which makes no difference for its record
  cases step.into with
  | none => exact ⟨keeps, initial⟩
  | some name => exact ⟨(Moves.hold keeps name (.inst inst) (.inl rfl)).keeps, initial⟩

/-! ### Writing to it -/

/-- A step that does not write a field of the instance writes nothing to it. -/
theorem acceptedWrite_eq_none (h : ∀ on key, step.action = .setField on key →
    session.holdings.inst? on ≠ some inst) : session.acceptedWrite inst step = none := by
  unfold acceptedWrite
  split
  · next on key store value answer action _ _ => exact if_neg (h on key action)
  · rfl

section SetField

variable {on key : String} {store : Store} {operands : List Value}

/-- Neither does one that is refused. -/
theorem acceptedWrite_of_error {refusal : Refusal}
    (outcome : (session.run step).2.outcome = .error refusal) :
    session.acceptedWrite inst step = none := by
  unfold acceptedWrite
  split
  · next accepted =>
    rw [outcome] at accepted
    cases accepted
  · rfl

theorem acceptedWrite_of_ok {value : Value} {answer : Answer}
    (action : step.action = .setField on key)
    (held : session.holdings.inst? on = some inst)
    (evaluated : session.holdings.evaluateItems session.store step.operands =
      some (store, [value]))
    (outcome : (session.run step).2.outcome = .ok answer) :
    session.acceptedWrite inst step = some (key, value) := by
  unfold acceptedWrite
  rw [action, evaluated, outcome]
  exact if_pos held

/-- A write of a field is done on the instance that is held. -/
theorem perform_setField (action : step.action = .setField on key)
    (held : session.holdings.inst? on = some inst) (store : Store) (operands : List Value) :
    (session.withStore store).perform step.action operands =
      (session.withStore store).performOnInstance inst (.setField on key) operands := by
  rw [action]
  show (session.withStore store).withHeld (session.holdings.inst? on) _ = _
  rw [held]
  rfl

/-- **All that a write of a field does**: it puts the value under the key if that may be written,
and otherwise it logs that it was refused. -/
theorem run_setField_eq {value : Value} (action : step.action = .setField on key)
    (held : session.holdings.inst? on = some inst)
    (evaluated : session.holdings.evaluateItems session.store step.operands =
      some (store, [value])) :
    let before := session.withStore store
    (inst.interface.check key value = .ok () ∧ (session.run step).2.outcome = .ok .done ∧
        (session.run step).1 = before.withStore (store.insert inst.record key value)) ∨
      ∃ violation, inst.interface.check key value = .error violation ∧
        (session.run step).2.outcome = .error (.violation violation) ∧
        (session.run step).1 =
          before.withWorld (before.world.emit (inst.refusal key violation)) := by
  intro before
  obtain ⟨after, outcome⟩ := run_of_some evaluated
  rw [perform_setField action held] at after outcome
  simp only [performOnInstance, World.setField] at after outcome
  cases checked : inst.interface.check key value with
  | error violation =>
    rw [checked] at after outcome
    exact .inr ⟨violation, rfl, outcome, after⟩
  | ok _ =>
    rw [checked] at after outcome
    exact .inl ⟨rfl, outcome, after⟩

/-- **What is accepted** are writes of fields that pass the check of the interface. -/
theorem acceptedWrite_eq_some {value : Value} :
    session.acceptedWrite inst step = some (key, value) ↔
      ∃ on store, step.action = .setField on key ∧ session.holdings.inst? on = some inst ∧
        session.holdings.evaluateItems session.store step.operands = some (store, [value]) ∧
        inst.interface.check key value = .ok () := by
  constructor
  · intro accepted
    unfold acceptedWrite at accepted
    split at accepted
    · next on key store value answer action evaluated outcome =>
      obtain ⟨held, same⟩ := Option.ite_none_right_eq_some.1 accepted
      cases same
      rcases run_setField_eq action held evaluated with ⟨checked, -, -⟩ | ⟨_, -, refused, -⟩
      · exact ⟨on, store, action, held, evaluated, checked⟩
      · cases outcome.symm.trans refused
    · cases accepted
  · rintro ⟨on, store, action, held, evaluated, checked⟩
    rcases run_setField_eq action held evaluated with ⟨-, outcome, -⟩ | ⟨_, refused, -, -⟩
    · exact acceptedWrite_of_ok action held evaluated outcome
    · cases checked.symm.trans refused

/-- Writing a field comes to one insertion, or to nothing if it is refused. -/
theorem run_setField (action : step.action = .setField on key)
    (held : session.holdings.inst? on = some inst)
    (evaluated : session.holdings.evaluateItems session.store step.operands =
      some (store, operands)) :
    (session.run step).1.holdings = session.holdings ∧
      (session.acceptedWrite inst step = none ∧ (session.run step).1.store = store ∨
        ∃ value ∈ operands, session.acceptedWrite inst step = some (key, value) ∧
          inst.interface.check key value = .ok () ∧
          (session.run step).1.store = store.insert inst.record key value) := by
  obtain ⟨after, outcome⟩ := run_of_some evaluated
  rw [perform_setField action held] at after outcome
  -- without just one operand there is nothing to write
  match operands, evaluated with
  | [], _ =>
    rw [after]
    exact ⟨rfl, .inl ⟨acceptedWrite_of_error outcome, rfl⟩⟩
  | [value], evaluated =>
    rcases run_setField_eq action held evaluated with
      ⟨checked, outcome, after⟩ | ⟨violation, _, outcome, after⟩
    · rw [after]
      exact ⟨rfl, .inr ⟨value, List.mem_cons_self,
        acceptedWrite_of_ok action held evaluated outcome, checked, rfl⟩⟩
    · rw [after]
      exact ⟨rfl, .inl ⟨acceptedWrite_of_error outcome, rfl⟩⟩
  | first :: second :: rest, _ =>
    rw [after]
    exact ⟨rfl, .inl ⟨acceptedWrite_of_error outcome, rfl⟩⟩

end SetField

/-- **One step**: the record stays out of reach, and has changed by the write that was
accepted, which was of a declared field and of its kind, or else not at all. -/
theorem keeps_run (h : session.Keeps (· = inst)) (step : Step) :
    (session.run step).1.Keeps (· = inst) ∧
      (session.run step).1.store.record inst.record =
        (session.acceptedWrite inst step).toList.foldl
          (fun dict write => dict.insert write.1 write.2) (session.store.record inst.record) ∧
      ∀ write ∈ (session.acceptedWrite inst step).toList,
        inst.interface.check write.1 write.2 = .ok () := by
  have concealed : Instance.Hidden (· = inst) (.record inst.record) := ⟨inst, rfl, rfl⟩
  -- only a step that writes a field of this very instance may reach the record
  by_cases writes : ∃ on key, step.action = .setField on key ∧
      session.holdings.inst? on = some inst
  · obtain ⟨on, key, action, held⟩ := writes
    cases evaluated : session.holdings.evaluateItems session.store step.operands with
    | none =>
      have same := run_of_none evaluated
      have outcome : (session.run step).2.outcome = .error .misuse := by rw [same]
      rw [acceptedWrite_of_error outcome, same]
      exact ⟨h, rfl, fun _ member => nomatch member⟩
    | some result =>
      obtain ⟨store, operands⟩ := result
      obtain ⟨respects, within⟩ := respects_operands h evaluated
      have moved := Moves.withStore h respects
      obtain ⟨holdings, ⟨none, after⟩ | ⟨value, member, written, checked, after⟩⟩ :=
        run_setField action held evaluated
      · have kept : Store.Respects _ session.store (session.run step).1.store := after ▸ respects
        rw [none]
        refine ⟨⟨kept.secludes, fun name holding found => ?_⟩, kept.kept _ concealed,
          fun _ member => nomatch member⟩
        rw [holdings] at found
        exact (h.guards name holding found).mono kept
      · have inserted := respects.secludes.insert inst.record key (within value member)
        rw [written]
        refine ⟨⟨after ▸ inserted, fun name holding found => ?_⟩, ?_, ?_⟩
        · -- the record that is written to was made before, so no other is visible now
          rw [holdings] at found
          have safe := (h.guards name holding found).mono respects
          refine safe.of_visible (fun _ same => same) fun id visible => ?_
          rw [after, Store.insert, Store.visible_setRecord]
          exact visible
        · have made := respects.secludes.made _ concealed
          rw [after, Store.record_insert made, if_pos rfl, respects.kept _ concealed]
          rfl
        · rw [Option.toList_some, List.forall_mem_singleton]
          exact checked
  · have other : ∀ on key, step.action = .setField on key →
        session.holdings.inst? on ≠ some inst :=
      fun on key action held => writes ⟨on, key, action, held⟩
    have moved := moves_run h step fun on key inst' action held same =>
      other on key action (same ▸ held)
    rw [acceptedWrite_eq_none other]
    exact ⟨moved.keeps, moved.respects.kept _ concealed, fun _ member => nomatch member⟩

/-- **Runs**: the same for steps in turn, whose writes come one after the other. -/
theorem keeps_runSteps (h : session.Keeps (· = inst)) (steps : List Step) :
    (session.runSteps steps).Keeps (· = inst) ∧
      (session.runSteps steps).store.record inst.record =
        (session.acceptedWrites inst steps).foldl
          (fun dict write => dict.insert write.1 write.2) (session.store.record inst.record) ∧
      ∀ write ∈ session.acceptedWrites inst steps,
        inst.interface.check write.1 write.2 = .ok () := by
  induction steps generalizing session with
  | nil => exact ⟨h, rfl, fun _ member => nomatch member⟩
  | cons step rest ih =>
    obtain ⟨keeps, written, checked⟩ := keeps_run h step
    obtain ⟨keeps', written', checked'⟩ := ih keeps
    refine ⟨keeps', ?_, fun write member => ?_⟩
    · rw [acceptedWrites, List.foldl_append, ← written]
      exact written'
    · rcases List.mem_append.1 member with first | later
      · exact checked write first
      · exact checked' write later

/-- Entries that are admitted stay so when they are overwritten by what may be written. -/
theorem admits_foldl_insert {interface : Interface} {writes : List (String × Value)}
    (checked : ∀ write ∈ writes, interface.check write.1 write.2 = .ok ())
    {entries : Dict Value} (h : interface.Admits entries) :
    interface.Admits (writes.foldl (fun dict write => dict.insert write.1 write.2) entries) := by
  induction writes generalizing entries with
  | nil => exact h
  | cons write rest ih =>
    rw [List.forall_mem_cons] at checked
    exact ih checked.2 (h.insert checked.1)

/-- **The main theorem**: at any time after an instance with a record of its own was made,
the record has the entries it was made with, overwritten in turn by the accepted writes
of its fields.  So each entry is of a declared field and of its kind; a declared field
reads as what was last written to it, or else as it was in the seed, or else as
undefined; and any other field can be neither read nor written. -/
theorem record_eq_acceptedWrites {series : Nat} {earlier : List Step}
    (founds : ((start series).runSteps earlier).Founds step interface inst entries)
    (later : List Step) :
    let made := (((start series).runSteps earlier).run step).1
    let session := made.runSteps later
    let writes := made.acceptedWrites inst later
    session.store.record inst.record =
        writes.foldl (fun dict write => dict.insert write.1 write.2) entries ∧
      (∀ key value, (session.store.record inst.record).get? key = some value →
        interface.shape.declares key = true ∧
          ∀ kind, interface.shape.kindOf key = some kind → kind.accepts value = true) ∧
      (∀ key, interface.shape.declares key = true →
        (session.world.getField inst key).2 =
          .ok (((writes.reverse.lookup key).or (entries.get? key)).getD .undefined)) ∧
      (∀ key, interface.shape.declares key = false →
        (session.world.getField inst key).2 =
            .error (.undeclaredField interface.name key .read) ∧
          ∀ value, (session.world.setField inst key value).2 =
            .error (.undeclaredField interface.name key .write)) := by
  intro made session writes
  obtain ⟨same, admitted, keeps, initial⟩ :=
    founds.keeps (keeps_runSteps_of_none (keeps_start series) earlier)
  obtain ⟨_, written, checked⟩ := keeps_runSteps keeps later
  rw [initial] at written
  subst same
  refine ⟨written, ?_, ?_, ?_⟩
  · intro key value found
    have admits := admits_foldl_insert checked admitted
    rw [← written] at admits
    exact Interface.check_eq_ok.1 (admits key value found)
  · intro key declared
    unfold World.getField
    rw [if_pos declared]
    show Except.ok (((session.store.record inst.record).get? key).getD .undefined) = _
    rw [written, Dict.get?_foldl_insert]
  · intro key undeclared
    constructor
    · unfold World.getField
      rw [if_neg (Bool.eq_false_iff.1 undeclared)]
    · intro value
      rcases session.world.setField_eq inst key value with
        ⟨violation, refused, outcome, _⟩ | ⟨accepted, _, _⟩
      · rw [Interface.check_of_not_declares undeclared] at refused
        cases refused
        exact outcome
      · rw [Interface.check_of_not_declares undeclared] at accepted
        cases accepted

/-- An instance from a seed that is written to afterwards, two writes of a field of which
one is refused, and the name of the interface taken over by a type. -/
theorem record_eq_acceptedWrites_of_seed :
    let inst : Instance :=
      ⟨⟨0⟩, ⟨"P", .ofList [("a", some (.single .string)), ("b", none)], .validate⟩, ⟨1⟩⟩
    let earlier : List Step :=
      [⟨.newCatalog {}, [], some "k"⟩,
        ⟨.defineInterface "k" "P"
          (.declared [("a", some (.single .string)), ("b", none)]) none, [], some "P"⟩,
        ⟨.take, [.record [("a", .string "x")]], some "s"⟩]
    let step : Step := ⟨.constructWith "P", [.held "s"], some "p"⟩
    let later : List Step :=
      [⟨.insertEntry "a", [.held "s", .boolean true], none⟩,
        ⟨.setField "p" "a", [.string "y"], none⟩,
        ⟨.setField "p" "a", [.boolean true], none⟩,
        ⟨.defineType "k" "P" (.single .number), [], none⟩]
    let session := (((start 0).runSteps earlier).run step).1.runSteps later
    ((start 0).runSteps earlier).Founds step inst.interface inst
        (.ofList [("a", .string "x")]) ∧
      (session.world.getField inst "a").2 = .ok (.string "y") ∧
      (session.world.getField inst "b").2 = .ok .undefined ∧
      (session.world.getField inst "c").2 = .error (.undeclaredField "P" "c" .read) := by
  intro inst earlier step later session
  have founds : ((start 0).runSteps earlier).Founds step inst.interface inst
      (.ofList [("a", .string "x")]) :=
    @Founds.constructWith _ step "P" inst.interface ((start 0).runSteps earlier).store ⟨0⟩ _ inst
      rfl rfl rfl rfl rfl
  have writes : (((start 0).runSteps earlier).run step).1.acceptedWrites inst later =
      [("a", .string "y")] := by
    rfl
  obtain ⟨_, _, declared, undeclared⟩ := record_eq_acceptedWrites founds later
  rw [writes] at declared
  exact ⟨founds, declared "a" rfl, declared "b" rfl, (undeclared "c" rfl).1⟩

end Session

end Contracts
