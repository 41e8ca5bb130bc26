import Contracts.Proofs.Session.Perform

/-!
# What a session holds of hidden records

Some instances are set apart as **own**: nothing but writing their fields is to change
their records, which are hidden.  A session **keeps** them if neither its store nor
anything that it holds names one of the hidden records, the own instances apart.

Every step of a session leaves it so.  Unless the step writes a field of an own instance,
their records have the entries that they had before.

## Main definitions

* `Session.Keeps` — nothing held leads to the record of an own instance.
* `Session.Moves` — between two sessions no such record was reached.
* `Session.Turns` — the same for an action, and its result does not lead there either.
* `Session.Shelters` — the same for what it does to the store.

## Main results

* `Holdings.returns_evaluate` — evaluating operands reaches no hidden record.
* `Session.shelters_of_works`, `Session.turns_perform` — neither does an action that writes no own
  field.
* `Session.moves_run` — **nor does a step.**
-/

namespace Contracts

/-- The records of own instances. -/
def Instance.Hidden (own : Instance → Prop) (container : Container) : Prop :=
  ∃ inst, own inst ∧ .record inst.record = container

/-- Something that is held does not lead to the record of an own instance, unless it is
that instance. -/
def Holding.Safe (own : Instance → Prop) (store : Store) : Holding → Prop
  | .value v => v.Within (store.Visible (Instance.Hidden own))
  | .inst i => own i ∨ store.Visible (Instance.Hidden own) (.record i.record)
  | .slot s => s.held.Within (store.Visible (Instance.Hidden own))
  | .frozen view => store.Visible (Instance.Hidden own) (.record view.record)
  | .application a => store.Holds (Instance.Hidden own) a
  | _ => True

/-- What is safe stays so as long as what is visible stays visible. -/
theorem Holding.Safe.of_visible {own own' : Instance → Prop} {before after : Store}
    (le : ∀ inst, own inst → own' inst)
    (visible : ∀ container, before.Visible (Instance.Hidden own) container →
      after.Visible (Instance.Hidden own') container)
    {holding : Holding} (safe : holding.Safe own before) : holding.Safe own' after := by
  cases holding with
  | value v => exact Value.Within.mono visible safe
  | inst i => exact safe.imp (le i) (visible _)
  | slot s => exact Value.Within.mono visible safe
  | frozen view => exact visible _ safe
  | application a => exact ⟨safe.1.mono visible, fun v given => (safe.2 v given).mono visible⟩
  | _ => trivial

theorem Holding.Safe.mono {own : Instance → Prop} {before after : Store}
    (h : Store.Respects (Instance.Hidden own) before after) {holding : Holding}
    (safe : holding.Safe own before) : holding.Safe own after :=
  safe.of_visible (fun _ same => same) h.visible

/-- What is plain leads nowhere. -/
theorem Holding.IsPlain.safe {own : Instance → Prop} {store : Store} {holding : Holding}
    (plain : holding.IsPlain) : holding.Safe own store := by
  cases plain <;> exact trivial

/-! ### Evaluation -/

namespace Holdings

variable {hidden : Container → Prop} {holdings : Holdings}

mutual

/-- Evaluating an expression gives names of what it made or of what is held. -/
theorem returns_evaluate {store : Store} (h : store.Secludes hidden)
    (held : ∀ name value, holdings.value? name = some value →
      value.Within (store.Visible hidden))
    {expression : Expression} {result : Store × Value}
    (found : holdings.evaluate store expression = some result) :
    Store.Returns hidden store result := by
  cases expression with
  | undefined => cases found; exact ⟨.refl h, Value.within_undefined⟩
  | null => cases found; exact ⟨.refl h, Value.within_null⟩
  | boolean b => cases found; exact ⟨.refl h, Value.within_boolean b⟩
  | number x => cases found; exact ⟨.refl h, Value.within_number x⟩
  | string s => cases found; exact ⟨.refl h, Value.within_string s⟩
  | array items =>
    simp only [evaluate, Option.bind_eq_bind, Option.bind_eq_some_iff] at found
    obtain ⟨⟨next, values⟩, evaluated, made⟩ := found
    cases made
    obtain ⟨respects, within⟩ := respects_evaluateItems h held evaluated
    obtain ⟨added, visible⟩ := Store.respects_newArray respects.secludes fun value member =>
      within value (List.mem_toArray.1 member)
    exact ⟨respects.trans added, (Value.within_array _).2 visible⟩
  | record entries =>
    simp only [evaluate, Option.bind_eq_bind, Option.bind_eq_some_iff] at found
    obtain ⟨⟨next, values⟩, evaluated, made⟩ := found
    cases made
    obtain ⟨respects, within⟩ := respects_evaluateEntries h held evaluated
    obtain ⟨added, visible⟩ := Store.respects_newRecord respects.secludes
      (Store.within_ofList within)
    exact ⟨respects.trans added, (Value.within_record _).2 visible⟩
  | json json =>
    cases found
    exact Store.returns_addJson h json
  | function name arity routine =>
    cases found
    exact ⟨Store.respects_newFunction h, by simp⟩
  | held name =>
    simp only [evaluate, Option.bind_eq_bind, Option.bind_eq_some_iff] at found
    obtain ⟨value, named, made⟩ := found
    cases made
    exact ⟨.refl h, held name value named⟩

theorem respects_evaluateItems {store : Store} (h : store.Secludes hidden)
    (held : ∀ name value, holdings.value? name = some value →
      value.Within (store.Visible hidden))
    {items : List Expression} {result : Store × List Value}
    (found : holdings.evaluateItems store items = some result) :
    Store.Respects hidden store result.1 ∧
      ∀ value ∈ result.2, value.Within (result.1.Visible hidden) := by
  cases items with
  | nil =>
    cases found
    exact ⟨.refl h, fun _ member => nomatch member⟩
  | cons item rest =>
    simp only [evaluateItems, Option.bind_eq_bind, Option.bind_eq_some_iff] at found
    obtain ⟨⟨next, value⟩, evaluated, ⟨last, values⟩, evaluated', made⟩ := found
    cases made
    obtain ⟨respects, first⟩ := returns_evaluate h held evaluated
    obtain ⟨respects', others⟩ := respects_evaluateItems respects.secludes
      (fun name value named => respects.within (held name value named)) evaluated'
    refine ⟨respects.trans respects', fun value member => ?_⟩
    rcases List.mem_cons.1 member with rfl | member
    · exact respects'.within first
    · exact others value member

theorem respects_evaluateEntries {store : Store} (h : store.Secludes hidden)
    (held : ∀ name value, holdings.value? name = some value →
      value.Within (store.Visible hidden))
    {entries : List (String × Expression)} {result : Store × List (String × Value)}
    (found : holdings.evaluateEntries store entries = some result) :
    Store.Respects hidden store result.1 ∧
      ∀ entry ∈ result.2, entry.2.Within (result.1.Visible hidden) := by
  cases entries with
  | nil =>
    cases found
    exact ⟨.refl h, fun _ member => nomatch member⟩
  | cons entry rest =>
    obtain ⟨key, expression⟩ := entry
    simp only [evaluateEntries, Option.bind_eq_bind, Option.bind_eq_some_iff] at found
    obtain ⟨⟨next, value⟩, evaluated, ⟨last, values⟩, evaluated', made⟩ := found
    cases made
    obtain ⟨respects, first⟩ := returns_evaluate h held evaluated
    obtain ⟨respects', others⟩ := respects_evaluateEntries respects.secludes
      (fun name value named => respects.within (held name value named)) evaluated'
    refine ⟨respects.trans respects', fun entry member => ?_⟩
    rcases List.mem_cons.1 member with rfl | member
    · exact respects'.within first
    · exact others entry member

end

end Holdings

/-! ### Sessions -/

namespace Session

variable {own : Instance → Prop} {before session next : Session}

/-- What a session holds under its names does not lead to the record of an own instance. -/
def Guards (own : Instance → Prop) (session : Session) : Prop :=
  ∀ name holding, session.holdings.get? name = some holding → holding.Safe own session.store

/-- Nothing in a session leads to the record of an own instance. -/
structure Keeps (own : Instance → Prop) (session : Session) : Prop where
  /-- No value in the store does. -/
  secludes : session.store.Secludes (Instance.Hidden own)
  /-- Nothing that is held does. -/
  guards : session.Guards own

/-- Between two sessions no record of an own instance was reached. -/
structure Moves (own : Instance → Prop) (before after : Session) : Prop where
  /-- Not in the store. -/
  respects : Store.Respects (Instance.Hidden own) before.store after.store
  /-- Nothing that is held leads to one. -/
  guards : after.Guards own

namespace Moves

theorem refl (h : session.Keeps own) : Moves own session session := ⟨.refl h.secludes, h.guards⟩

theorem trans (h : Moves own before session) (h' : Moves own session next) :
    Moves own before next :=
  ⟨h.respects.trans h'.respects, h'.guards⟩

theorem keeps (h : Moves own before session) : session.Keeps own :=
  ⟨h.respects.secludes, h.guards⟩

/-- Only the store changes. -/
theorem withStore (h : session.Keeps own) {store : Store}
    (respects : Store.Respects (Instance.Hidden own) session.store store) :
    Moves own session (session.withStore store) where
  respects := respects
  guards name holding held := (h.guards name holding held).mono respects

/-- Something else is held under a name. -/
theorem hold (h : session.Keeps own) (name : String) (holding : Holding)
    (safe : holding.Safe own session.store) : Moves own session (session.hold name holding) where
  respects := .refl h.secludes
  guards other found held := by
    rw [Session.hold, Dict.get?_insert] at held
    split at held
    · cases held
      exact safe
    · exact h.guards other found held

end Moves

/-! ### What is held under a name -/

theorem Guards.value? (h : session.Guards own) {name : String} {value : Value}
    (held : session.holdings.value? name = some value) :
    value.Within (session.store.Visible (Instance.Hidden own)) :=
  h name _ (Holdings.value?_eq_some.1 held)

theorem Guards.slot? (h : session.Guards own) {name : String} {slot : Slot}
    (held : session.holdings.slot? name = some slot) :
    slot.held.Within (session.store.Visible (Instance.Hidden own)) :=
  h name _ (Holdings.slot?_eq_some.1 held)

theorem Guards.inst? (h : session.Guards own) {name : String} {inst : Instance}
    (held : session.holdings.inst? name = some inst) :
    own inst ∨ session.store.Visible (Instance.Hidden own) (.record inst.record) :=
  h name _ (Holdings.inst?_eq_some.1 held)

theorem Guards.frozen? (h : session.Guards own) {name : String} {view : FrozenView}
    (held : session.holdings.frozen? name = some view) :
    session.store.Visible (Instance.Hidden own) (.record view.record) :=
  h name _ (Holdings.frozen?_eq_some.1 held)

theorem Guards.application? (h : session.Guards own) {name : String}
    {application : Application} (held : session.holdings.application? name = some application) :
    session.store.Holds (Instance.Hidden own) application :=
  h name _ (Holdings.application?_eq_some.1 held)

/-! ### Actions -/

/-- An action reached no record of an own instance, and its result leads to none. -/
structure Turns (own : Instance → Prop) (before : Session) (performed : Performed) : Prop where
  /-- No such record was reached. -/
  moves : Moves own before performed.session
  /-- The result does not lead to one. -/
  result : ∀ answer holding, performed.outcome = .ok (answer, some holding) →
    holding.Safe own performed.session.store

/-- From one store to another no such record was reached, and what is given there leads to
none. -/
structure Shelters (own : Instance → Prop) (before after : Store) (result : Option Holding) :
    Prop where
  /-- No such record was reached. -/
  respects : Store.Respects (Instance.Hidden own) before after
  /-- The result does not lead to one. -/
  result : ∀ holding, result = some holding → holding.Safe own after

namespace Shelters

variable {store after : Store}

theorem nothing (respects : Store.Respects (Instance.Hidden own) store after) :
    Shelters own store after none :=
  ⟨respects, fun _ given => nomatch given⟩

theorem something {holding : Holding}
    (respects : Store.Respects (Instance.Hidden own) store after)
    (safe : holding.Safe own after) : Shelters own store after (some holding) := by
  refine ⟨respects, fun given same => ?_⟩
  cases same
  exact safe

/-- An entry that was there before is given. -/
theorem entry (h : store.Secludes (Instance.Hidden own)) (id : RecordId) (key : String)
    (respects : Store.Respects (Instance.Hidden own) store after) :
    Shelters own store after (((store.record id).get? key).map .value) := by
  cases found : (store.record id).get? key with
  | none => exact .nothing respects
  | some value => exact .something respects (respects.within (h.records id key value found))

end Shelters

section

variable {action : Action} {operands : List Value} {assigned : Option Assignment} {store : Store}
  {result : Option Holding} {holdings : Holdings} (h : session.Keeps own)
  (within : ∀ value ∈ operands, value.Within (session.store.Visible (Instance.Hidden own)))
include h within

/-- What can be given is stored, held or an operand. -/
theorem safe_of_gift {holding : Holding} (gift : session.Gift operands holding) :
    holding.Safe own session.store := by
  cases gift with
  | operand given => exact within _ given
  | entry found => exact h.secludes.records _ _ _ found
  | undefined => exact Value.within_undefined
  | item member => exact h.secludes.arrays _ _ member
  | content held => exact h.guards.slot? held
  | view given => exact (Value.within_record _).1 (within _ given)
  | application given => exact Store.holds_of ((Value.within_function _).1 (within _ given))
  | slot _ given => exact within _ given
  | shared _ given => exact .inr ((Value.within_record _).1 (within _ given))
  | interfaceDefined | typeDefined | interfaceFound | typeFound => trivial
  | plain plain => exact plain.safe

/-- The store changes where operands lead, and as functions do.  Writing a field of an instance
that is not own reaches its own record only. -/
theorem shelters_of_works (works : session.Works action operands assigned store result)
    (other : ∀ on key inst, action = .setField on key →
      session.holdings.inst? on = some inst → ¬ own inst) :
    Shelters own session.store store result := by
  cases works with
  | idle => exact .nothing (.refl h.secludes)
  | give gift => exact .something (.refl h.secludes) (safe_of_gift h within gift)
  | newRecord =>
    obtain ⟨respects, visible⟩ := Store.respects_newRecord_empty h.secludes
    exact .something respects ((Value.within_record _).2 visible)
  | newArray =>
    obtain ⟨respects, visible⟩ := Store.respects_newArray_empty h.secludes
    exact .something respects ((Value.within_array _).2 visible)
  | insert id key value =>
    have visible := (Value.within_record id).1 (within _ List.mem_cons_self)
    exact .entry h.secludes id key (Store.respects_insert h.secludes visible key
      (within value (List.mem_cons_of_mem _ List.mem_cons_self)))
  | remove id key =>
    have visible := (Value.within_record id).1 (within _ List.mem_cons_self)
    exact .entry h.secludes id key (Store.respects_remove h.secludes visible key)
  | push id value =>
    have visible := (Value.within_array id).1 (within _ List.mem_cons_self)
    exact .nothing (Store.respects_push h.secludes visible
      (within value (List.mem_cons_of_mem _ List.mem_cons_self)))
  | call f arguments =>
    obtain ⟨respects, returned⟩ := Store.returns_call Routine.confined h.secludes
      ((Value.within_function f).1 (within _ List.mem_cons_self))
      fun value member => within value (List.mem_cons_of_mem _ member)
    exact .something respects returned
  | construct _ record =>
    obtain ⟨respects, visible⟩ := Store.respects_newRecord_empty h.secludes
    exact .something respects (.inr (record ▸ visible))
  | @copy _ _ seed _ _ record =>
    obtain ⟨respects, visible⟩ := Store.respects_newRecord h.secludes (h.secludes.records seed)
    exact .something respects (.inr (record ▸ visible))
  | @write on key inst value held =>
    -- the instance is not own, so its record is one that may be reached
    have visible := (h.guards.inst? held).resolve_left (other on key inst rfl held)
    exact .nothing (Store.respects_insert h.secludes visible key (within value List.mem_cons_self))
  | complete held applied | incomplete held applied =>
    have returned := Store.respects_apply Routine.confined h.secludes
      (h.guards.application? held) within
    rw [applied] at returned
    exact .something returned.1 returned.2
  | applyToValue held applied =>
    have returned := Store.respects_apply Routine.confined h.secludes
      (h.guards.application? held) within
    rw [applied] at returned
    have valued := Store.returns_toValue returned.1.secludes returned.2
    exact .something (returned.1.trans valued.1) valued.2
  | toFunction held =>
    obtain ⟨named, within⟩ := Store.respects_toFunction h.secludes (h.guards.application? held)
    exact .something named ((Value.within_function _).2 within)

/-- What is held instead of something else is plain, or is a slot with an operand. -/
theorem guards_of_arranges (arranges : session.Arranges action operands holdings)
    (respects : Store.Respects (Instance.Hidden own) session.store store) {name : String}
    {holding : Holding} (held : holdings.get? name = some holding) : holding.Safe own store := by
  rcases arranges.of_get? held with same | plain | ⟨slot, value, _, given, rfl⟩
  · exact (h.guards name holding same).mono respects
  · exact plain.safe
  · exact respects.within (within value given)

/-- **Actions**: one that does not write a field of an own instance reaches none of their
records. -/
theorem turns_perform (other : ∀ on key inst, action = .setField on key →
      session.holdings.inst? on = some inst → ¬ own inst) :
    Turns own session (session.perform action operands) := by
  obtain ⟨respects, safe⟩ :=
    shelters_of_works h within (session.works_perform action operands) other
  have arranges := session.arranges_perform action operands
  refine ⟨⟨respects, fun name holding => guards_of_arranges h within arranges respects⟩, ?_⟩
  intro answer holding outcome
  exact safe holding (by rw [Performed.result?, outcome])

end

/-! ### Steps -/

/-- The operands of a step name what is held or was made for it. -/
theorem respects_operands (h : session.Keeps own) {items : List Expression} {store : Store}
    {operands : List Value}
    (evaluated : session.holdings.evaluateItems session.store items = some (store, operands)) :
    Store.Respects (Instance.Hidden own) session.store store ∧
      ∀ value ∈ operands, value.Within (store.Visible (Instance.Hidden own)) :=
  Holdings.respects_evaluateItems h.secludes (fun _ _ held => h.guards.value? held) evaluated

/-- **Steps**: one that does not write a field of an own instance reaches none of their
records. -/
theorem moves_run (h : session.Keeps own) (step : Step)
    (other : ∀ on key inst, step.action = .setField on key →
      session.holdings.inst? on = some inst → ¬ own inst) :
    Moves own session (session.run step).1 := by
  cases evaluated : session.holdings.evaluateItems session.store step.operands with
  | none =>
    rw [run_of_none evaluated]
    exact .refl h
  | some result =>
    obtain ⟨store, operands⟩ := result
    obtain ⟨respects, within⟩ := respects_operands h evaluated
    have moved := Moves.withStore h respects
    have turned := turns_perform moved.keeps within other
    have done := moved.trans turned.moves
    rw [(run_of_some evaluated).1]
    split
    · next answer result name outcome _ =>
      exact done.trans (.hold done.keeps name result (turned.result answer result outcome))
    · exact done

end Session

end Contracts
