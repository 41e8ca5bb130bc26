import Contracts.Proofs.Heap.Paths
import Contracts.Proofs.Session.OwnRecord

/-!
# Writes that nobody else sees

What is written to an instance with a record of its own is seen through that instance and
in no other way.  The record is one that no value names, and so there is no value, no other
instance and no frozen view that leads to it.  Values in the record may well be in other
records, too: they are shared, but a write of a field does not change what is in them.

## Main definitions

* `Store.AgreeBut` — two stores have the same contents, hidden containers apart.
* `Session.Has` — the values that there are in a session.
* `Session.SameBut` — two sessions are the same for all but one instance.

## Main results

* `Store.AgreeBut.unfold`, `Store.AgreeBut.display` — what leads to no hidden container is
  written out and displayed the same.
* `Session.Keeps.within_of_has` — no value that there is leads to the record of an own instance.
* `Session.ownWrite_unseen` — **a write to an instance with a record of its own.**
-/

namespace Contracts

/-! ### Stores that differ in hidden containers -/

namespace Store

variable {hidden : Container → Prop} {before after : Store} {value : Value}

/-- Two stores have the same containers and, but for hidden ones, the same contents. -/
structure AgreeBut (hidden : Container → Prop) (before after : Store) : Prop where
  /-- The same containers were made. -/
  has : ∀ container, after.Has container ↔ before.Has container
  /-- Records have the same entries. -/
  record : ∀ id, ¬ hidden (.record id) → after.record id = before.record id
  /-- Arrays have the same items. -/
  array : ∀ id, ¬ hidden (.array id) → after.array id = before.array id

theorem AgreeBut.refl (store : Store) : AgreeBut hidden store store :=
  ⟨fun _ => Iff.rfl, fun _ _ => rfl, fun _ _ => rfl⟩

/-- Writing to a hidden record changes nothing else. -/
theorem agreeBut_insert {id : RecordId} (made : before.HasRecord id)
    (concealed : hidden (.record id)) (key : String) (value : Value) :
    AgreeBut hidden before (before.insert id key value) where
  has container := has_setRecord before id _ container
  record other visible := by
    rw [record_insert made, if_neg]
    rintro rfl
    exact visible concealed
  array _ _ := rfl

/-- What names no hidden container is written out the same, whatever is open. -/
theorem AgreeBut.unfoldWithin (h : AgreeBut hidden before after) (secludes : before.Secludes hidden)
    (within : value.Within (before.Visible hidden)) (opened : Opened) :
    after.unfoldWithin opened value = before.unfoldWithin opened value := by
  fun_induction before.unfoldWithin opened value with
  | case7 opened id opens ih =>
    have visible := (Value.within_array id).1 within
    rw [Store.unfoldWithin, dif_pos ⟨(h.has (.array id)).2 opens.1, opens.2⟩,
      h.array id visible.2]
    refine congrArg Tree.array (List.map_congr_left fun item member => ?_)
    exact ih item (secludes.arrays id item (Array.mem_toList_iff.1 member))
  | case8 opened id closed =>
    rw [Store.unfoldWithin, dif_neg fun opens => closed ⟨(h.has (.array id)).1 opens.1, opens.2⟩]
  | case9 opened id opens ih =>
    have visible := (Value.within_record id).1 within
    rw [Store.unfoldWithin, dif_pos ⟨(h.has (.record id)).2 opens.1, opens.2⟩,
      h.record id visible.2]
    refine congrArg Tree.record (List.map_congr_left fun entry member => ?_)
    rw [ih entry (secludes.records id entry.1 entry.2 (Dict.mem_entries.1 member))]
  | case10 opened id closed =>
    rw [Store.unfoldWithin, dif_neg fun opens => closed ⟨(h.has (.record id)).1 opens.1, opens.2⟩]
  | _ => rw [Store.unfoldWithin]

theorem AgreeBut.unfold (h : AgreeBut hidden before after) (secludes : before.Secludes hidden)
    (within : value.Within (before.Visible hidden)) : after.unfold value = before.unfold value :=
  h.unfoldWithin secludes within .none

theorem AgreeBut.toJson (h : AgreeBut hidden before after) (secludes : before.Secludes hidden)
    (within : value.Within (before.Visible hidden)) : after.toJson value = before.toJson value :=
  congrArg Tree.toJson (h.unfold secludes within)

/-- It is displayed the same, whatever is open. -/
theorem AgreeBut.displayWithin (h : AgreeBut hidden before after)
    (secludes : before.Secludes hidden) (within : value.Within (before.Visible hidden))
    (opened : Opened) : after.displayWithin opened value = before.displayWithin opened value := by
  fun_induction before.displayWithin opened value with
  | case8 opened id opens ih =>
    have visible := (Value.within_array id).1 within
    rw [Store.displayWithin, dif_pos ⟨(h.has (.array id)).2 opens.1, opens.2⟩,
      h.array id visible.2]
    refine congrArg (String.intercalate ",") (List.map_congr_left fun item member => ?_)
    split
    · rfl
    · exact ih item (secludes.arrays id item (Array.mem_toList_iff.1 member))
  | case9 opened id closed =>
    rw [Store.displayWithin, dif_neg fun opens => closed ⟨(h.has (.array id)).1 opens.1, opens.2⟩]
  | _ => rw [Store.displayWithin]

theorem AgreeBut.display (h : AgreeBut hidden before after) (secludes : before.Secludes hidden)
    (within : value.Within (before.Visible hidden)) : after.display value = before.display value :=
  h.displayWithin secludes within .none

end Store

/-! ### What there is in a session -/

namespace Session

variable {session : Session} {own : Instance → Prop}

/-- The values that there are in a session: what is held, what is in records and arrays, and
what was given to functions. -/
inductive Has (session : Session) : Value → Prop
  /-- The value is held. -/
  | held {name : String} {value : Value} (held : session.holdings.value? name = some value) :
      Has session value
  /-- A slot holds it. -/
  | slot {name : String} {slot : Slot} (held : session.holdings.slot? name = some slot) :
      Has session slot.held
  /-- It is a record that is viewed. -/
  | viewed {name : String} {view : FrozenView}
      (held : session.holdings.frozen? name = some view) : Has session (.record view.record)
  /-- It is a function that is being applied. -/
  | target {name : String} {application : Application}
      (held : session.holdings.application? name = some application) :
      Has session (.function application.target)
  /-- It was given to an application. -/
  | supplied {name : String} {application : Application} {value : Value}
      (held : session.holdings.application? name = some application)
      (given : value ∈ application.supplied) : Has session value
  /-- It is in a record, whoever that belongs to. -/
  | entry {id : RecordId} {key : String} {value : Value}
      (found : (session.store.record id).get? key = some value) : Has session value
  /-- It is in an array. -/
  | item {id : ArrayId} {value : Value} (member : value ∈ session.store.array id) :
      Has session value
  /-- It was given to a function. -/
  | argument {id : FunctionId} {target : Callable} {supplied : List Value} {value : Value}
      (whole : Has session (.function (.applied id target supplied)))
      (given : value ∈ supplied) : Has session value
  /-- It is the function that another one waits to call. -/
  | inner {id : FunctionId} {target : Callable} {supplied : List Value}
      (whole : Has session (.function (.applied id target supplied))) :
      Has session (.function target)

/-- No value that there is names the record of an own instance. -/
theorem Keeps.within_of_has (h : session.Keeps own) {value : Value} (has : session.Has value) :
    value.Within (session.store.Visible (Instance.Hidden own)) := by
  induction has with
  | held held => exact h.guards.value? held
  | slot held => exact h.guards.slot? held
  | viewed held => exact (Value.within_record _).2 (h.guards.frozen? held)
  | target held => exact (Value.within_function _).2 (h.guards.application? held).1
  | supplied held given => exact (h.guards.application? held).2 _ given
  | entry found => exact h.secludes.records _ _ _ found
  | item member => exact h.secludes.arrays _ _ member
  | argument whole given ih =>
    rw [Value.within_function, Callable.within_applied] at ih
    exact ih.2 _ given
  | inner whole ih =>
    rw [Value.within_function, Callable.within_applied] at ih
    exact (Value.within_function _).2 ih.1

/-- Two sessions are the same for all but one instance. -/
structure SameBut (inst : Instance) (before after : Session) : Prop where
  /-- The same is held: catalogs and registries, values, slots, instances and views. -/
  holdings : after.holdings = before.holdings
  /-- The same records and arrays were made. -/
  has : ∀ container, after.store.Has container ↔ before.store.Has container
  /-- Every other record has the same entries. -/
  record : ∀ id, id ≠ inst.record → after.store.record id = before.store.record id
  /-- Every array has the same items. -/
  array : ∀ id, after.store.array id = before.store.array id
  /-- Every other instance has another record, with the same entries, that is exported the
  same. -/
  instances : ∀ name other, before.holdings.inst? name = some other → other ≠ inst →
    other.record ≠ inst.record ∧ after.entries other.record = before.entries other.record ∧
      after.store.toJson (.record other.record) = before.store.toJson (.record other.record)
  /-- Every frozen view is one of another record, with the same entries. -/
  views : ∀ name view, before.holdings.frozen? name = some view →
    view.record ≠ inst.record ∧ after.store.record view.record = before.store.record view.record
  /-- Every value is displayed and exported the same, be it acyclic or not. -/
  values : ∀ value, before.Has value →
    after.store.display value = before.store.display value ∧
      after.store.toJson value = before.store.toJson value

variable {inst : Instance} {before after : Session}

/-- Who leads to what is visible does not lead to the record of the instance. -/
theorem ne_record_of_visible {id : RecordId}
    (visible : session.store.Visible (Instance.Hidden (· = inst)) (.record id)) :
    id ≠ inst.record := by
  rintro rfl
  exact visible.2 ⟨inst, rfl, rfl⟩

/-- Where only the record of an instance has changed, which nothing leads to, all the rest is
the same. -/
theorem sameBut_of_agreeBut (keeps : before.Keeps (· = inst))
    (holdings : after.holdings = before.holdings)
    (agree : Store.AgreeBut (Instance.Hidden (· = inst)) before.store after.store) :
    SameBut inst before after := by
  have secludes := keeps.secludes
  have record : ∀ id, id ≠ inst.record → after.store.record id = before.store.record id := by
    intro id other
    refine agree.record id fun concealed => other ?_
    have same := (hidden_eq_iff inst (.record id)).1 concealed
    cases same
    rfl
  have exported : ∀ id, before.store.Visible (Instance.Hidden (· = inst)) (.record id) →
      after.store.toJson (.record id) = before.store.toJson (.record id) :=
    fun id visible => agree.toJson secludes ((Value.within_record id).2 visible)
  refine ⟨holdings, agree.has, record, fun id => ?_, fun name other held different => ?_,
    fun name view held => ?_, fun value has => ?_⟩
  · refine agree.array id fun concealed => ?_
    cases (hidden_eq_iff inst (.array id)).1 concealed
  · have visible := (keeps.guards.inst? held).resolve_left different
    have apart := ne_record_of_visible visible
    refine ⟨apart, ?_, exported _ visible⟩
    rw [entries, entries, record _ apart]
    refine List.map_congr_left fun entry member => ?_
    have within := secludes.records _ entry.1 entry.2 (Dict.mem_entries.1 member)
    exact congrArg (Prod.mk entry.1) (agree.unfold secludes within)
  · have apart := ne_record_of_visible (keeps.guards.frozen? held)
    exact ⟨apart, record _ apart⟩
  · have within := keeps.within_of_has has
    exact ⟨agree.display secludes within, agree.toJson secludes within⟩

/-! ### Writing a field -/

variable {step write : Step} {on key : String} {store : Store} {value : Value}

/-- A record that an instance is made from is not the record it has of its own. -/
theorem Founds.seed_ne_record {interface : Interface} {entries : Dict Value} {seeded : Store}
    {seed : RecordId} (founds : session.Founds step interface inst entries)
    (h : session.Keeps fun _ => False)
    (evaluated : session.holdings.evaluateItems session.store step.operands =
      some (seeded, [.record seed])) : seed ≠ inst.record := by
  obtain ⟨store, operands, _, _, evaluated', _, _, record, _⟩ := founds.performed
  cases evaluated.symm.trans evaluated'
  have visible := (Value.within_record seed).1
    ((respects_operands h evaluated).2 _ List.mem_cons_self)
  rintro rfl
  rw [record] at visible
  exact Store.not_hasRecord_newRecord _ _ visible.1

/-- **The main theorem**: whenever a field is written of an instance with a record of its own,
all the rest is afterwards as it was before, once the value was made that is written: what
is held, every other record and every array, every other instance, the seed among the records,
every frozen view, and how every value that there is, the written one too, is displayed
and exported.  If the write is accepted, one key of the record has changed; if it is
refused, nothing has, and that was logged. -/
theorem ownWrite_unseen {series : Nat} {earlier : List Step} {interface : Interface}
    {entries : Dict Value}
    (founds : ((start series).runSteps earlier).Founds step interface inst entries)
    (later : List Step) (action : write.action = .setField on key)
    (held : ((((start series).runSteps earlier).run step).1.runSteps later).holdings.inst? on =
      some inst)
    (evaluated : ((((start series).runSteps earlier).run step).1.runSteps
        later).holdings.evaluateItems
          ((((start series).runSteps earlier).run step).1.runSteps later).store write.operands =
      some (store, [value])) :
    let origin := (start series).runSteps earlier
    let session := (origin.run step).1.runSteps later
    let before := session.withStore store
    let after := (session.run write).1
    let outcome := (session.run write).2.outcome
    SameBut inst before after ∧
      (after.store.display value = before.store.display value ∧
        after.store.toJson value = before.store.toJson value) ∧
      (∀ seeded seed,
        origin.holdings.evaluateItems origin.store step.operands = some (seeded, [.record seed]) →
        after.store.record seed = before.store.record seed) ∧
      (interface.check key value = .ok () ∧ outcome = .ok .done ∧
          after = before.withStore (store.insert inst.record key value) ∧
          (∀ other, (after.store.record inst.record).get? other =
            if other = key then some value else (before.store.record inst.record).get? other) ∨
        ∃ violation, interface.check key value = .error violation ∧
          outcome = .error (.violation violation) ∧
          after = before.withWorld (before.world.emit (inst.refusal key violation))) := by
  intro origin session before after outcome
  have clear : origin.Keeps fun _ => False := keeps_runSteps_of_none (keeps_start series) earlier
  obtain ⟨rfl, -, keeps, -⟩ := founds.keeps clear
  obtain ⟨keeps, -, -⟩ := keeps_runSteps keeps later
  obtain ⟨respects, within⟩ := respects_operands keeps evaluated
  have kept : before.Keeps (· = inst) := (Moves.withStore keeps respects).keeps
  have concealed : Instance.Hidden (· = inst) (.record inst.record) := ⟨inst, rfl, rfl⟩
  have made : before.store.HasRecord inst.record := kept.secludes.made _ concealed
  have effect := run_setField_eq action held evaluated
  have holdings : after.holdings = before.holdings := by
    rcases effect with ⟨-, -, same⟩ | ⟨_, -, -, same⟩
    · exact (congrArg Session.holdings same).trans rfl
    · exact (congrArg Session.holdings same).trans rfl
  have agree : Store.AgreeBut (Instance.Hidden (· = inst)) before.store after.store := by
    rcases effect with ⟨-, -, same⟩ | ⟨_, -, -, same⟩
    · have stored : after.store = before.store.insert inst.record key value :=
        congrArg Session.store same
      rw [stored]
      exact Store.agreeBut_insert made concealed key value
    · have stored : after.store = before.store := (congrArg Session.store same).trans rfl
      rw [stored]
      exact .refl _
  have same : SameBut inst before after := sameBut_of_agreeBut kept holdings agree
  have operand := within value List.mem_cons_self
  refine ⟨same, ⟨agree.display kept.secludes operand, agree.toJson kept.secludes operand⟩,
    fun seeded seed seeding => same.record seed (founds.seed_ne_record clear seeding), ?_⟩
  refine effect.imp_left fun ⟨accepted, replied, changed⟩ =>
    ⟨accepted, replied, changed, fun other => ?_⟩
  have stored : after.store = before.store.insert inst.record key value :=
    congrArg Session.store changed
  rw [stored, Store.record_insert made, if_pos rfl, Dict.get?_insert]

/-- An instance from a seed that another instance and a frozen view are of as well, with a
record in it that all of them share: what is written to the one is seen by none of the others. -/
theorem ownWrite_unseen_shared :
    let inst : Instance := ⟨⟨0⟩, ⟨"P", .ofList [("a", none), ("b", none)], .validate⟩, ⟨2⟩⟩
    let earlier : List Step :=
      [⟨.newCatalog {}, [], some "k"⟩,
        ⟨.defineInterface "k" "P" (.declared [("a", none), ("b", none)]) none, [], some "P"⟩,
        ⟨.take, [.record [("a", .record [])]], some "s"⟩]
    let step : Step := ⟨.constructWith "P", [.held "s"], some "p"⟩
    let later : List Step :=
      [⟨.constructWith "P", [.held "s"], some "q"⟩, ⟨.freeze, [.held "s"], some "f"⟩]
    let write : Step := ⟨.setField "p" "a", [.string "x"], none⟩
    let session := (((start 0).runSteps earlier).run step).1.runSteps later
    let after := (session.run write).1
    ((start 0).runSteps earlier).Founds step inst.interface inst
        (.ofList [("a", .record ⟨0⟩)]) ∧
      session.holdings.inst? "p" = some inst ∧
      session.holdings.evaluateItems session.store write.operands =
        some (session.store, [.string "x"]) ∧
      (after.store.read ⟨1⟩ "a").same (.record ⟨0⟩) = true ∧
      (after.store.readFrozen ⟨⟨1⟩⟩ "a").same (.record ⟨0⟩) = true ∧
      (after.store.read ⟨3⟩ "a").same (.record ⟨0⟩) = true ∧
      after.store.read ⟨2⟩ "a" = .string "x" := by
  intro inst earlier step later write session after
  have founds : ((start 0).runSteps earlier).Founds step inst.interface inst
      (.ofList [("a", .record ⟨0⟩)]) :=
    @Founds.constructWith _ step "P" inst.interface ((start 0).runSteps earlier).store ⟨1⟩ _ inst
      rfl rfl rfl rfl rfl
  have held : session.holdings.inst? "p" = some inst := by decide +kernel
  have viewed : (session.withStore session.store).holdings.frozen? "f" = some ⟨⟨1⟩⟩ := by
    decide +kernel
  have evaluated : session.holdings.evaluateItems session.store write.operands =
      some (session.store, [.string "x"]) := by rfl
  have seeding : ((start 0).runSteps earlier).holdings.evaluateItems
      ((start 0).runSteps earlier).store step.operands =
        some (((start 0).runSteps earlier).store, [.record ⟨1⟩]) := by rfl
  obtain ⟨same, -, seed, ⟨-, -, -, written⟩ | ⟨_, refused, -⟩⟩ :=
    ownWrite_unseen founds later (show write.action = .setField "p" "a" from rfl) held evaluated
  · have view := (same.views "f" ⟨⟨1⟩⟩ viewed).2
    have other := same.record ⟨3⟩ (by decide)
    have seeded := seed _ ⟨1⟩ seeding
    refine ⟨founds, held, evaluated, ?_, ?_, ?_, ?_⟩
    · rw [Store.read, seeded]
      decide +kernel
    · rw [Store.readFrozen, Store.read, view]
      decide +kernel
    · rw [Store.read, other]
      decide +kernel
    · rw [Store.read, written "a", if_pos rfl]
      rfl
  · cases refused

end Session

end Contracts
