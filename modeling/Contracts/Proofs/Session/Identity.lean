import Contracts.Proofs.Heap.Sameness
import Contracts.Proofs.Session.Functions
import Contracts.Proofs.Session.Lasting

/-!
# Equal values in a session

Two values of a session are equal if they are the same, or if they are zeros of opposite sign:
whatever steps led to the session, functions with one identity are one function.  So nothing that
is told of equal values is different, now and later, but for how such zeros are displayed.

Equal containers are one container.  What is written through one of two equal values is read
through the other; and what is written through one of two others leaves the contents of the
other as they are, since a step writes to one container at most.

## Main definitions

* `Session.Writes` — a step writes through a value, and what is then at which place.
* `Session.Asks` — a step asks through a value for what is at a place.
* `Session.Alters` — a step changes the contents of a container, in whatever way.

## Main results

* `Session.Knows.eq_or_of_same` — **equal values in a session.**
* `Session.Writes.at?`, `Session.Asks.outcome` — what is written, and what is read.
* `Session.at?_run_of_not_alters`, `Session.Alters.unique` — what a step leaves as it is.
* `Session.same_indistinguishable` — **what equality means.**
-/

namespace Contracts

namespace Session

variable {session : Session} {step : Step} {book : List Callable} {container other : Container}
  {place : Place} {content : Option Value} {a b : Value}

/-! ### Equal values -/

/-- **Equal values in a session** are the same, or zeros of opposite sign. -/
theorem eq_or_of_same_of_listed (listed : a.category = .function → a.Listed book)
    (listed' : b.category = .function → b.Listed book) (same : a.same b = true) :
    a = b ∨ a.OppositeZeros b := by
  rcases Value.eq_or_of_same same with same | zeros | ⟨f, g, rfl, rfl, one⟩
  · exact .inl same
  · exact .inr zeros
  · exact .inl (congrArg Value.function (Callable.eq_of_listed (listed rfl) (listed' rfl) one))

/-- So they are among the operands of a step and all values that there were before it. -/
theorem Knows.eq_or_of_same (h : session.Knows book) {items : List Expression} {store : Store}
    {operands : List Value}
    (evaluated : session.holdings.evaluateItems session.store items = some (store, operands))
    (there : a.category = .function → session.Has a ∨ a ∈ operands)
    (there' : b.category = .function → session.Has b ∨ b ∈ operands) (same : a.same b = true) :
    a = b ∨ a.OppositeZeros b := by
  obtain ⟨⟨book', more, listed⟩, _⟩ := h.operands evaluated
  have known {value : Value} (there : session.Has value ∨ value ∈ operands) :
      value.Listed book' := by
    rcases there with has | given
    · exact (h.listed_of_has has).mono more
    · exact listed value given
  exact eq_or_of_same_of_listed (fun function => known (there function))
    (fun function => known (there' function)) same

/-- Two values that are held are compared as they are. -/
theorem outcome_compare {left right : String} (held : session.holdings.value? left = some a)
    (held' : session.holdings.value? right = some b) (action : step.action = .compare)
    (operands : step.operands = [.held left, .held right]) :
    (session.run step).2.outcome = .ok (.truths (a.same b) (b.same a)) := by
  have evaluated : session.holdings.evaluateItems session.store step.operands =
      some (session.store, [a, b]) := by
    simp only [operands, Holdings.evaluateItems, Holdings.evaluate, held, held',
      Option.bind_eq_bind, Option.bind_some, Option.pure_def]
  have compared : ((session.withStore session.store).perform step.action [a, b]).outcome =
      .ok (.truths (a.same b) (b.same a), none) := by
    rw [action]
    rfl
  exact (run_of_outcome evaluated compared).1

/-! ### Writing and reading through a value -/

/-- A step writes to a container through a value that names it: what is then at which place. -/
inductive Writes (session : Session) (step : Step) : Container → Place → Option Value → Prop
  /-- It writes an entry of a record. -/
  | insertion {id : RecordId} {key : String} {store : Store} {value : Value}
      (action : step.action = .insertEntry key)
      (operands : session.holdings.evaluateItems session.store step.operands =
        some (store, [.record id, value])) :
      Writes session step (.record id) (.entry key) (some value)
  /-- It removes an entry of a record. -/
  | removal {id : RecordId} {key : String} {store : Store} (action : step.action = .removeEntry key)
      (operands : session.holdings.evaluateItems session.store step.operands =
        some (store, [.record id])) :
      Writes session step (.record id) (.entry key) none
  /-- It adds an item to an array. -/
  | push {id : ArrayId} {store : Store} {item : Value} (action : step.action = .pushItem)
      (operands : session.holdings.evaluateItems session.store step.operands =
        some (store, [.array id, item])) :
      Writes session step (.array id) (.item (store.array id).size) (some item)

/-- A step asks through a value that names a container for what is at a place.  The store is
that in which its operands are. -/
inductive Asks (session : Session) (step : Step) : Container → Place → Store → Prop
  /-- It asks for an entry of a record. -/
  | entry {id : RecordId} {key : String} {store : Store} (action : step.action = .getEntry key)
      (operands : session.holdings.evaluateItems session.store step.operands =
        some (store, [.record id])) :
      Asks session step (.record id) (.entry key) store
  /-- It asks for an item of an array. -/
  | item {id : ArrayId} {index : Nat} {store : Store} (action : step.action = .getItem index)
      (operands : session.holdings.evaluateItems session.store step.operands =
        some (store, [.array id])) :
      Asks session step (.array id) (.item index) store

/-- **What is written is there**, in a container that was made. -/
theorem Writes.at? (h : session.Keeps fun _ => False)
    (writes : session.Writes step container place content) :
    (session.run step).1.store.Has container ∧
      (session.run step).1.store.at? container.value place = content := by
  cases writes with
  | @insertion id key store value action operands =>
    have made := (Value.within_record id).1 ((respects_operands h operands).2 _ List.mem_cons_self)
    have written : (session.run step).1.store = store.insert id key value := by
      rw [store_run operands, action]
      rfl
    rw [written]
    refine ⟨(Store.has_setRecord ..).2 made.1, ?_⟩
    show ((store.insert id key value).record id).get? key = some value
    rw [Store.record_insert made.1, if_pos rfl, Dict.get?_insert_self]
  | @removal id key store action operands =>
    have made := (Value.within_record id).1 ((respects_operands h operands).2 _ List.mem_cons_self)
    have written : (session.run step).1.store = store.remove id key := by
      rw [store_run operands, action]
      rfl
    rw [written]
    refine ⟨(Store.has_setRecord ..).2 made.1, ?_⟩
    show ((store.remove id key).record id).get? key = none
    rw [Store.record_remove made.1, if_pos rfl, Dict.get?_erase, if_pos rfl]
  | @push id store item action operands =>
    have made := (Value.within_array id).1 ((respects_operands h operands).2 _ List.mem_cons_self)
    have written : (session.run step).1.store = store.push id item := by
      rw [store_run operands, action]
      rfl
    rw [written]
    refine ⟨(Store.has_push ..).2 made.1, ?_⟩
    show ((store.push id item).array id)[(store.array id).size]? = some item
    rw [Store.array_push made.1, if_pos rfl, Array.getElem?_push_size]

/-- **What is asked for is what is there.** -/
theorem Asks.outcome (h : session.Knows book) {store : Store}
    (made : session.store.Has container) (asks : session.Asks step container place store) :
    (session.run step).2.outcome =
      .ok (.maybe ((session.store.at? container.value place).map store.unfold)) := by
  cases asks with
  | entry action operands => exact (outcome_of_reads made (.entry action operands)).1
  | @item id index store action operands =>
    -- evaluating the operands leaves the array as it is
    have same : store.array id = session.store.array id := (h.operands operands).2 id made
    have shown : ((session.withStore store).perform step.action [.array id]).outcome =
        .ok (.maybe (((store.array id)[index]?).map store.unfold),
          ((store.array id)[index]?).map .value) := by
      rw [action]
      rfl
    rw [same] at shown
    exact (run_of_outcome operands shown).1

/-! ### What a step leaves as it is -/

/-- A step changes the contents of a container: it assigns an entry of a record, or adds an item
to an array. -/
def Alters (session : Session) (step : Step) : Container → Prop
  | .record id => ∃ assignment, session.assignment step = some assignment ∧ assignment.record = id
  | .array id => session.pushes step id

/-- **A step leaves the contents of a container as they are** that it does not alter. -/
theorem at?_run_of_not_alters (h : session.Knows book) (made : session.store.Has container)
    (apart : ¬ session.Alters step container) (place : Place) :
    (session.run step).1.store.at? container.value place =
      session.store.at? container.value place := by
  cases container with
  | record id =>
    have kept : (session.run step).1.store.record id = session.store.record id := by
      rw [(session.becomes_run step id made).2]
      cases assigned : session.assignment step with
      | none => rfl
      | some assignment =>
        have elsewhere : assignment.record ≠ id := fun same => apart ⟨assignment, assigned, same⟩
        rw [Option.toList_some, List.foldl_cons, List.foldl_nil, Assignment.on, if_neg elsewhere]
    cases place with
    | entry key => exact congrArg (·.get? key) kept
    | item index => rfl
  | array id =>
    have kept := h.array_run apart made
    cases place with
    | entry key => rfl
    | item index => exact congrArg (·[index]?) kept

/-- **A step alters one container at most.** -/
theorem Alters.unique (h : session.Alters step container) (h' : session.Alters step other) :
    container = other := by
  -- a step that adds an item to an array assigns nothing
  have unassigned {id : ArrayId} (pushes : session.pushes step id) :
      session.assignment step = none := by
    obtain ⟨action, store, item, evaluated⟩ := pushes
    rw [assignment, evaluated, action]
    rfl
  cases container with
  | record id =>
    obtain ⟨assignment, assigned, rfl⟩ := h
    cases other with
    | record id' =>
      obtain ⟨assignment', assigned', rfl⟩ := h'
      cases assigned.symm.trans assigned'
      rfl
    | array id' => cases assigned.symm.trans (unassigned h')
  | array id =>
    cases other with
    | record id' =>
      obtain ⟨assignment', assigned', rfl⟩ := h'
      cases assigned'.symm.trans (unassigned h)
    | array id' =>
      obtain ⟨_, store, item, evaluated⟩ := h
      obtain ⟨_, store', item', evaluated'⟩ := h'
      cases evaluated.symm.trans evaluated'
      rfl

/-- Who writes through a value alters the container that it names. -/
theorem Writes.alters (writes : session.Writes step container place content) :
    session.Alters step container := by
  cases writes with
  | @insertion id key store value action operands =>
    refine ⟨⟨id, key, some value⟩, ?_, rfl⟩
    rw [assignment, operands, action]
    rfl
  | @removal id key store action operands =>
    refine ⟨⟨id, key, none⟩, ?_, rfl⟩
    rw [assignment, operands, action]
    rfl
  | @push id store item action operands => exact ⟨action, store, item, operands⟩

/-! ### What stays -/

/-- A value that there is names a container that was made. -/
theorem Keeps.made_of_has {own : Instance → Prop} (h : session.Keeps own)
    (has : session.Has container.value) : session.store.Has container := by
  have within := h.within_of_has has
  cases container with
  | record id => exact ((Value.within_record id).1 within).1
  | array id => exact ((Value.within_array id).1 within).1

/-- What was made is there after any steps. -/
theorem has_runSteps (h : session.Keeps fun _ => False) (made : session.store.Has container)
    (steps : List Step) : (session.runSteps steps).store.Has container := by
  induction steps generalizing session with
  | nil => exact made
  | cons step rest ih =>
    have moved := moves_run h step fun _ _ _ _ _ => id
    exact ih moved.keeps (moved.respects.grows container made)

/-- A value is held as it is until something else is held under its name. -/
theorem value?_runSteps {name : String} (held : session.holdings.value? name = some a)
    {steps : List Step} (unnamed : ∀ step ∈ steps, step.into ≠ some name) :
    (session.runSteps steps).holdings.value? name = some a :=
  Holdings.value?_eq_some.2 (get?_runSteps (Holdings.value?_eq_some.1 held) trivial unnamed)

/-! ### What equality means -/

/-- **The main theorem**, for the session that any steps lead to.  Equality is symmetric and
transitive, and leaves out not-a-number only.  Two values that there are, be it before a step or
as its operands, are equal only if they are the same or zeros of opposite sign; so they are alike
in every store.  Containers are equal if they are the same, and whatever steps come later, held
values are compared as before.  What is then written through one of two equal values is there for
the other and is read through it.  Of two containers that are not equal, the one keeps its
contents in a step that does not alter it, and no step alters both. -/
theorem same_indistinguishable (series : Nat) (earlier : List Step) :
    let session := (start series).runSteps earlier
    (∀ a b : Value, a.same b = true → b.same a = true) ∧
      (∀ a b c : Value, a.same b = true → b.same c = true → a.same c = true) ∧
      (∀ a : Value, a.same a = true ↔ a ≠ .number .nan) ∧
      (∀ items store operands,
        session.holdings.evaluateItems session.store items = some (store, operands) →
        ∀ a b : Value, (a.category = .function → session.Has a ∨ a ∈ operands) →
          (b.category = .function → session.Has b ∨ b ∈ operands) → a.same b = true →
          (a = b ∨ a.OppositeZeros b) ∧ ∀ anywhere : Store, anywhere.Alike a b) ∧
      (∀ container other : Container,
        container.value.same other.value = true ↔ container = other) ∧
      ∀ later,
        let now := session.runSteps later
        (∀ left right a b, session.holdings.value? left = some a →
          session.holdings.value? right = some b →
          (∀ step ∈ later, step.into ≠ some left ∧ step.into ≠ some right) →
          ∀ step, step.action = .compare → step.operands = [.held left, .held right] →
            (now.run step).2.outcome = .ok (.truths (a.same b) (b.same a))) ∧
        (∀ write container place content, now.Writes write container place content →
          now.Alters write container ∧
          ∀ other : Container, container.value.same other.value = true →
            let after := (now.run write).1
            after.store.at? other.value place = content ∧
              ∀ read store, after.Asks read other place store →
                (after.run read).2.outcome = .ok (.maybe (content.map store.unfold))) ∧
        ∀ container other : Container, session.Has other.value →
          container.value.same other.value = false →
          ∀ step, (now.Alters step container → ¬ now.Alters step other) ∧
            (¬ now.Alters step other → ∀ place,
              (now.run step).1.store.at? other.value place = now.store.at? other.value place) := by
  intro session
  have closed : session.Keeps fun _ => False := keeps_runSteps_of_none (keeps_start series) earlier
  obtain ⟨book, _, knows⟩ := (knows_start series).runSteps earlier
  refine ⟨fun a b same => by rwa [Value.same_comm], fun _ _ _ => Value.same_trans,
    Value.same_self_iff, ?_, Value.same_value_iff, fun later => ?_⟩
  · intro items store operands evaluated a b there there' same
    have next := knows.eq_or_of_same evaluated there there' same
    refine ⟨next, fun anywhere => ?_⟩
    rcases next with same | zeros
    · exact anywhere.alike_of_eq same
    · exact anywhere.alike_of_oppositeZeros zeros
  · intro now
    have closed' : now.Keeps fun _ => False := keeps_runSteps_of_none closed later
    obtain ⟨book', _, knows'⟩ := knows.runSteps later
    refine ⟨?_, ?_, ?_⟩
    · intro left right a b held held' unnamed step action operands
      have still := value?_runSteps held fun step member => (unnamed step member).1
      have still' := value?_runSteps held' fun step member => (unnamed step member).2
      exact outcome_compare still still' action operands
    · intro write container place content writes
      refine ⟨writes.alters, fun other same => ?_⟩
      cases (Value.same_value_iff container other).1 same
      obtain ⟨made, written⟩ := writes.at? closed'
      refine ⟨written, fun read store asks => ?_⟩
      obtain ⟨_, _, known⟩ := knows'.run write
      rw [asks.outcome known made, written]
    · intro container other has apart step
      have different : container ≠ other := fun same =>
        Bool.eq_false_iff.1 apart ((Value.same_value_iff container other).2 same)
      have made : now.store.Has other := has_runSteps closed (closed.made_of_has has) later
      exact ⟨fun alters alters' => different (alters.unique alters'), fun unaltered place =>
        at?_run_of_not_alters knows' made unaltered place⟩

/-- A record under two names, and two arrays: what is written under one name is read under the
other, and what is added to one array is not in the other. -/
theorem same_indistinguishable_shared :
    let session := (start 0).runSteps
      [⟨.newRecord, [], some "r"⟩, ⟨.take, [.held "r"], some "s"⟩, ⟨.newArray, [], some "x"⟩,
        ⟨.newArray, [], some "y"⟩]
    let now := session.runSteps [⟨.insertEntry "f", [.held "r", .function "f" 1 .first], none⟩]
    (now.run ⟨.compare, [.held "r", .held "s"], none⟩).2.outcome = .ok (.truths true true) ∧
      ((now.run ⟨.insertEntry "k", [.held "r", .boolean true], none⟩).1.run
        ⟨.getEntry "k", [.held "s"], none⟩).2.outcome = .ok (.maybe (some (.boolean true))) ∧
      (now.run ⟨.pushItem, [.held "x", .null], none⟩).1.store.at? (.array ⟨1⟩) (.item 0) =
        none := by
  intro session now
  have r : session.holdings.value? "r" = some (.record ⟨0⟩) := by rfl
  have s : session.holdings.value? "s" = some (.record ⟨0⟩) := by rfl
  have y : session.holdings.value? "y" = some (.array ⟨1⟩) := by rfl
  have unnamed : ∀ step ∈ ([⟨.insertEntry "f", [.held "r", .function "f" 1 .first], none⟩] :
      List Step), step.into ≠ some "r" ∧ step.into ≠ some "s" := by
    simp
  obtain ⟨_, _, _, _, _, later⟩ := same_indistinguishable 0 [⟨.newRecord, [], some "r"⟩,
    ⟨.take, [.held "r"], some "s"⟩, ⟨.newArray, [], some "x"⟩, ⟨.newArray, [], some "y"⟩]
  obtain ⟨compared, written, apart⟩ :=
    later [⟨.insertEntry "f", [.held "r", .function "f" 1 .first], none⟩]
  refine ⟨compared "r" "s" _ _ r s unnamed _ rfl rfl, ?_, ?_⟩
  · have shown := ((written ⟨.insertEntry "k", [.held "r", .boolean true], none⟩ _ _ _
      (.insertion rfl rfl)).2 (.record ⟨0⟩) rfl).2 ⟨.getEntry "k", [.held "s"], none⟩ _
      (.entry rfl rfl)
    refine shown.trans ?_
    simp only [Option.map_some, Store.unfold, Store.unfoldWithin]
  · have alters : now.Alters ⟨.pushItem, [.held "x", .null], none⟩ (.array ⟨0⟩) :=
      ⟨rfl, _, _, rfl⟩
    obtain ⟨one, kept⟩ := apart (.array ⟨0⟩) (.array ⟨1⟩) (.held y) rfl
      ⟨.pushItem, [.held "x", .null], none⟩
    exact (kept (one alters) (.item 0)).trans rfl

end Session

end Contracts
