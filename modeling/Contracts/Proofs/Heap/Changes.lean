import Contracts.Proofs.Heap.Custody

/-!
# Changes of records

Whatever is done to a store changes at most one entry of one record, apart from making new
records.  An **assignment** says which: it binds an entry or releases it.  Which one a call of a
function makes can be foretold from the function and its arguments if it can be foretold of
the body that runs in the end.

## Main definitions

* `Assignment` — one entry of a record is bound or released.
* `Assignment.on` — what an assignment makes of the entries of a record.
* `Store.Becomes` — between two stores there was an assignment, or none.
* `Bodies.Keep` — bodies make the assignments that are foretold.
* `Store.assigned` — the assignment that a call makes.
* `Routine.assigns` — the assignment that a routine makes.

## Main results

* `Store.becomes_insert`, `Store.becomes_remove` — what writing and removing an entry do.
* `Store.becomes_addJson`, `Store.becomes_newRecord` — what is made changes no record.
* `Store.becomes_call`, `Store.becomes_apply` — **calls make the assignment that was foretold**,
  if bodies do.
* `Routine.keep_forecast` — routines do.
-/

namespace Contracts

/-- One entry of a record is bound to a value, or released. -/
structure Assignment where
  /-- The record. -/
  record : RecordId
  /-- The key of the entry. -/
  key : String
  /-- The value, if the entry is bound. -/
  value : Option Value

namespace Assignment

/-- Whether it is an entry of a certain record, and one with a certain key. -/
def concerns (assignment : Assignment) (id : RecordId) (key : String) : Bool :=
  assignment.record == id && assignment.key == key

/-- What an assignment makes of the entries of a record. -/
def on (id : RecordId) (entries : Dict Value) (assignment : Assignment) : Dict Value :=
  if assignment.record = id then
    match assignment.value with
    | some value => entries.insert assignment.key value
    | none => entries.erase assignment.key
  else entries

/-- The last value that was assigned to an entry; none was if it was released. -/
def last? (id : RecordId) (key : String) (assignments : List Assignment) :
    Option (Option Value) :=
  (assignments.reverse.find? (·.concerns id key)).map Assignment.value

theorem get?_on (id : RecordId) (entries : Dict Value) (assignment : Assignment) (key : String) :
    (assignment.on id entries).get? key =
      if assignment.concerns id key then assignment.value else entries.get? key := by
  obtain ⟨record, assigned, value⟩ := assignment
  unfold on concerns
  dsimp only
  by_cases here : record = id
  · rw [if_pos here]
    cases value with
    | none =>
      dsimp only
      rw [Dict.get?_erase]
      simp [here, @eq_comm _ assigned]
    | some value =>
      dsimp only
      rw [Dict.get?_insert]
      simp [here, @eq_comm _ assigned]
  · rw [if_neg here]
    simp [here]

theorem last?_cons (id : RecordId) (key : String) (assignment : Assignment)
    (rest : List Assignment) :
    last? id key (assignment :: rest) =
      (last? id key rest).or
        (if assignment.concerns id key then some assignment.value else none) := by
  unfold last?
  rw [List.reverse_cons, List.find?_append, Option.map_or]
  congr 1
  cases concerned : assignment.concerns id key <;> simp [concerned]

/-- **The last assignment counts**: each entry is as it was assigned last, or else as it was. -/
theorem get?_foldl_on (id : RecordId) (entries : Dict Value) (assignments : List Assignment)
    (key : String) :
    (assignments.foldl (Assignment.on id) entries).get? key =
      (last? id key assignments).getD (entries.get? key) := by
  induction assignments generalizing entries with
  | nil => rfl
  | cons assignment rest ih =>
    rw [List.foldl_cons, ih, get?_on, last?_cons]
    cases last? id key rest with
    | some value => rfl
    | none => split <;> rfl

end Assignment

/-! ### Stores before and after -/

namespace Store

/-- Between two stores an assignment was made, or none: the records that there were have
the entries that it leaves them. -/
def Becomes (assignment : Option Assignment) (before after : Store) : Prop :=
  ∀ id, before.HasRecord id → after.HasRecord id ∧
    after.record id = assignment.toList.foldl (Assignment.on id) (before.record id)

variable {store before middle after : Store} {assignment : Option Assignment}

namespace Becomes

theorem refl (store : Store) : Becomes none store store := fun _ made => ⟨made, rfl⟩

/-- Nothing was assigned before. -/
theorem after_none (h : Becomes none before middle) (h' : Becomes assignment middle after) :
    Becomes assignment before after := by
  intro id made
  obtain ⟨made', same⟩ := h id made
  obtain ⟨made'', changed⟩ := h' id made'
  exact ⟨made'', by rw [changed, same]; rfl⟩

/-- Nothing was assigned afterwards. -/
theorem then_none (h : Becomes assignment before middle) (h' : Becomes none middle after) :
    Becomes assignment before after := by
  intro id made
  obtain ⟨made', changed⟩ := h id made
  obtain ⟨made'', same⟩ := h' id made'
  exact ⟨made'', by rw [← changed, same]; rfl⟩

/-- Only the entries of records count. -/
theorem of_records (same : after.records = before.records) : Becomes none before after := by
  intro id made
  unfold HasRecord record
  rw [same]
  exact ⟨made, rfl⟩

end Becomes

/-! ### Writing and making -/

theorem becomes_setRecord {store : Store} {record : RecordId} {entries : Dict Value}
    {assignment : Assignment} (target : assignment.record = record)
    (entries_eq : entries = assignment.on record (store.record record)) :
    Becomes (some assignment) store (store.setRecord record entries) := by
  intro id made
  refine ⟨(hasRecord_setRecord ..).2 made, ?_⟩
  rw [Option.toList_some, List.foldl_cons, List.foldl_nil]
  by_cases here : id = record
  · subst here
    rw [record_setRecord made, if_pos rfl, entries_eq]
  · have elsewhere : assignment.on id (store.record id) = store.record id := by
      rw [Assignment.on, target, if_neg (Ne.symm here)]
    rw [elsewhere]
    by_cases there : store.HasRecord record
    · rw [record_setRecord there, if_neg here]
    · exact record_setRecord_of_not_made there entries id

theorem becomes_insert (store : Store) (id : RecordId) (key : String) (value : Value) :
    Becomes (some ⟨id, key, some value⟩) store (store.insert id key value) :=
  becomes_setRecord rfl (by simp only [Assignment.on, if_pos])

theorem becomes_remove (store : Store) (id : RecordId) (key : String) :
    Becomes (some ⟨id, key, none⟩) store (store.remove id key) :=
  becomes_setRecord rfl (by simp only [Assignment.on, if_pos])

theorem becomes_newRecord (store : Store) (entries : Dict Value) :
    Becomes none store (store.newRecord entries).1 :=
  fun _ made => ⟨store.hasRecord_of_hasRecord entries made,
    store.record_newRecord_of_hasRecord entries made⟩

mutual

/-- Making a value from a JSON value changes no record. -/
theorem becomes_addJson (store : Store) (json : Json) :
    Becomes none store (store.addJson json).1 := by
  cases json with
  | array items => exact (becomes_addItems store items).then_none (.of_records rfl)
  | object members => exact (becomes_addMembers store members).then_none (becomes_newRecord _ _)
  | _ => exact .refl store

theorem becomes_addItems (store : Store) (items : List Json) :
    Becomes none store (store.addItems items).1 := by
  cases items with
  | nil => exact .refl store
  | cons item rest => exact (becomes_addJson store item).then_none (becomes_addItems _ rest)

theorem becomes_addMembers (store : Store) (members : List (String × Json)) :
    Becomes none store (store.addMembers members).1 := by
  cases members with
  | nil => exact .refl store
  | cons entry rest => exact (becomes_addJson store entry.2).then_none (becomes_addMembers _ rest)

end

/-! ### Calling -/

end Store

/-- The assignments that bodies are going to make. -/
abbrev Forecast := Body → FunctionId → Store → List Value → Option Assignment

/-- **Bodies make the assignments that are foretold**, and no others. -/
def Bodies.Keep (bodies : Bodies) (forecast : Forecast) : Prop :=
  ∀ body id (store : Store) arguments,
    store.Becomes (forecast body id store arguments) (bodies body id store arguments).1

namespace Store

/-- The assignment that a call of a function makes, if it makes one. -/
def assigned (store : Store) (forecast : Forecast) (f : Callable) (arguments : List Value) :
    Option Assignment :=
  (f.run? arguments).bind fun run =>
    forecast run.body run.id (store.recordCall run.invocation) run.arguments

variable {bodies : Bodies} {forecast : Forecast}

/-- **Calls** make the assignment that was foretold. -/
theorem becomes_call (keep : bodies.Keep forecast) (store : Store) (f : Callable)
    (arguments : List Value) :
    Becomes (store.assigned forecast f arguments) store (store.call bodies f arguments).1 := by
  unfold assigned
  cases runs : f.run? arguments with
  | none =>
    obtain ⟨g, called⟩ := call_of_waits runs store
    rw [called]
    exact .of_records rfl
  | some run =>
    have recorded : Becomes none store (store.recordCall run.invocation) := .of_records rfl
    rw [call_of_run runs]
    exact recorded.after_none (keep run.body run.id _ run.arguments)

/-- The assignment that giving arguments to an application makes. -/
def assignedBy (store : Store) (forecast : Forecast) (application : Application)
    (arguments : List Value) : Option Assignment :=
  let all := application.supplied ++ arguments
  if application.target.arity ≤ all.length then
    store.assigned forecast application.target (all.take application.target.arity)
  else none

theorem becomes_apply (keep : bodies.Keep forecast) (store : Store) (application : Application)
    (arguments : List Value) :
    Becomes (store.assignedBy forecast application arguments) store
      (store.apply bodies application arguments).1 := by
  unfold apply assignedBy
  dsimp only
  split
  · exact becomes_call keep store application.target _
  · exact .refl store

theorem becomes_toValue (store : Store) (applied : Applied) :
    Becomes none store (store.toValue applied).1 := by
  cases applied with
  | complete value => exact .refl store
  | incomplete application => exact .of_records rfl

end Store

/-! ### Routines -/

namespace Routine

/-- The assignment that a routine makes.  One that calls a function makes the one that the body
makes which runs then. -/
def assigns (routine : Routine) (store : Store) (id : FunctionId) (arguments : List Value) :
    Option Assignment :=
  match _called : routine.effect store id arguments with
  | .put record key value => some ⟨record, key, some value⟩
  | .call f rest =>
      match _runs : f.run? rest with
      | some run =>
          match of? run.body with
          | some next => next.assigns (store.recordCall run.invocation) run.id run.arguments
          | none => none
      | none => none
  | _ => none
termination_by listWeight arguments
decreasing_by
  have fits := routine.fits_effect store id arguments
  rw [_called] at fits
  cases fits with
  | call split =>
    have less := listWeight_run_lt _runs
    rw [split, listWeight, valueWeight]
    omega

/-- What is assigned by routines. -/
def forecast : Forecast := fun body id store arguments =>
  (of? body).bind fun routine => routine.assigns store id arguments

/-- **Routines** make the assignments that are foretold of them. -/
theorem keep_forecast : Routine.bodies.Keep forecast := by
  intro body id store arguments
  rw [bodies_eq]
  simp only [step, forecast]
  cases of? body with
  | none => exact .refl store
  | some routine =>
    rw [Option.bind_some]
    dsimp only
    fun_induction assigns routine store id arguments with
    | case1 routine store id arguments record key value called =>
      rw [called]
      exact store.becomes_insert record key value
    | case2 routine store id arguments f rest called run runs next known ih =>
      have recorded : Store.Becomes none store (store.recordCall run.invocation) := .of_records rfl
      rw [called, Effect.on, Store.call_of_run runs, bodies_eq, step, known]
      exact recorded.after_none ih
    | case3 routine store id arguments f rest called run runs unknown =>
      rw [called, Effect.on, Store.call_of_run runs, bodies_eq, step, unknown]
      exact .of_records rfl
    | case4 routine store id arguments f rest called waits =>
      obtain ⟨g, calls⟩ := Store.call_of_waits waits store
      rw [called, Effect.on, calls]
      exact .of_records rfl
    | case5 routine store id arguments other noCall =>
      cases effect : routine.effect store id arguments with
      | give value => exact .refl store
      | list items => exact .of_records rfl
      | put record key value => exact absurd effect (other record key value)
      | call f rest => exact absurd effect (noCall f rest)

end Routine

end Contracts
