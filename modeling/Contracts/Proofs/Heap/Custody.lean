import Contracts.Heap.Exchange
import Contracts.Proofs.Dict
import Contracts.Proofs.Heap.Routine

/-!
# Containers that no value names

A record or an array is changed by whoever has its name.  So one whose name is in no value,
be it as the value itself, among the arguments that were given to a function, or among the
contents of a record or of an array, keeps its contents whatever is done with values.  Such
containers are called **hidden** here, all others that were made are **visible**.

Values lead to hidden containers in no number of steps, because no operation gives a name
out that it was not given: the names in what it returns and in what it stores are those
of its arguments, of what was stored before, and of what it made.  Where nothing is hidden
this says that values name only what was made.

## Main definitions

* `Value.containers`, `Callable.containers` — the containers that a value names by itself.
* `Store.Secludes` — no stored value names a hidden container.
* `Store.Respects` — from one store to a later one no hidden container was named or changed.
* `Bodies.Confined` — bodies reach no containers but those that they are given.

## Main results

* `Store.respects_insert`, `Store.respects_newRecord`, … — one fact for each operation.
* `Store.returns_call`, `Store.respects_apply` — **calling functions respects hidden
  containers**, if the bodies of functions do.
* `Routine.confined` — routines do.
* `Store.returns_addJson` — so does making values.
-/

namespace Contracts

/-! ### Names in values -/

mutual

/-- The containers that a value names, without those that are named in the store. -/
def Value.containers : Value → List Container
  | .array id => [.array id]
  | .record id => [.record id]
  | .function f => f.containers
  | _ => []

/-- The containers that are named by arguments given to a function. -/
def Callable.containers : Callable → List Container
  | .native .. => []
  | .applied _ target supplied => target.containers ++ Value.containersOfAll supplied

/-- The containers that values name. -/
def Value.containersOfAll : List Value → List Container
  | [] => []
  | value :: rest => value.containers ++ Value.containersOfAll rest

end

/-- A value names only containers with a property. -/
def Value.Within (p : Container → Prop) (value : Value) : Prop :=
  ∀ container ∈ value.containers, p container

/-- A function names only containers with a property. -/
def Callable.Within (p : Container → Prop) (f : Callable) : Prop :=
  ∀ container ∈ f.containers, p container

namespace Value

variable {p q : Container → Prop}

theorem mem_containersOfAll {values : List Value} {container : Container} :
    container ∈ containersOfAll values ↔ ∃ value ∈ values, container ∈ value.containers := by
  induction values with
  | nil => simp [containersOfAll]
  | cons value rest ih => simp [containersOfAll, ih]

theorem Within.mono (le : ∀ container, p container → q container) {value : Value}
    (h : value.Within p) : value.Within q :=
  fun container member => le container (h container member)

@[simp] theorem within_undefined : undefined.Within p := fun _ named => nomatch named

@[simp] theorem within_null : null.Within p := fun _ named => nomatch named

@[simp] theorem within_boolean (b : Bool) : (boolean b).Within p := fun _ named => nomatch named

@[simp] theorem within_number (x : Number) : (number x).Within p := fun _ named => nomatch named

@[simp] theorem within_string (s : String) : (string s).Within p := fun _ named => nomatch named

@[simp] theorem within_array (id : ArrayId) : (array id).Within p ↔ p (.array id) :=
  List.forall_mem_singleton

@[simp] theorem within_record (id : RecordId) : (record id).Within p ↔ p (.record id) :=
  List.forall_mem_singleton

@[simp] theorem within_function (f : Callable) : (function f).Within p ↔ f.Within p := Iff.rfl

theorem IsScalar.within {value : Value} (h : value.IsScalar) : value.Within p := by
  cases h <;> exact fun _ named => nomatch named

end Value

namespace Callable

variable {p q : Container → Prop}

theorem Within.mono (le : ∀ container, p container → q container) {f : Callable}
    (h : f.Within p) : f.Within q :=
  fun container member => le container (h container member)

@[simp] theorem within_native (id : FunctionId) (name : String) (arity : Nat)
    (body : Body) : (native id name arity body).Within p := fun _ named => nomatch named

@[simp] theorem within_applied (id : FunctionId) (target : Callable) (supplied : List Value) :
    (applied id target supplied).Within p ↔
      target.Within p ∧ ∀ value ∈ supplied, value.Within p := by
  simp only [Callable.Within, Callable.containers, List.mem_append, Value.mem_containersOfAll]
  constructor
  · intro h
    exact ⟨fun container member => h container (.inl member),
      fun value given container member => h container (.inr ⟨value, given, member⟩)⟩
  · rintro ⟨target, supplied⟩ container (member | ⟨value, given, member⟩)
    · exact target container member
    · exact supplied value given container member

end Callable

/-! ### Stores with hidden containers -/

namespace Store

/-- The container has been made. -/
def Has (store : Store) : Container → Prop
  | .record id => store.HasRecord id
  | .array id => store.HasArray id

/-- The container was made and is not hidden. -/
def Visible (hidden : Container → Prop) (store : Store) (container : Container) : Prop :=
  store.Has container ∧ ¬ hidden container

/-- Hidden containers were made, and no value in the store names one. -/
structure Secludes (hidden : Container → Prop) (store : Store) : Prop where
  /-- A hidden container is one that was made. -/
  made : ∀ container, hidden container → store.Has container
  /-- Values in records, hidden ones too, name what is visible. -/
  records : ∀ id key value, (store.record id).get? key = some value →
    value.Within (store.Visible hidden)
  /-- So do values in arrays. -/
  arrays : ∀ id, ∀ value ∈ store.array id, value.Within (store.Visible hidden)

/-- What happened between two stores did not reach a hidden container, and gave no value a
name of one. -/
structure Respects (hidden : Container → Prop) (before after : Store) : Prop where
  /-- No value names a hidden container. -/
  secludes : after.Secludes hidden
  /-- Containers that were made stay. -/
  grows : ∀ container, before.Has container → after.Has container
  /-- The hidden records keep their entries. -/
  kept : ∀ id, hidden (.record id) → after.record id = before.record id
  /-- The hidden arrays keep their items. -/
  keptItems : ∀ id, hidden (.array id) → after.array id = before.array id

variable {hidden : Container → Prop} {store before middle after : Store}

namespace Respects

theorem refl (h : store.Secludes hidden) : Respects hidden store store :=
  ⟨h, fun _ made => made, fun _ _ => rfl, fun _ _ => rfl⟩

theorem trans (h : Respects hidden before middle) (h' : Respects hidden middle after) :
    Respects hidden before after where
  secludes := h'.secludes
  grows container made := h'.grows container (h.grows container made)
  kept id concealed := (h'.kept id concealed).trans (h.kept id concealed)
  keptItems id concealed := (h'.keptItems id concealed).trans (h.keptItems id concealed)

theorem visible (h : Respects hidden before after) (container : Container)
    (visible : before.Visible hidden container) : after.Visible hidden container :=
  ⟨h.grows container visible.1, visible.2⟩

/-- What a value names stays visible. -/
theorem within (h : Respects hidden before after) {value : Value}
    (within : value.Within (before.Visible hidden)) : value.Within (after.Visible hidden) :=
  within.mono h.visible

theorem all_within (h : Respects hidden before after) {values : List Value}
    (within : ∀ value ∈ values, value.Within (before.Visible hidden)) :
    ∀ value ∈ values, value.Within (after.Visible hidden) :=
  fun value member => h.within (within value member)

/-- Only the contents of records and arrays count. -/
theorem of_eq (h : before.Secludes hidden) (records : after.records = before.records)
    (arrays : after.arrays = before.arrays) : Respects hidden before after := by
  obtain ⟨_, _, _, _⟩ := before
  obtain ⟨_, _, _, _⟩ := after
  cases records
  cases arrays
  exact ⟨⟨h.made, h.records, h.arrays⟩, fun _ made => made, fun _ _ => rfl, fun _ _ => rfl⟩

end Respects

/-! ### Changing records and arrays -/

theorem hasRecord_setRecord (store : Store) (id other : RecordId) (entries : Dict Value) :
    (store.setRecord id entries).HasRecord other ↔ store.HasRecord other := by
  rw [HasRecord, HasRecord, setRecord, Array.size_setIfInBounds]

theorem has_setRecord (store : Store) (id : RecordId) (entries : Dict Value)
    (container : Container) :
    (store.setRecord id entries).Has container ↔ store.Has container := by
  cases container with
  | record other => exact store.hasRecord_setRecord id other entries
  | array other => exact Iff.rfl

theorem visible_setRecord (store : Store) (id : RecordId) (entries : Dict Value) :
    (store.setRecord id entries).Visible hidden = store.Visible hidden := by
  funext container
  rw [Visible, Visible, has_setRecord]

/-- A record that was never made cannot be given entries. -/
theorem record_setRecord_of_not_made {id : RecordId} (h : ¬ store.HasRecord id)
    (entries : Dict Value) (other : RecordId) :
    (store.setRecord id entries).record other = store.record other := by
  have outside : ¬ id.index < store.records.size := h
  rw [record, record, setRecord, Array.setIfInBounds, dif_neg outside]

/-- Entries of a record come from what it is given, or were there before. -/
theorem get?_setRecord {id other : RecordId} {entries : Dict Value} {key : String}
    {value : Value} (h : ((store.setRecord id entries).record other).get? key = some value) :
    entries.get? key = some value ∨ (store.record other).get? key = some value := by
  by_cases made : store.HasRecord id
  · rw [record_setRecord made] at h
    split at h
    · exact .inl h
    · exact .inr h
  · rw [record_setRecord_of_not_made made] at h
    exact .inr h

/-- Any record may be given values that name what is visible. -/
theorem Secludes.setRecord (h : store.Secludes hidden) (id : RecordId) {entries : Dict Value}
    (within : ∀ key value, entries.get? key = some value → value.Within (store.Visible hidden)) :
    (store.setRecord id entries).Secludes hidden where
  made other concealed := (has_setRecord ..).2 (h.made other concealed)
  records other key value found := by
    rw [visible_setRecord]
    rcases get?_setRecord found with found | found
    · exact within key value found
    · exact h.records other key value found
  arrays other value member := by
    rw [visible_setRecord]
    exact h.arrays other value member

/-- One that is visible may be given them without reaching those that are hidden. -/
theorem respects_setRecord (h : store.Secludes hidden) {id : RecordId}
    (visible : store.Visible hidden (.record id)) {entries : Dict Value}
    (within : ∀ key value, entries.get? key = some value → value.Within (store.Visible hidden)) :
    Respects hidden store (store.setRecord id entries) where
  secludes := h.setRecord id within
  grows other made := (has_setRecord ..).2 made
  kept other concealed := by
    have ne : other ≠ id := fun same => visible.2 (same ▸ concealed)
    rw [record_setRecord visible.1, if_neg ne]
  keptItems _ _ := rfl

/-- Entries with one more name what is visible if the new one does. -/
theorem Secludes.within_insert (h : store.Secludes hidden) (id : RecordId) (key : String)
    {value : Value} (within : value.Within (store.Visible hidden)) :
    ∀ other found, ((store.record id).insert key value).get? other = some found →
      found.Within (store.Visible hidden) := by
  intro other found bound
  rw [Dict.get?_insert] at bound
  split at bound
  · cases bound
    exact within
  · exact h.records id other found bound

theorem Secludes.insert (h : store.Secludes hidden) (id : RecordId) (key : String)
    {value : Value} (within : value.Within (store.Visible hidden)) :
    (store.insert id key value).Secludes hidden :=
  h.setRecord id (h.within_insert id key within)

theorem respects_insert (h : store.Secludes hidden) {id : RecordId}
    (visible : store.Visible hidden (.record id)) (key : String) {value : Value}
    (within : value.Within (store.Visible hidden)) :
    Respects hidden store (store.insert id key value) :=
  respects_setRecord h visible (h.within_insert id key within)

theorem respects_remove (h : store.Secludes hidden) {id : RecordId}
    (visible : store.Visible hidden (.record id)) (key : String) :
    Respects hidden store (store.remove id key) := by
  refine respects_setRecord h visible fun other found bound => ?_
  rw [Dict.get?_erase] at bound
  split at bound
  · cases bound
  · exact h.records id other found bound

theorem array_push_of_not_made {id : ArrayId} (h : ¬ store.HasArray id) (item : Value)
    (other : ArrayId) : (store.push id item).array other = store.array other := by
  have outside : ¬ id.index < store.arrays.size := h
  rw [array, array, push, Array.setIfInBounds, dif_neg outside]

theorem mem_array_push {id other : ArrayId} {item value : Value}
    (h : value ∈ (store.push id item).array other) :
    value = item ∨ value ∈ store.array id ∨ value ∈ store.array other := by
  by_cases made : store.HasArray id
  · rw [array_push made] at h
    split at h
    · rcases Array.mem_push.1 h with member | same
      · exact .inr (.inl member)
      · exact .inl same
    · exact .inr (.inr h)
  · rw [array_push_of_not_made made] at h
    exact .inr (.inr h)

theorem has_push (store : Store) (id : ArrayId) (item : Value) (container : Container) :
    (store.push id item).Has container ↔ store.Has container := by
  cases container with
  | record other => exact Iff.rfl
  | array other => rw [Has, Has, HasArray, HasArray, push, Array.size_setIfInBounds]

theorem visible_push (store : Store) (id : ArrayId) (item : Value) :
    (store.push id item).Visible hidden = store.Visible hidden := by
  funext container
  rw [Visible, Visible, has_push]

theorem respects_push (h : store.Secludes hidden) {id : ArrayId}
    (visible : store.Visible hidden (.array id)) {item : Value}
    (within : item.Within (store.Visible hidden)) :
    Respects hidden store (store.push id item) where
  secludes :=
    { made := fun other concealed => (has_push ..).2 (h.made other concealed)
      records := fun other key value found => by
        rw [visible_push]
        exact h.records other key value found
      arrays := fun other value member => by
        rw [visible_push]
        rcases mem_array_push member with same | member | member
        · rw [same]
          exact within
        · exact h.arrays id value member
        · exact h.arrays other value member }
  grows other made := (has_push ..).2 made
  kept _ _ := rfl
  keptItems other concealed := by
    have ne : other ≠ id := fun same => visible.2 (same ▸ concealed)
    rw [array_push visible.1, if_neg ne]

/-! ### Making records, arrays and functions -/

theorem hasRecord_of_hasRecord (store : Store) (entries : Dict Value) {id : RecordId}
    (made : store.HasRecord id) : (store.newRecord entries).1.HasRecord id := by
  have earlier : id.index < store.records.size := made
  rw [HasRecord, newRecord, Array.size_push]
  omega

theorem has_newRecord (store : Store) (entries : Dict Value) {container : Container}
    (made : store.Has container) : (store.newRecord entries).1.Has container := by
  cases container with
  | record id => exact store.hasRecord_of_hasRecord entries made
  | array id => exact made

/-- The name of a new record was that of none before. -/
theorem not_hasRecord_newRecord (store : Store) (entries : Dict Value) :
    ¬ store.HasRecord (store.newRecord entries).2 :=
  Nat.lt_irrefl _

theorem record_newRecord_self (store : Store) (entries : Dict Value) :
    (store.newRecord entries).1.record (store.newRecord entries).2 = entries := by
  rw [record_newRecord, if_pos rfl]

/-- Records that were made before keep their entries. -/
theorem record_newRecord_of_hasRecord (store : Store) (entries : Dict Value) {id : RecordId}
    (made : store.HasRecord id) : (store.newRecord entries).1.record id = store.record id := by
  rw [record_newRecord, if_neg]
  rintro rfl
  exact store.not_hasRecord_newRecord entries made

/-- A new record is visible, and so may hold values that name what is visible. -/
theorem respects_newRecord (h : store.Secludes hidden) {entries : Dict Value}
    (within : ∀ key value, entries.get? key = some value → value.Within (store.Visible hidden)) :
    Respects hidden store (store.newRecord entries).1 ∧
      (store.newRecord entries).1.Visible hidden (.record (store.newRecord entries).2) := by
  -- hidden records were made before, so the new one is none of them
  have fresh : ∀ id, hidden (.record id) → id ≠ (store.newRecord entries).2 := by
    intro id concealed same
    exact store.not_hasRecord_newRecord entries (same ▸ h.made _ concealed)
  have visible : ∀ container, store.Visible hidden container →
      (store.newRecord entries).1.Visible hidden container :=
    fun container visible => ⟨store.has_newRecord entries visible.1, visible.2⟩
  refine ⟨⟨⟨?_, ?_, ?_⟩, ?_, ?_, ?_⟩, store.hasRecord_newRecord entries, fun concealed =>
    fresh _ concealed rfl⟩
  · intro container concealed
    exact store.has_newRecord entries (h.made container concealed)
  · intro id key value found
    rw [record_newRecord] at found
    split at found
    · exact (within key value found).mono visible
    · exact (h.records id key value found).mono visible
  · intro id value member
    exact (h.arrays id value member).mono visible
  · intro container made
    exact store.has_newRecord entries made
  · intro id concealed
    rw [record_newRecord, if_neg (fresh id concealed)]
  · intro id concealed
    rfl

/-- A new record may be hidden as well, as long as it is not given out. -/
theorem Secludes.conceal {hidden' : Container → Prop} (h : store.Secludes hidden)
    {entries : Dict Value}
    (within : ∀ key value, entries.get? key = some value → value.Within (store.Visible hidden))
    (only : ∀ container, hidden' container ↔
      container = .record (store.newRecord entries).2) :
    (store.newRecord entries).1.Secludes hidden' ∧
      ∀ container, store.Visible hidden container →
        (store.newRecord entries).1.Visible hidden' container := by
  -- what was visible was made before, and so is not the new record
  have visible : ∀ container, store.Visible hidden container →
      (store.newRecord entries).1.Visible hidden' container := by
    rintro container ⟨made, _⟩
    refine ⟨store.has_newRecord entries made, fun concealed => ?_⟩
    rw [(only container).1 concealed] at made
    exact store.not_hasRecord_newRecord entries made
  refine ⟨⟨?_, ?_, ?_⟩, visible⟩
  · intro container concealed
    rw [(only container).1 concealed]
    exact store.hasRecord_newRecord entries
  · intro id key value found
    rw [record_newRecord] at found
    split at found
    · exact (within key value found).mono visible
    · exact (h.records id key value found).mono visible
  · intro id value member
    exact (h.arrays id value member).mono visible

theorem respects_newRecord_empty (h : store.Secludes hidden) :
    Respects hidden store (store.newRecord .empty).1 ∧
      (store.newRecord .empty).1.Visible hidden (.record (store.newRecord .empty).2) :=
  respects_newRecord h fun _ _ found => nomatch found

theorem hasArray_of_hasArray (store : Store) (items : Array Value) {id : ArrayId}
    (made : store.HasArray id) : (store.newArray items).1.HasArray id := by
  have earlier : id.index < store.arrays.size := made
  rw [HasArray, newArray, Array.size_push]
  omega

theorem has_newArray (store : Store) (items : Array Value) {container : Container}
    (made : store.Has container) : (store.newArray items).1.Has container := by
  cases container with
  | record id => exact made
  | array id => exact store.hasArray_of_hasArray items made

/-- The name of a new array was that of none before. -/
theorem not_hasArray_newArray (store : Store) (items : Array Value) :
    ¬ store.HasArray (store.newArray items).2 :=
  Nat.lt_irrefl _

/-- A new array is visible, too. -/
theorem respects_newArray (h : store.Secludes hidden) {items : Array Value}
    (within : ∀ value ∈ items, value.Within (store.Visible hidden)) :
    Respects hidden store (store.newArray items).1 ∧
      (store.newArray items).1.Visible hidden (.array (store.newArray items).2) := by
  have fresh : ∀ id, hidden (.array id) → id ≠ (store.newArray items).2 := by
    intro id concealed same
    exact store.not_hasArray_newArray items (same ▸ h.made _ concealed)
  have visible : ∀ container, store.Visible hidden container →
      (store.newArray items).1.Visible hidden container :=
    fun container visible => ⟨store.has_newArray items visible.1, visible.2⟩
  refine ⟨⟨⟨?_, ?_, ?_⟩, ?_, ?_, ?_⟩, store.hasArray_newArray items, fun concealed =>
    fresh _ concealed rfl⟩
  · intro container concealed
    exact store.has_newArray items (h.made container concealed)
  · intro id key value found
    exact (h.records id key value found).mono visible
  · intro id value member
    rw [array_newArray] at member
    split at member
    · exact (within value member).mono visible
    · exact (h.arrays id value member).mono visible
  · intro container made
    exact store.has_newArray items made
  · intro id concealed
    rfl
  · intro id concealed
    rw [array_newArray, if_neg (fresh id concealed)]

theorem respects_newArray_empty (h : store.Secludes hidden) :
    Respects hidden store (store.newArray #[]).1 ∧
      (store.newArray #[]).1.Visible hidden (.array (store.newArray #[]).2) :=
  respects_newArray h fun _ member => nomatch member

theorem respects_newFunction (h : store.Secludes hidden) :
    Respects hidden store store.newFunction.1 :=
  .of_eq h rfl rfl

theorem respects_recordCall (h : store.Secludes hidden) (call : Invocation) :
    Respects hidden store (store.recordCall call) :=
  .of_eq h rfl rfl

/-! ### Calling functions -/

/-- A value was returned that names nothing hidden, and nothing such was reached on the
way. -/
def Returns (hidden : Container → Prop) (store : Store) (result : Store × Value) : Prop :=
  Respects hidden store result.1 ∧ result.2.Within (result.1.Visible hidden)

theorem Returns.of_respects {result : Store × Value} (h : Respects hidden before middle)
    (h' : Returns hidden middle result) : Returns hidden before result :=
  ⟨h.trans h'.1, h'.2⟩

end Store

/-- **Bodies reach no containers but those that they are given**, be it among their arguments or
in what is stored, and those that they make. -/
def Bodies.Confined (bodies : Bodies) : Prop :=
  ∀ (hidden : Container → Prop) body id (store : Store) arguments, store.Secludes hidden →
    (∀ value ∈ arguments, value.Within (store.Visible hidden)) →
    store.Returns hidden (bodies body id store arguments)

namespace Store

variable {hidden : Container → Prop} {store : Store} {bodies : Bodies}

/-- **Calls** reach nothing hidden, either. -/
theorem returns_call (confined : bodies.Confined) (h : store.Secludes hidden) {f : Callable}
    {arguments : List Value} (target : f.Within (store.Visible hidden))
    (within : ∀ value ∈ arguments, value.Within (store.Visible hidden)) :
    Returns hidden store (store.call bodies f arguments) := by
  fun_induction store.call bodies f arguments with
  | case1 id name arity body arguments =>
    have recorded := respects_recordCall h ⟨id, name, arguments.length⟩
    exact .of_respects recorded
      (confined hidden body id _ arguments recorded.secludes (recorded.all_within within))
  | case2 id target' supplied arguments enough ih =>
    rw [Callable.within_applied] at target
    refine ih target.1 fun value member => ?_
    rcases List.mem_append.1 (List.mem_of_mem_take member) with given | given
    · exact target.2 value given
    · exact within value given
  | case3 id target' supplied arguments few store' id' made =>
    have named := respects_newFunction h
    cases made
    rw [Callable.within_applied] at target
    refine ⟨named, ?_⟩
    rw [Value.within_function, Callable.within_applied]
    refine ⟨target.1.mono named.visible, fun value member => named.within ?_⟩
    rcases List.mem_append.1 member with given | given
    · exact target.2 value given
    · exact within value given

end Store

/-- **Routines** reach no containers but those that they are given. -/
theorem Routine.confined : Routine.bodies.Confined := by
  intro hidden body id store arguments
  refine bodies_induction (P := fun arguments run => ∀ hidden id (store : Store),
      store.Secludes hidden → (∀ value ∈ arguments, value.Within (store.Visible hidden)) →
      store.Returns hidden (run id store))
    (fun _ _ _ _ h _ => ⟨.refl h, Value.within_undefined⟩)
    (fun bodies ih routine arguments hidden id store h within => ?_) body arguments hidden id store
  have fits := routine.fits_effect store id arguments
  have given {value : Value} (given : IsGiven arguments value) :
      value.Within (store.Visible hidden) := given.elim (within value) Value.IsScalar.within
  dsimp only
  generalize routine.effect store id arguments = effect at fits
  cases fits with
  | give returned => exact ⟨.refl h, given returned⟩
  | list =>
    obtain ⟨added, visible⟩ := Store.respects_newArray h fun value member =>
      within value (List.mem_toArray.1 member)
    exact ⟨added, (Value.within_array _).2 visible⟩
  | @put record key value written stored =>
    have visible := (Value.within_record record).1 (within _ written)
    have inserted := Store.respects_insert h visible key (given stored)
    exact ⟨inserted, (Value.within_record record).2 (inserted.visible _ visible)⟩
  | call split =>
    subst split
    obtain ⟨first, rest⟩ := List.forall_mem_cons.1 within
    exact Store.returns_call
      (fun hidden body id store arguments => ih body arguments hidden id store) h first rest

namespace Store

variable {hidden : Container → Prop} {store before after : Store} {bodies : Bodies}

/-! ### Applications -/

/-- The function of an application and its arguments name only what is visible. -/
def Holds (hidden : Container → Prop) (store : Store) (application : Application) : Prop :=
  application.target.Within (store.Visible hidden) ∧
    ∀ value ∈ application.supplied, value.Within (store.Visible hidden)

theorem holds_of {f : Callable} (h : f.Within (store.Visible hidden)) :
    store.Holds hidden (.of f) := by
  refine ⟨h, fun value member => ?_⟩
  cases member

theorem Respects.holds (h : Respects hidden before after) {application : Application}
    (holds : before.Holds hidden application) : after.Holds hidden application :=
  ⟨holds.1.mono h.visible, h.all_within holds.2⟩

/-- What giving arguments leads to names only what is visible. -/
def HoldsApplied (hidden : Container → Prop) (store : Store) : Applied → Prop
  | .complete value => value.Within (store.Visible hidden)
  | .incomplete application => store.Holds hidden application

theorem respects_apply (confined : bodies.Confined) (h : store.Secludes hidden)
    {application : Application} {arguments : List Value} (holds : store.Holds hidden application)
    (within : ∀ value ∈ arguments, value.Within (store.Visible hidden)) :
    Respects hidden store (store.apply bodies application arguments).1 ∧
      (store.apply bodies application arguments).1.HoldsApplied hidden
        (store.apply bodies application arguments).2 := by
  have all : ∀ value ∈ application.supplied ++ arguments,
      value.Within (store.Visible hidden) := by
    intro value member
    rcases List.mem_append.1 member with given | given
    · exact holds.2 value given
    · exact within value given
  simp only [apply]
  split
  · exact returns_call confined h holds.1 fun value member =>
      all value (List.mem_of_mem_take member)
  · exact ⟨.refl h, holds.1, all⟩

theorem respects_toFunction (h : store.Secludes hidden) {application : Application}
    (holds : store.Holds hidden application) :
    Respects hidden store (store.toFunction application).1 ∧
      (store.toFunction application).2.Within
        ((store.toFunction application).1.Visible hidden) := by
  have named := respects_newFunction h
  exact ⟨named, (Callable.within_applied ..).2 (named.holds holds)⟩

theorem returns_toValue (h : store.Secludes hidden) {applied : Applied}
    (holds : store.HoldsApplied hidden applied) : Returns hidden store (store.toValue applied) := by
  cases applied with
  | complete value => exact ⟨.refl h, holds⟩
  | incomplete application =>
    obtain ⟨named, within⟩ := respects_toFunction h holds
    exact ⟨named, (Value.within_function _).2 within⟩

/-! ### Values from JSON -/

/-- The values of a dictionary are those of the entries it is made of. -/
theorem within_ofList {p : Container → Prop} {entries : List (String × Value)}
    (within : ∀ entry ∈ entries, entry.2.Within p) :
    ∀ key value, (Dict.ofList entries).get? key = some value → value.Within p :=
  fun key value found => within (key, value) (Dict.mem_of_get?_ofList found)

mutual

/-- Values made from JSON name only what was made with them. -/
theorem returns_addJson {store : Store} (h : store.Secludes hidden) (json : Json) :
    Returns hidden store (store.addJson json) := by
  cases json with
  | null => exact ⟨.refl h, Value.within_null⟩
  | boolean b => exact ⟨.refl h, Value.within_boolean b⟩
  | number n => exact ⟨.refl h, Value.within_number _⟩
  | string s => exact ⟨.refl h, Value.within_string s⟩
  | array items =>
    obtain ⟨made, within⟩ := respects_addItems h items
    simp only [addJson]
    obtain ⟨added, visible⟩ := respects_newArray made.secludes fun value member =>
      within value (List.mem_toArray.1 member)
    exact ⟨made.trans added, (Value.within_array _).2 visible⟩
  | object members =>
    obtain ⟨made, within⟩ := respects_addMembers h members
    simp only [addJson]
    obtain ⟨added, visible⟩ := respects_newRecord made.secludes (within_ofList within)
    exact ⟨made.trans added, (Value.within_record _).2 visible⟩

theorem respects_addItems {store : Store} (h : store.Secludes hidden) (items : List Json) :
    Respects hidden store (store.addItems items).1 ∧
      ∀ value ∈ (store.addItems items).2,
        value.Within ((store.addItems items).1.Visible hidden) := by
  cases items with
  | nil => exact ⟨.refl h, fun _ member => nomatch member⟩
  | cons item rest =>
    obtain ⟨made, first⟩ := returns_addJson h item
    obtain ⟨made', others⟩ := respects_addItems made.secludes rest
    refine ⟨made.trans made', fun value member => ?_⟩
    rcases List.mem_cons.1 member with rfl | member
    · exact made'.within first
    · exact others value member

theorem respects_addMembers {store : Store} (h : store.Secludes hidden)
    (members : List (String × Json)) :
    Respects hidden store (store.addMembers members).1 ∧
      ∀ entry ∈ (store.addMembers members).2,
        entry.2.Within ((store.addMembers members).1.Visible hidden) := by
  cases members with
  | nil => exact ⟨.refl h, fun _ member => nomatch member⟩
  | cons member rest =>
    obtain ⟨key, json⟩ := member
    obtain ⟨made, first⟩ := returns_addJson h json
    obtain ⟨made', others⟩ := respects_addMembers made.secludes rest
    refine ⟨made.trans made', fun entry member => ?_⟩
    rcases List.mem_cons.1 member with rfl | member
    · exact made'.within first
    · exact others entry member

end

end Store

end Contracts
