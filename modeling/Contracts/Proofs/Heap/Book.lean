import Contracts.Proofs.Heap.Custody
import Mathlib.Logic.Relation

/-!
# The book of functions

A function is told from others by its identity alone, and its identity does not say what else
there is to it.  Nothing is lost by that, since an identity is given out once.  To see this, the
functions are kept in a **book** as they are made, each under its identity.  Whatever is done
with values whose functions are in the book, one thing at a time, makes values of which the same
holds: functions are not changed, and whoever returns or stores one was given it or made it.

The things that can be done to a store are few.  What calls, applications and JSON values come
to is a number of them in turn.  Only one of them adds to an array that was made before.

## Main definitions

* `Value.functions`, `Value.Listed` — the functions in a value, and that a book has them all.
* `Heap`, `Heap.Step` — a store with its book, and what can be done.
* `Heap.Sound` — all functions in the store are in the book.
* `Heap.Leads` — a number of things were done in turn.
* `Bodies.Traceable` — what bodies do are such things.

## Main results

* `Heap.Step.sound`, `Heap.Step.array` — what one thing that is done preserves.
* `Heap.Leads.sound`, `Heap.Leads.array` — so it is preserved in turn.
* `Heap.leads_call`, `Heap.leads_apply`, `Heap.leads_addJson` — **calls, applications and JSON
  values** are made of them, if what bodies do is.
* `Routine.traceable` — what routines do is.
* `Callable.eq_of_listed` — functions in one book with one identity are the same.
-/

namespace Contracts

/-! ### Functions in values -/

/-- A list that goes on has what it had. -/
theorem getElem?_of_prefix {α : Type} {list list' : List α} (more : list <+: list') {index : Nat}
    {a : α} (found : list[index]? = some a) : list'[index]? = some a := by
  obtain ⟨inside, rfl⟩ := List.getElem?_eq_some_iff.1 found
  exact List.prefix_iff_getElem?.1 more index inside

mutual

/-- The functions in a value, with those that were given to functions. -/
def Value.functions : Value → List Callable
  | .function f => f.functions
  | _ => []

/-- The functions in a function: itself, the one it waits to call, and those given to it. -/
def Callable.functions : Callable → List Callable
  | .native id name arity body => [.native id name arity body]
  | .applied id target supplied =>
      .applied id target supplied :: (target.functions ++ Value.functionsOfAll supplied)

/-- The functions in values. -/
def Value.functionsOfAll : List Value → List Callable
  | [] => []
  | value :: rest => value.functions ++ Value.functionsOfAll rest

end

/-- A book has the functions of a value under their identities. -/
def Value.Listed (value : Value) (book : List Callable) : Prop :=
  ∀ f ∈ value.functions, book[f.id.index]? = some f

/-- A book has a function and those in it under their identities. -/
def Callable.Listed (f : Callable) (book : List Callable) : Prop :=
  ∀ g ∈ f.functions, book[g.id.index]? = some g

namespace Value

variable {book book' : List Callable} {value : Value}

theorem mem_functionsOfAll {values : List Value} {f : Callable} :
    f ∈ functionsOfAll values ↔ ∃ value ∈ values, f ∈ value.functions := by
  induction values with
  | nil => simp [functionsOfAll]
  | cons value rest ih => simp [functionsOfAll, ih]

@[simp] theorem listed_undefined : undefined.Listed book := fun _ member => nomatch member

@[simp] theorem listed_null : null.Listed book := fun _ member => nomatch member

@[simp] theorem listed_boolean (b : Bool) : (boolean b).Listed book :=
  fun _ member => nomatch member

@[simp] theorem listed_number (x : Number) : (number x).Listed book :=
  fun _ member => nomatch member

@[simp] theorem listed_string (s : String) : (string s).Listed book :=
  fun _ member => nomatch member

@[simp] theorem listed_array (id : ArrayId) : (array id).Listed book :=
  fun _ member => nomatch member

@[simp] theorem listed_record (id : RecordId) : (record id).Listed book :=
  fun _ member => nomatch member

@[simp] theorem listed_function (f : Callable) : (function f).Listed book ↔ f.Listed book := Iff.rfl

theorem IsScalar.listed (h : value.IsScalar) : value.Listed book := by
  cases h <;> exact fun _ member => nomatch member

theorem Listed.mono (more : book <+: book') (h : value.Listed book) : value.Listed book' :=
  fun f member => getElem?_of_prefix more (h f member)

end Value

namespace Callable

variable {book book' : List Callable}

@[simp] theorem listed_native (id : FunctionId) (name : String) (arity : Nat) (body : Body) :
    (native id name arity body).Listed book ↔
      book[id.index]? = some (native id name arity body) :=
  List.forall_mem_singleton

@[simp] theorem listed_applied (id : FunctionId) (target : Callable) (supplied : List Value) :
    (applied id target supplied).Listed book ↔
      book[id.index]? = some (applied id target supplied) ∧ target.Listed book ∧
        ∀ value ∈ supplied, value.Listed book := by
  simp only [Callable.Listed, Callable.functions, List.forall_mem_cons, List.forall_mem_append,
    Value.mem_functionsOfAll]
  refine and_congr_right fun _ => and_congr_right fun _ => ⟨?_, ?_⟩
  · exact fun h value given f member => h f ⟨value, given, member⟩
  · rintro h f ⟨value, given, member⟩
    exact h value given f member

theorem mem_functions_self (f : Callable) : f ∈ f.functions := by
  cases f <;> exact List.mem_cons_self

theorem Listed.mono {f : Callable} (more : book <+: book') (h : f.Listed book) : f.Listed book' :=
  fun g member => getElem?_of_prefix more (h g member)

/-- **Functions in one book with one identity are the same.** -/
theorem eq_of_listed {f g : Callable} (h : f.Listed book) (h' : g.Listed book)
    (same : f.id = g.id) : f = g := by
  have found := h f f.mem_functions_self
  rw [same, h' g g.mem_functions_self] at found
  exact (Option.some.inj found).symm

end Callable

/-- A book has the functions of an application, with those that were given to it. -/
def Application.Listed (application : Application) (book : List Callable) : Prop :=
  application.target.Listed book ∧ ∀ value ∈ application.supplied, value.Listed book

/-- A book has the functions of what giving arguments leads to. -/
def Applied.Listed : Applied → List Callable → Prop
  | .complete value => value.Listed
  | .incomplete application => application.Listed

/-! ### What can be done -/

/-- A store, and the functions that were made, each at the place that its identity says. -/
structure Heap where
  /-- The store. -/
  store : Store
  /-- The functions. -/
  book : List Callable

namespace Heap

/-- One thing is done with values whose functions are in the book.  Of the arrays that were made
before it adds at most to those with a property. -/
inductive Step (pushed : ArrayId → Prop) : Heap → Heap → Prop where
  /-- An entry of a record is written. -/
  | insert {store : Store} {book : List Callable} {value : Value} (id : RecordId) (key : String)
      (listed : value.Listed book) : Step pushed ⟨store, book⟩ ⟨store.insert id key value, book⟩
  /-- An entry of a record is removed. -/
  | remove {store : Store} {book : List Callable} (id : RecordId) (key : String) :
      Step pushed ⟨store, book⟩ ⟨store.remove id key, book⟩
  /-- An item is added to an array. -/
  | push {store : Store} {book : List Callable} {item : Value} {id : ArrayId} (allowed : pushed id)
      (listed : item.Listed book) : Step pushed ⟨store, book⟩ ⟨store.push id item, book⟩
  /-- A record is made. -/
  | newRecord {store : Store} {book : List Callable} {entries : Dict Value}
      (listed : ∀ key value, entries.get? key = some value → value.Listed book) :
      Step pushed ⟨store, book⟩ ⟨(store.newRecord entries).1, book⟩
  /-- An array is made. -/
  | newArray {store : Store} {book : List Callable} {items : Array Value}
      (listed : ∀ value ∈ items, value.Listed book) :
      Step pushed ⟨store, book⟩ ⟨(store.newArray items).1, book⟩
  /-- A native function is made. -/
  | newNative {store : Store} {book : List Callable} (name : String) (arity : Nat) (body : Body) :
      Step pushed ⟨store, book⟩
        ⟨store.newFunction.1, book ++ [.native store.newFunction.2 name arity body]⟩
  /-- A function is made of another one and some of its arguments. -/
  | newApplied {store : Store} {book : List Callable} {target : Callable} {supplied : List Value}
      (listed : target.Listed book) (listed' : ∀ value ∈ supplied, value.Listed book) :
      Step pushed ⟨store, book⟩
        ⟨store.newFunction.1, book ++ [.applied store.newFunction.2 target supplied]⟩
  /-- A call is recorded. -/
  | recordCall {store : Store} {book : List Callable} (call : Invocation) :
      Step pushed ⟨store, book⟩ ⟨store.recordCall call, book⟩

/-- All functions in the store are in the book, which has room for no others. -/
structure Sound (heap : Heap) : Prop where
  /-- The next identity is that of the next place in the book. -/
  length : heap.book.length = heap.store.functions
  /-- The functions in records are in the book. -/
  records : ∀ id key value, (heap.store.record id).get? key = some value → value.Listed heap.book
  /-- So are those in arrays. -/
  arrays : ∀ id, ∀ value ∈ heap.store.array id, value.Listed heap.book

variable {pushed : ArrayId → Prop} {heap before middle after : Heap} {store store' : Store}
  {book : List Callable} {p q : List Callable → Prop}

theorem sound_empty : Sound ⟨.empty, []⟩ where
  length := rfl
  records _ _ _ found := nomatch found
  arrays _ _ member := nomatch member

/-- A record may be given entries with functions in the book. -/
theorem Sound.setRecord (h : Sound ⟨store, book⟩) (id : RecordId) {entries : Dict Value}
    (listed : ∀ key value, entries.get? key = some value → value.Listed book) :
    Sound ⟨store.setRecord id entries, book⟩ := by
  refine ⟨h.length, fun other key value found => ?_, h.arrays⟩
  rcases Store.get?_setRecord found with found | found
  · exact listed key value found
  · exact h.records other key value found

/-- Where only the book has gone on, it still has all functions. -/
theorem Sound.extend (h : Sound ⟨store, book⟩) (f : Callable) :
    Sound ⟨store.newFunction.1, book ++ [f]⟩ where
  length := by rw [List.length_append, h.length]; rfl
  records id key value found := (h.records id key value found).mono (List.prefix_append _ _)
  arrays id value member := (h.arrays id value member).mono (List.prefix_append _ _)

/-- The next function has its place at the end of the book. -/
theorem Sound.getElem?_newFunction (h : Sound ⟨store, book⟩) (f : Callable) :
    (book ++ [f])[store.newFunction.2.index]? = some f := by
  have next : store.newFunction.2.index = book.length := h.length.symm
  rw [next]
  exact List.getElem?_concat_length

namespace Step

/-- The book goes on. -/
theorem prefix_book (step : Step pushed before after) : before.book <+: after.book := by
  cases step with
  | newNative => exact List.prefix_append _ _
  | newApplied => exact List.prefix_append _ _
  | _ => exact List.prefix_refl _

/-- **All functions in the store stay in the book.** -/
theorem sound (step : Step pushed before after) (h : before.Sound) : after.Sound := by
  cases step with
  | @insert store book value id key listed =>
    refine h.setRecord id fun other value' found => ?_
    rw [Dict.get?_insert] at found
    split at found
    · cases found
      exact listed
    · exact h.records id other value' found
  | @remove store book id key =>
    refine h.setRecord id fun other value' found => ?_
    rw [Dict.get?_erase] at found
    split at found
    · cases found
    · exact h.records id other value' found
  | @push store book item id allowed listed =>
    refine ⟨h.length, h.records, fun other value member => ?_⟩
    rcases Store.mem_array_push member with rfl | member | member
    · exact listed
    · exact h.arrays id value member
    · exact h.arrays other value member
  | @newRecord store book entries listed =>
    refine ⟨h.length, fun id key value found => ?_, h.arrays⟩
    rw [Store.record_newRecord] at found
    split at found
    · exact listed key value found
    · exact h.records id key value found
  | @newArray store book items listed =>
    refine ⟨h.length, h.records, fun id value member => ?_⟩
    rw [Store.array_newArray] at member
    split at member
    · exact listed value member
    · exact h.arrays id value member
  | newNative => exact h.extend _
  | newApplied => exact h.extend _
  | recordCall => exact ⟨h.length, h.records, h.arrays⟩

/-- **An array keeps its items** unless it is one that may be added to. -/
theorem array (step : Step pushed before after) {id : ArrayId} (apart : ¬ pushed id)
    (made : before.store.HasArray id) :
    after.store.HasArray id ∧ after.store.array id = before.store.array id := by
  cases step with
  | @push store book item other allowed listed =>
    refine ⟨(Store.has_push store other item (.array id)).2 made, ?_⟩
    have ne : id ≠ other := by
      rintro rfl
      exact apart allowed
    by_cases made' : store.HasArray other
    · rw [Store.array_push made', if_neg ne]
    · exact Store.array_push_of_not_made made' item id
  | @newArray store book items listed =>
    refine ⟨store.hasArray_of_hasArray items made, ?_⟩
    rw [Store.array_newArray, if_neg]
    rintro rfl
    exact store.not_hasArray_newArray items made
  | _ => exact ⟨made, rfl⟩

end Step

/-! ### What is done in turn -/

/-- A number of things done in turn lead to a store and a book with a property. -/
def Leads (pushed : ArrayId → Prop) (heap : Heap) (store : Store) (p : List Callable → Prop) :
    Prop :=
  ∃ book, Relation.ReflTransGen (Step pushed) heap ⟨store, book⟩ ∧ p book

theorem prefix_book_of_steps (steps : Relation.ReflTransGen (Step pushed) before after) :
    before.book <+: after.book := by
  induction steps with
  | refl => exact List.prefix_refl _
  | tail _ step ih => exact ih.trans step.prefix_book

theorem sound_of_steps (steps : Relation.ReflTransGen (Step pushed) before after)
    (h : before.Sound) : after.Sound := by
  induction steps with
  | refl => exact h
  | tail _ step ih => exact step.sound ih

theorem array_of_steps (steps : Relation.ReflTransGen (Step pushed) before after) {id : ArrayId}
    (apart : ¬ pushed id) (made : before.store.HasArray id) :
    after.store.HasArray id ∧ after.store.array id = before.store.array id := by
  induction steps with
  | refl => exact ⟨made, rfl⟩
  | tail _ step ih =>
    obtain ⟨made', kept⟩ := ih
    obtain ⟨made'', kept'⟩ := step.array apart made'
    exact ⟨made'', kept'.trans kept⟩

namespace Leads

/-- Nothing was done. -/
theorem here (h : p book) : Leads pushed ⟨store, book⟩ store p := ⟨book, .refl, h⟩

/-- One thing was done. -/
theorem single (step : Step pushed heap ⟨store, book⟩) (h : p book) : Leads pushed heap store p :=
  ⟨book, .single step, h⟩

/-- One thing was done first. -/
theorem head (step : Step pushed heap middle) (h : Leads pushed middle store p) :
    Leads pushed heap store p := by
  obtain ⟨book, steps, done⟩ := h
  exact ⟨book, .head step steps, done⟩

/-- More was done, with a book that has gone on and still has all functions. -/
theorem bind (h : Leads pushed heap store p)
    (next : ∀ book, heap.book <+: book → (heap.Sound → Sound ⟨store, book⟩) → p book →
      Leads pushed ⟨store, book⟩ store' q) :
    Leads pushed heap store' q := by
  obtain ⟨book, steps, done⟩ := h
  obtain ⟨book', steps', done'⟩ :=
    next book (prefix_book_of_steps steps) (sound_of_steps steps) done
  exact ⟨book', steps.trans steps', done'⟩

theorem mono (h : Leads pushed heap store p) (le : ∀ book, heap.book <+: book → p book → q book) :
    Leads pushed heap store q :=
  h.bind fun book more _ done => .here (le book more done)

/-- The book has the functions of the store then. -/
theorem sound (h : Leads pushed heap store p) (sound : heap.Sound) :
    ∃ book, heap.book <+: book ∧ Sound ⟨store, book⟩ ∧ p book := by
  obtain ⟨book, steps, done⟩ := h
  exact ⟨book, prefix_book_of_steps steps, sound_of_steps steps sound, done⟩

/-- Arrays that were not added to have their items. -/
theorem array (h : Leads pushed heap store p) {id : ArrayId} (apart : ¬ pushed id)
    (made : heap.store.HasArray id) :
    store.HasArray id ∧ store.array id = heap.store.array id := by
  obtain ⟨book, steps, _⟩ := h
  exact array_of_steps steps apart made

end Leads

/-! ### Making functions -/

/-- A native function that was just made is in the book. -/
theorem leads_newNative (h : Sound ⟨store, book⟩) (name : String) (arity : Nat) (body : Body) :
    Leads pushed ⟨store, book⟩ store.newFunction.1
      (Callable.native store.newFunction.2 name arity body).Listed := by
  refine .single (.newNative name arity body) ?_
  rw [Callable.listed_native]
  exact h.getElem?_newFunction _

/-- So is one of a function in the book and some of its arguments. -/
theorem leads_newApplied (h : Sound ⟨store, book⟩) {target : Callable} {supplied : List Value}
    (listed : target.Listed book) (listed' : ∀ value ∈ supplied, value.Listed book) :
    Leads pushed ⟨store, book⟩ store.newFunction.1
      (Callable.applied store.newFunction.2 target supplied).Listed := by
  refine .single (.newApplied listed listed') ?_
  rw [Callable.listed_applied]
  exact ⟨h.getElem?_newFunction _, listed.mono (List.prefix_append _ _), fun value given =>
    (listed' value given).mono (List.prefix_append _ _)⟩

/-! ### Calling functions -/

end Heap

/-- **Bodies do such things only**, with values whose functions are in the book, and return one. -/
def Bodies.Traceable (bodies : Bodies) : Prop :=
  ∀ (pushed : ArrayId → Prop) body id store book arguments, Heap.Sound ⟨store, book⟩ →
    (∀ value ∈ arguments, value.Listed book) →
    Heap.Leads pushed ⟨store, book⟩ (bodies body id store arguments).1
      (bodies body id store arguments).2.Listed

namespace Heap

variable {pushed : ArrayId → Prop} {store : Store} {book : List Callable} {bodies : Bodies}

/-- **Calls**: a function in the book that is given values in the book returns one. -/
theorem leads_call (traceable : bodies.Traceable) (h : Sound ⟨store, book⟩) {f : Callable}
    {arguments : List Value} (target : f.Listed book)
    (listed : ∀ value ∈ arguments, value.Listed book) :
    Leads pushed ⟨store, book⟩ (store.call bodies f arguments).1
      (store.call bodies f arguments).2.Listed := by
  fun_induction store.call bodies f arguments with
  | case1 id name arity body arguments =>
    have recorded : Step pushed ⟨store, book⟩
        ⟨store.recordCall ⟨id, name, arguments.length⟩, book⟩ := .recordCall _
    exact .head recorded (traceable pushed body id _ book arguments (recorded.sound h) listed)
  | case2 id target' supplied arguments enough ih =>
    rw [Callable.listed_applied] at target
    refine ih target.2.1 fun value member => ?_
    rcases List.mem_append.1 (List.mem_of_mem_take member) with given | given
    · exact target.2.2 value given
    · exact listed value given
  | case3 id target' supplied arguments few store' id' made =>
    rw [Callable.listed_applied] at target
    cases made
    refine leads_newApplied h target.2.1 fun value member => ?_
    rcases List.mem_append.1 member with given | given
    · exact target.2.2 value given
    · exact listed value given

end Heap

/-- **Routines** do such things only. -/
theorem Routine.traceable : Routine.bodies.Traceable := by
  intro pushed body id store book arguments
  refine bodies_induction (P := fun arguments run => ∀ pushed id store book,
      Heap.Sound ⟨store, book⟩ → (∀ value ∈ arguments, value.Listed book) →
      Heap.Leads pushed ⟨store, book⟩ (run id store).1 (run id store).2.Listed)
    (fun _ _ _ _ _ _ _ => .here Value.listed_undefined)
    (fun bodies ih routine arguments pushed id store book h listed => ?_)
    body arguments pushed id store book
  have fits := routine.fits_effect store id arguments
  have given {value : Value} (given : IsGiven arguments value) : value.Listed book :=
    given.elim (listed value) Value.IsScalar.listed
  dsimp only
  generalize routine.effect store id arguments = effect at fits
  cases fits with
  | give returned => exact .here (given returned)
  | list =>
    exact .single (.newArray fun value member => listed value (List.mem_toArray.1 member))
      (Value.listed_array _)
  | @put record key value written stored =>
    exact .single (.insert record key (given stored)) (Value.listed_record record)
  | call split =>
    subst split
    obtain ⟨first, rest⟩ := List.forall_mem_cons.1 listed
    exact Heap.leads_call (fun pushed body id store book arguments =>
      ih body arguments pushed id store book) h first rest

namespace Heap

variable {pushed : ArrayId → Prop} {heap before middle after : Heap} {store store' : Store}
  {book : List Callable} {bodies : Bodies}

/-! ### Applications -/

/-- The application of a function to nothing yet has no functions but that one. -/
theorem listed_of {f : Callable} (h : f.Listed book) : (Application.of f).Listed book :=
  ⟨h, fun _ member => nomatch member⟩

/-- Giving arguments to an application is calling its function, or leads to another one. -/
theorem leads_apply (traceable : bodies.Traceable) (h : Sound ⟨store, book⟩)
    {application : Application} {arguments : List Value}
    (listed : application.Listed book) (listed' : ∀ value ∈ arguments, value.Listed book) :
    Leads pushed ⟨store, book⟩ (store.apply bodies application arguments).1
      (store.apply bodies application arguments).2.Listed := by
  have all : ∀ value ∈ application.supplied ++ arguments, value.Listed book :=
    List.forall_mem_append.2 ⟨listed.2, listed'⟩
  simp only [Store.apply]
  split
  · exact leads_call traceable h listed.1 fun value member =>
      all value (List.mem_of_mem_take member)
  · exact .here ⟨listed.1, all⟩

theorem leads_toFunction (h : Sound ⟨store, book⟩) {application : Application}
    (listed : application.Listed book) :
    Leads pushed ⟨store, book⟩ (store.toFunction application).1
      (store.toFunction application).2.Listed :=
  leads_newApplied h listed.1 listed.2

theorem leads_toValue (h : Sound ⟨store, book⟩) {applied : Applied} (listed : applied.Listed book) :
    Leads pushed ⟨store, book⟩ (store.toValue applied).1 (store.toValue applied).2.Listed := by
  cases applied with
  | complete value => exact .here listed
  | incomplete application => exact leads_toFunction h listed

/-! ### Values from JSON -/

/-- The values of a dictionary are those of the entries it is made of. -/
theorem listed_ofList {entries : List (String × Value)}
    (listed : ∀ entry ∈ entries, entry.2.Listed book) :
    ∀ key value, (Dict.ofList entries).get? key = some value → value.Listed book :=
  fun key value found => listed (key, value) (Dict.mem_of_get?_ofList found)

mutual

/-- There are no functions in values made from JSON, and none are made. -/
theorem leads_addJson {book : List Callable} (store : Store) (json : Json) :
    Leads pushed ⟨store, book⟩ (store.addJson json).1 (store.addJson json).2.Listed := by
  cases json with
  | null => exact .here Value.listed_null
  | boolean b => exact .here (Value.listed_boolean b)
  | number n => exact .here (Value.listed_number _)
  | string s => exact .here (Value.listed_string s)
  | array items =>
    simp only [Store.addJson]
    refine (leads_addItems store items).bind fun book' _ _ listed => ?_
    exact .single (.newArray fun value member => listed value (List.mem_toArray.1 member))
      (Value.listed_array _)
  | object members =>
    simp only [Store.addJson]
    refine (leads_addMembers store members).bind fun book' _ _ listed => ?_
    exact .single (.newRecord (listed_ofList listed)) (Value.listed_record _)

theorem leads_addItems {book : List Callable} (store : Store) (items : List Json) :
    Leads pushed ⟨store, book⟩ (store.addItems items).1 fun book' =>
      ∀ value ∈ (store.addItems items).2, value.Listed book' := by
  cases items with
  | nil => exact .here fun _ member => nomatch member
  | cons item rest =>
    refine (leads_addJson store item).bind fun book' _ _ first => ?_
    refine (leads_addItems _ rest).mono fun book'' more others => ?_
    exact List.forall_mem_cons.2 ⟨first.mono more, others⟩

theorem leads_addMembers {book : List Callable} (store : Store)
    (members : List (String × Json)) :
    Leads pushed ⟨store, book⟩ (store.addMembers members).1 fun book' =>
      ∀ entry ∈ (store.addMembers members).2, entry.2.Listed book' := by
  cases members with
  | nil => exact .here fun _ member => nomatch member
  | cons member rest =>
    obtain ⟨key, json⟩ := member
    refine (leads_addJson store json).bind fun book' _ _ first => ?_
    refine (leads_addMembers _ rest).mono fun book'' more others => ?_
    exact List.forall_mem_cons.2 ⟨first.mono more, others⟩

end

end Heap

end Contracts
