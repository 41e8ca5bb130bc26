import Contracts.Proofs.Heap.Book
import Contracts.Proofs.Session.Confinement
import Contracts.Proofs.Session.Handles
import Contracts.Proofs.Session.Lasting

/-!
# The functions of a session

What is held in a session, and what is in its store, has functions in it that were made in the
session, each with an identity of its own.  A **book** of all of them goes on with each step: the
step does one thing after the other with values whose functions are in it.  So two functions that
there are in a session with one identity are one function.

A step adds to an array that was made before only if that is what its action is.

## Main definitions

* `Holding.Listed`, `Performed.Listed` — the functions of what is held, and of a result.
* `Session.Knows` — a book has the functions of a session.
* `Session.pushes` — a step adds to an array.

## Main results

* `Holdings.leads_evaluateItems` — evaluating operands makes functions and values.
* `Session.leads_perform` — **so do actions.**
* `Session.leads_run`, `Session.Knows.runSteps` — so do steps, and there is a book for each
  session.
* `Session.Knows.array_run` — the arrays that a step adds nothing to.
* `Session.Knows.listed_of_has` — the functions of all values that there are.
-/

namespace Contracts

/-! ### What is held -/

/-- A book has the functions in what is held. -/
def Holding.Listed : Holding → List Callable → Prop
  | .value v => v.Listed
  | .slot s => s.held.Listed
  | .application a => a.Listed
  | _ => fun _ => True

theorem Value.all_listed_mono {book book' : List Callable} (more : book <+: book')
    {values : List Value} (h : ∀ value ∈ values, value.Listed book) :
    ∀ value ∈ values, value.Listed book' :=
  fun value member => (h value member).mono more

theorem Application.Listed.mono {book book' : List Callable} (more : book <+: book')
    {application : Application} (h : application.Listed book) : application.Listed book' :=
  ⟨h.1.mono more, Value.all_listed_mono more h.2⟩

theorem Holding.Listed.mono {book book' : List Callable} (more : book <+: book')
    {holding : Holding} (h : holding.Listed book) : holding.Listed book' := by
  cases holding with
  | value v => exact Value.Listed.mono more h
  | slot s => exact Value.Listed.mono more h
  | application a => exact Application.Listed.mono more h
  | _ => trivial

/-- There are none in what is plain. -/
theorem Holding.IsPlain.listed {holding : Holding} (plain : holding.IsPlain)
    (book : List Callable) : holding.Listed book := by
  cases plain <;> exact trivial

namespace Holdings

variable {holdings : Holdings} {book book' : List Callable} {name : String}

/-- A book has the functions in all that is held. -/
def Listed (holdings : Holdings) (book : List Callable) : Prop :=
  ∀ name holding, holdings.get? name = some holding → holding.Listed book

theorem Listed.mono (more : book <+: book') (h : holdings.Listed book) : holdings.Listed book' :=
  fun name holding held => (h name holding held).mono more

theorem Listed.value? (h : holdings.Listed book) {value : Value}
    (held : holdings.value? name = some value) : value.Listed book :=
  h name _ (Holdings.value?_eq_some.1 held)

theorem Listed.slot? (h : holdings.Listed book) {slot : Slot}
    (held : holdings.slot? name = some slot) : slot.held.Listed book :=
  h name _ (Holdings.slot?_eq_some.1 held)

theorem Listed.application? (h : holdings.Listed book) {application : Application}
    (held : holdings.application? name = some application) : application.Listed book :=
  h name _ (Holdings.application?_eq_some.1 held)

/-! ### Evaluation -/

variable {pushed : ArrayId → Prop}

mutual

/-- An expression has the functions of what is held, or one that it makes. -/
theorem leads_evaluate {book : List Callable} {store : Store} (h : Heap.Sound ⟨store, book⟩)
    (held : holdings.Listed book) {expression : Expression} {result : Store × Value}
    (found : holdings.evaluate store expression = some result) :
    Heap.Leads pushed ⟨store, book⟩ result.1 result.2.Listed := by
  cases expression with
  | undefined => cases found; exact .here Value.listed_undefined
  | null => cases found; exact .here Value.listed_null
  | boolean b => cases found; exact .here (Value.listed_boolean b)
  | number x => cases found; exact .here (Value.listed_number x)
  | string s => cases found; exact .here (Value.listed_string s)
  | array items =>
    simp only [evaluate, Option.bind_eq_bind, Option.bind_eq_some_iff] at found
    obtain ⟨⟨next, values⟩, evaluated, made⟩ := found
    cases made
    refine (leads_evaluateItems h held evaluated).bind fun book' _ _ listed => ?_
    exact .single (.newArray fun value member => listed value (List.mem_toArray.1 member))
      (Value.listed_array _)
  | record entries =>
    simp only [evaluate, Option.bind_eq_bind, Option.bind_eq_some_iff] at found
    obtain ⟨⟨next, values⟩, evaluated, made⟩ := found
    cases made
    refine (leads_evaluateEntries h held evaluated).bind fun book' _ _ listed => ?_
    exact .single (.newRecord (Heap.listed_ofList listed)) (Value.listed_record _)
  | json json =>
    cases found
    exact Heap.leads_addJson store json
  | function name arity routine =>
    cases found
    exact Heap.leads_newNative h name arity routine.body
  | held name =>
    simp only [evaluate, Option.bind_eq_bind, Option.bind_eq_some_iff] at found
    obtain ⟨value, named, made⟩ := found
    cases made
    exact .here (held.value? named)

theorem leads_evaluateItems {book : List Callable} {store : Store} (h : Heap.Sound ⟨store, book⟩)
    (held : holdings.Listed book) {items : List Expression} {result : Store × List Value}
    (found : holdings.evaluateItems store items = some result) :
    Heap.Leads pushed ⟨store, book⟩ result.1 fun book' =>
      ∀ value ∈ result.2, value.Listed book' := by
  cases items with
  | nil =>
    cases found
    exact .here fun _ member => nomatch member
  | cons item rest =>
    simp only [evaluateItems, Option.bind_eq_bind, Option.bind_eq_some_iff] at found
    obtain ⟨⟨next, value⟩, evaluated, ⟨last, values⟩, evaluated', made⟩ := found
    cases made
    refine (leads_evaluate h held evaluated).bind fun book' more sound first => ?_
    refine (leads_evaluateItems (sound h) (held.mono more) evaluated').mono
      fun book'' more' others => ?_
    exact List.forall_mem_cons.2 ⟨first.mono more', others⟩

theorem leads_evaluateEntries {book : List Callable} {store : Store}
    (h : Heap.Sound ⟨store, book⟩) (held : holdings.Listed book)
    {entries : List (String × Expression)} {result : Store × List (String × Value)}
    (found : holdings.evaluateEntries store entries = some result) :
    Heap.Leads pushed ⟨store, book⟩ result.1 fun book' =>
      ∀ entry ∈ result.2, entry.2.Listed book' := by
  cases entries with
  | nil =>
    cases found
    exact .here fun _ member => nomatch member
  | cons entry rest =>
    obtain ⟨key, expression⟩ := entry
    simp only [evaluateEntries, Option.bind_eq_bind, Option.bind_eq_some_iff] at found
    obtain ⟨⟨next, value⟩, evaluated, ⟨last, values⟩, evaluated', made⟩ := found
    cases made
    refine (leads_evaluate h held evaluated).bind fun book' more sound first => ?_
    refine (leads_evaluateEntries (sound h) (held.mono more) evaluated').mono
      fun book'' more' others => ?_
    exact List.forall_mem_cons.2 ⟨first.mono more', others⟩

end

end Holdings

/-! ### Sessions and results -/

/-- A book has the functions in what is held after an action, and in its result. -/
structure Performed.Listed (performed : Performed) (book : List Callable) : Prop where
  /-- The functions in what is held. -/
  held : performed.session.holdings.Listed book
  /-- The functions in the result. -/
  result : ∀ answer holding, performed.outcome = .ok (answer, some holding) → holding.Listed book

namespace Session

variable {session : Session} {book book' : List Callable} {pushed : ArrayId → Prop}

/-- A book has the functions of a session, in its store and in what is held. -/
structure Knows (session : Session) (book : List Callable) : Prop where
  /-- The functions in the store. -/
  sound : Heap.Sound ⟨session.store, book⟩
  /-- The functions in what is held. -/
  held : session.holdings.Listed book

theorem knows_start (series : Nat) : (start series).Knows [] where
  sound := Heap.sound_empty
  held _ _ found := nomatch found

/-- An action does a number of things in turn. -/
def Leads (pushed : ArrayId → Prop) (session : Session) (book : List Callable)
    (performed : Performed) : Prop :=
  Heap.Leads pushed ⟨session.store, book⟩ performed.session.store performed.Listed

theorem listed_hold (h : session.holdings.Listed book) (name : String) (holding : Holding)
    (listed : holding.Listed book) : (session.hold name holding).holdings.Listed book := by
  intro other found held
  rw [hold, Dict.get?_insert] at held
  split at held
  · cases held
    exact listed
  · exact h other found held

/-- If this is what is given, its functions are in the book. -/
theorem listed_of_eq_some {holding given : Holding} (listed : holding.Listed book)
    (same : some holding = some given) : given.Listed book := by
  cases same
  exact listed

/-! ### Actions -/

section

variable {action : Action} {operands : List Value} {assigned : Option Assignment} {store : Store}
  {result : Option Holding} (h : session.Knows book)
  (listed : ∀ value ∈ operands, value.Listed book)
include h listed

/-- The functions of what can be given are in the book. -/
theorem listed_of_gift {holding : Holding} (gift : session.Gift operands holding) :
    holding.Listed book := by
  cases gift with
  | operand given => exact listed _ given
  | entry found => exact h.sound.records _ _ _ found
  | undefined => exact Value.listed_undefined
  | item member => exact h.sound.arrays _ _ member
  | content held => exact h.held.slot? held
  | application given => exact Heap.listed_of ((Value.listed_function _).1 (listed _ given))
  | slot _ given => exact listed _ given
  | plain plain => exact plain.listed book
  | _ => trivial

/-- An application that is held is called as functions are. -/
theorem leads_applyHeld {on : String} {application : Application}
    (held : session.holdings.application? on = some application) :
    Heap.Leads pushed ⟨session.store, book⟩
      (session.store.apply Routine.bodies application operands).1
      (session.store.apply Routine.bodies application operands).2.Listed :=
  Heap.leads_apply Routine.traceable h.sound (h.held.application? held) listed

/-- What an action does to the store is one thing or, if it calls a function, a number of things
in turn. -/
theorem leads_of_works
    (allowed : ∀ id value, action = .pushItem → operands = [.array id, value] → pushed id)
    (works : session.Works action operands assigned store result) :
    Heap.Leads pushed ⟨session.store, book⟩ store fun book' =>
      ∀ holding, result = some holding → holding.Listed book' := by
  cases works with
  | idle => exact .here fun _ given => nomatch given
  | give gift => exact .here fun _ => listed_of_eq_some (listed_of_gift h listed gift)
  | newRecord =>
    exact .single (.newRecord fun _ _ found => nomatch found) fun _ =>
      listed_of_eq_some (Value.listed_record _)
  | newArray =>
    exact .single (.newArray fun _ member => nomatch member) fun _ =>
      listed_of_eq_some (Value.listed_array _)
  | insert id key value =>
    refine .single (.insert id key (listed value (List.mem_cons_of_mem _ List.mem_cons_self)))
      fun holding given => ?_
    obtain ⟨old, found, rfl⟩ := Option.map_eq_some_iff.1 given
    exact h.sound.records id key old found
  | remove id key =>
    refine .single (.remove id key) fun holding given => ?_
    obtain ⟨old, found, rfl⟩ := Option.map_eq_some_iff.1 given
    exact h.sound.records id key old found
  | push id value =>
    exact .single (.push (allowed id value rfl rfl)
      (listed value (List.mem_cons_of_mem _ List.mem_cons_self))) fun _ given => nomatch given
  | call f arguments =>
    have target := (Value.listed_function f).1 (listed _ List.mem_cons_self)
    refine (Heap.leads_call Routine.traceable h.sound target fun value member =>
      listed value (List.mem_cons_of_mem _ member)).mono fun book' more returned _ => ?_
    exact listed_of_eq_some returned
  | construct =>
    exact .single (.newRecord fun _ _ found => nomatch found) fun _ => listed_of_eq_some trivial
  | copy => exact .single (.newRecord (h.sound.records _)) fun _ => listed_of_eq_some trivial
  | @write _ key inst value =>
    exact .single (.insert inst.record key (listed value List.mem_cons_self))
      fun _ given => nomatch given
  | complete held applied | incomplete held applied =>
    have leads : Heap.Leads pushed _ _ _ := leads_applyHeld h listed held
    rw [applied] at leads
    exact leads.mono fun _ _ returned _ => listed_of_eq_some returned
  | applyToValue held applied =>
    have leads : Heap.Leads pushed _ _ _ := leads_applyHeld h listed held
    rw [applied] at leads
    refine leads.bind fun book' more sound returned => ?_
    refine (Heap.leads_toValue (sound h.sound) returned).mono fun book'' more' value _ => ?_
    exact listed_of_eq_some value
  | toFunction held =>
    refine (Heap.leads_toFunction h.sound (h.held.application? held)).mono
      fun book' more made _ => ?_
    exact listed_of_eq_some ((Value.listed_function _).2 made)

/-- What is held anew is plain, or is a slot with an operand. -/
theorem listed_of_arranges {holdings : Holdings}
    (arranges : session.Arranges action operands holdings) : holdings.Listed book := by
  intro name holding held
  rcases arranges.of_get? held with same | plain | ⟨slot, value, _, given, rfl⟩
  · exact h.held name holding same
  · exact plain.listed book
  · exact listed value given

/-- **Actions** do a number of things in turn with values whose functions are in the book. -/
theorem leads_perform
    (allowed : ∀ id value, action = .pushItem → operands = [.array id, value] → pushed id) :
    session.Leads pushed book (session.perform action operands) := by
  have arranges := session.arranges_perform action operands
  refine (leads_of_works h listed allowed (session.works_perform action operands)).mono ?_
  intro book' more result
  refine ⟨(listed_of_arranges h listed arranges).mono more, fun answer holding outcome => ?_⟩
  exact result holding (by rw [Performed.result?, outcome])

end

/-! ### Steps -/

/-- A step adds an item to an array. -/
def pushes (session : Session) (step : Step) (id : ArrayId) : Prop :=
  step.action = .pushItem ∧ ∃ store item,
    session.holdings.evaluateItems session.store step.operands = some (store, [.array id, item])

/-- **Steps** do a number of things in turn, and the book that has gone on has the functions of
the session that they lead to. -/
theorem leads_run (h : session.Knows book) (step : Step) :
    Heap.Leads (session.pushes step) ⟨session.store, book⟩ (session.run step).1.store
      (session.run step).1.holdings.Listed := by
  cases evaluated : session.holdings.evaluateItems session.store step.operands with
  | none =>
    rw [run_of_none evaluated]
    exact .here h.held
  | some result =>
    obtain ⟨store, operands⟩ := result
    refine (Holdings.leads_evaluateItems h.sound h.held evaluated).bind
      fun book' more sound listed => ?_
    have knows : (session.withStore store).Knows book' := ⟨sound h.sound, h.held.mono more⟩
    have allowed : ∀ id value, step.action = .pushItem → operands = [.array id, value] →
        session.pushes step id :=
      fun id value action same => ⟨action, store, value, same ▸ evaluated⟩
    rw [store_run evaluated]
    refine (leads_perform knows listed allowed).mono fun book'' _ performed => ?_
    rw [(run_of_some evaluated).1]
    split
    · next answer result name outcome _ =>
      exact listed_hold performed.held name result (performed.result answer result outcome)
    · exact performed.held

/-- So the book goes on. -/
theorem Knows.run (h : session.Knows book) (step : Step) :
    ∃ book', book <+: book' ∧ (session.run step).1.Knows book' := by
  obtain ⟨book', more, sound, held⟩ := (leads_run h step).sound h.sound
  exact ⟨book', more, sound, held⟩

/-- **In each session there is a book** of all its functions, whatever steps led to it. -/
theorem Knows.runSteps (h : session.Knows book) (steps : List Step) :
    ∃ book', book <+: book' ∧ (session.runSteps steps).Knows book' := by
  induction steps generalizing session book with
  | nil => exact ⟨book, List.prefix_refl book, h⟩
  | cons step rest ih =>
    obtain ⟨book', more, knows⟩ := h.run step
    obtain ⟨book'', more', knows'⟩ := ih knows
    exact ⟨book'', more.trans more', knows'⟩

/-- The functions in operands are in a book that has gone on, and the arrays that were made have
the same items. -/
theorem Knows.operands (h : session.Knows book) {items : List Expression} {store : Store}
    {operands : List Value}
    (evaluated : session.holdings.evaluateItems session.store items = some (store, operands)) :
    (∃ book', book <+: book' ∧ ∀ value ∈ operands, value.Listed book') ∧
      ∀ id, session.store.HasArray id → store.array id = session.store.array id := by
  have leads : Heap.Leads (fun _ => False) ⟨session.store, book⟩ store fun book' =>
      ∀ value ∈ operands, value.Listed book' :=
    Holdings.leads_evaluateItems h.sound h.held evaluated
  obtain ⟨book', more, _, listed⟩ := leads.sound h.sound
  exact ⟨⟨book', more, listed⟩, fun id made => (leads.array not_false made).2⟩

/-- **A step adds to one array at most**: all others keep their items. -/
theorem Knows.array_run (h : session.Knows book) {step : Step} {id : ArrayId}
    (apart : ¬ session.pushes step id) (made : session.store.HasArray id) :
    (session.run step).1.store.array id = session.store.array id :=
  ((leads_run h step).array apart made).2

/-- The functions of all values that there are in a session are in its book. -/
theorem Knows.listed_of_has (h : session.Knows book) {value : Value} (has : session.Has value) :
    value.Listed book := by
  induction has with
  | held held => exact h.held.value? held
  | slot held => exact h.held.slot? held
  | viewed held => exact Value.listed_record _
  | target held => exact (Value.listed_function _).2 (h.held.application? held).1
  | supplied held given => exact (h.held.application? held).2 _ given
  | entry found => exact h.sound.records _ _ _ found
  | item member => exact h.sound.arrays _ _ member
  | argument whole given ih =>
    rw [Value.listed_function, Callable.listed_applied] at ih
    exact ih.2.2 _ given
  | inner whole ih =>
    rw [Value.listed_function, Callable.listed_applied] at ih
    exact (Value.listed_function _).2 ih.2.1

end Session

end Contracts
