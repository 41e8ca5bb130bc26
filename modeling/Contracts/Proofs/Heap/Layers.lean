import Contracts.Proofs.Heap.Application

/-!
# Applications as functions

An application can be handed out as a function of the arguments that are still to be
given, and from that function one can start over with an application.  So whoever gives a
function its arguments a few at a time may change at each step between giving them to an
application, calling a function, and making an application of a function.  Functions that
wait for arguments of functions that wait for arguments arise in this way, each with an
arity of its own at which it drops what is too much.

None of it makes a difference.  Through any number of layers, what is held **awaits** the
rest of the arguments of the function at the bottom, and it has been given just those that
were given on the way.  When they suffice, its body runs, once and with the same arguments.

Only the identities of the functions that were made on the way are different, and so is their
number, by which the store goes on.  A body cannot know how many functions were made, and so
what it does and returns is the same, too, if the identities of the functions that it makes
are left out of account.

## Main definitions

* `Value.Alike`, `Store.Ahead` — the same values, and stores with the same contents, the
  identities of new functions apart.
* `Store.advance` — the store when some more functions have been made.
* `Bodies.Steady` — bodies do not depend on how many functions have been made.
* `Pending`, `Way` — what is held on the way, and how to go on from it.
* `Store.goOn`, `Store.chain` — one step, and steps in turn.
* `Callable.Awaits`, `Pending.Awaits` — what was given of a function through all layers.

## Main results

* `Store.call_advance` — how many functions have been made makes no difference to a call.
* `Routine.steady` — nor does it to routines.
* `Callable.Awaits.call` — given exactly the rest, all layers come to one call.
* `Store.goOn_of_lt`, `Store.goOn_of_le` — one step, whichever way.
* `Store.chain_eq_applyInTurn` — **all ways of going on agree.**
-/

namespace Contracts

/-! ### Identities of new functions -/

/-- An identity, if it is among the first that were given out. -/
def FunctionId.forget (made : Nat) (id : FunctionId) : FunctionId :=
  if id.index < made then id else ⟨made⟩

mutual

/-- A value without the identities of functions that are not among the first. -/
def Value.forget (made : Nat) : Value → Value
  | .function f => .function (f.forget made)
  | value => value

/-- A function without them. -/
def Callable.forget (made : Nat) : Callable → Callable
  | .native id name arity body => .native (id.forget made) name arity body
  | .applied id target supplied =>
      .applied (id.forget made) (target.forget made) (Value.forgetAll made supplied)

/-- Values without them. -/
def Value.forgetAll (made : Nat) : List Value → List Value
  | [] => []
  | value :: rest => value.forget made :: Value.forgetAll made rest

end

/-- The same value, but for the identities of functions that are not among the first. -/
def Value.Alike (made : Nat) (left right : Value) : Prop := left.forget made = right.forget made

/-- A store has the same contents and the same history as another one in which fewer functions
have been made, but for the identities of those that are not among the first. -/
structure Store.Ahead (made more : Nat) (store ahead : Store) : Prop where
  /-- So many more functions have been made. -/
  functions : ahead.functions = store.functions + more
  /-- The records have the same entries. -/
  records : ahead.records.map (fun entries => entries.entries.map fun entry =>
      (entry.1, entry.2.forget made)) =
    store.records.map fun entries => entries.entries.map fun entry =>
      (entry.1, entry.2.forget made)
  /-- The arrays have the same items. -/
  arrays : ahead.arrays.map (·.map (Value.forget made)) =
    store.arrays.map (·.map (Value.forget made))
  /-- The same calls have been recorded. -/
  history : ahead.history.map (fun call => { call with function := call.function.forget made }) =
    store.history.map fun call => { call with function := call.function.forget made }

theorem FunctionId.forget_of_le {made : Nat} {id : FunctionId} (h : made ≤ id.index) :
    id.forget made = ⟨made⟩ :=
  if_neg (Nat.not_lt.2 h)

/-! ### Making functions -/

namespace Store

variable {bodies : Bodies}

/-- The store when `n` more functions have been made, and nothing else has happened. -/
def advance (store : Store) (n : Nat) : Store := { store with functions := store.functions + n }

theorem advance_advance (store : Store) (n m : Nat) :
    (store.advance n).advance m = store.advance (n + m) := by
  simp only [advance, Nat.add_assoc]

theorem ahead_advance (made n : Nat) (store : Store) : store.Ahead made n (store.advance n) :=
  ⟨rfl, rfl, rfl, rfl⟩

theorem displayWithin_advance (store : Store) (n : Nat) (opened : Opened) (value : Value) :
    (store.advance n).displayWithin opened value = store.displayWithin opened value := by
  fun_induction displayWithin store opened value with
  | case8 opened id fits ih =>
    have fits' : (store.advance n).HasArray id ∧ opened.contains (.array id) = false := fits
    rw [displayWithin, dif_pos fits']
    refine congrArg (",".intercalate ·) (List.map_congr_left fun item _ => ?_)
    rw [ih item]
  | case9 opened id fits =>
    have fits' : ¬ ((store.advance n).HasArray id ∧ opened.contains (.array id) = false) := fits
    rw [displayWithin, dif_neg fits']
  | _ => rw [displayWithin]

end Store

/-- **Bodies do not depend on how many functions have been made**: they do and return the same,
but for the identities of the functions that they make. -/
def Bodies.Steady (bodies : Bodies) : Prop :=
  ∀ body id (store : Store) n arguments,
    (bodies body id store arguments).1.Ahead store.functions n
        (bodies body id (store.advance n) arguments).1 ∧
      (bodies body id (store.advance n) arguments).2.Alike store.functions
        (bodies body id store arguments).2

/-- **Calls** do not depend on it either. -/
theorem Store.call_advance {bodies : Bodies} (steady : bodies.Steady) (store : Store) (n : Nat)
    (f : Callable) (arguments : List Value) :
    (store.call bodies f arguments).1.Ahead store.functions n
        ((store.advance n).call bodies f arguments).1 ∧
      ((store.advance n).call bodies f arguments).2.Alike store.functions
        (store.call bodies f arguments).2 := by
  fun_induction store.call bodies f arguments with
  | case1 id name arity body arguments =>
    exact steady body id (store.recordCall ⟨id, name, arguments.length⟩) n arguments
  | case2 id target supplied arguments enough ih =>
    rw [call, if_pos enough]
    exact ih
  | case3 id target supplied arguments few store' id' made =>
    -- a function is made, whose identity is the number of those before it
    cases made
    rw [call, if_neg few]
    refine ⟨⟨Nat.add_right_comm _ _ _, rfl, rfl, rfl⟩, ?_⟩
    have later : FunctionId.forget store.functions ⟨store.functions + n⟩ = ⟨store.functions⟩ :=
      FunctionId.forget_of_le (Nat.le_add_right _ _)
    have same : FunctionId.forget store.functions ⟨store.functions⟩ = ⟨store.functions⟩ :=
      FunctionId.forget_of_le (Nat.le_refl _)
    simp only [Value.Alike, Value.forget, Callable.forget, newFunction, advance, later, same]

/-- What a routine is going to do does not depend on it. -/
theorem Routine.effect_advance (routine : Routine) (store : Store) (n : Nat) (id : FunctionId)
    (arguments : List Value) :
    routine.effect (store.advance n) id arguments = routine.effect store id arguments := by
  have displays : (store.advance n).display = store.display :=
    funext (store.displayWithin_advance n .none)
  cases routine with
  | join | put => simp only [effect, displays]
  | _ => rfl

/-- **Routines** do not depend on how many functions have been made. -/
theorem Routine.steady : Routine.bodies.Steady := by
  intro body id store n arguments
  refine bodies_induction (P := fun _ run => ∀ id (store : Store) n,
      (run id store).1.Ahead store.functions n (run id (store.advance n)).1 ∧
        (run id (store.advance n)).2.Alike store.functions (run id store).2)
    (fun _ _ store n => ⟨store.ahead_advance _ n, rfl⟩)
    (fun bodies ih routine arguments id store n => ?_) body arguments id store n
  dsimp only
  rw [effect_advance]
  cases routine.effect store id arguments with
  | give | list | put => exact ⟨⟨rfl, rfl, rfl, rfl⟩, rfl⟩
  | call f rest =>
    exact store.call_advance (fun body id store n arguments => ih body arguments id store n)
      n f rest

/-! ### Ways to go on -/

/-- What is held while arguments are still to be given. -/
inductive Pending where
  /-- An application. -/
  | application (application : Application) : Pending
  /-- A function. -/
  | function (f : Callable) : Pending

/-- How many arguments are still to be given. -/
def Pending.remaining : Pending → Nat
  | .application held => held.remaining
  | .function f => f.arity

/-- How to go on with what is held. -/
inductive Way where
  /-- With the thing itself, be it an application or a function. -/
  | itself : Way
  /-- By calling it as a function. -/
  | asFunction : Way
  /-- With an application of it as a function. -/
  | curriedAgain : Way

/-- What going on leads to. -/
inductive Went where
  /-- The function returned. -/
  | done (value : Value) : Went
  /-- More arguments are needed. -/
  | on (pending : Pending) : Went

namespace Store

/-- What is held, as a function. -/
def asFunction (store : Store) : Pending → Store × Callable
  | .application application => store.toFunction application
  | .function f => (store, f)

/-- Give arguments to an application. -/
def goOnApplying (store : Store) (bodies : Bodies) (application : Application)
    (arguments : List Value) : Store × Went :=
  match store.apply bodies application arguments with
  | (store, .complete value) => (store, .done value)
  | (store, .incomplete next) => (store, .on (.application next))

/-- Call a function with arguments.  Those that do not suffice lead to another function. -/
def goOnCalling (store : Store) (bodies : Bodies) (f : Callable) (arguments : List Value) :
    Store × Went :=
  if arguments.length < f.arity then
    match store.call bodies f arguments with
    | (store, .function rest) => (store, .on (.function rest))
    | (store, value) => (store, .done value)
  else
    let (store, value) := store.call bodies f arguments
    (store, .done value)

/-- Go on with arguments. -/
def goOn (store : Store) (bodies : Bodies) (pending : Pending) (way : Way)
    (arguments : List Value) : Store × Went :=
  match pending, way with
  | .application application, .itself => store.goOnApplying bodies application arguments
  | pending, .curriedAgain =>
      let (store, f) := store.asFunction pending
      store.goOnApplying bodies (.of f) arguments
  | pending, _ =>
      let (store, f) := store.asFunction pending
      store.goOnCalling bodies f arguments

/-- Go on with lists of arguments, one after the other, each time in some way, until the
function is called. -/
def chain (store : Store) (bodies : Bodies) (pending : Pending) :
    List (Way × List Value) → Store × Went
  | [] => (store, .on pending)
  | (way, arguments) :: rest =>
      match store.goOn bodies pending way arguments with
      | (store, .done value) => (store, .done value)
      | (store, .on next) => store.chain bodies next rest

end Store

/-! ### What was given through all layers -/

/-- A function is `f` with some arguments given, perhaps in several layers. -/
inductive Callable.Awaits (f : Callable) : Callable → List Value → Prop
  /-- It is `f` itself. -/
  | itself : Awaits f f []
  /-- It is a layer around another such function. -/
  | applied {id : FunctionId} {target : Callable} {given supplied : List Value} :
      Awaits f target given → supplied.length ≤ target.arity →
      Awaits f (.applied id target supplied) (given ++ supplied)

/-- What is held is `f` with some arguments given, and not `f` itself, which is called with
what is too much for it as well. -/
inductive Pending.Awaits (f : Callable) : Pending → List Value → Prop
  /-- It is an application. -/
  | application {target : Callable} {given supplied : List Value} :
      Callable.Awaits f target given → supplied.length ≤ target.arity →
      Awaits f (.application ⟨target, supplied⟩) (given ++ supplied)
  /-- It is the function of one. -/
  | function {id : FunctionId} {target : Callable} {given supplied : List Value} :
      Callable.Awaits f target given → supplied.length ≤ target.arity →
      Awaits f (.function (.applied id target supplied)) (given ++ supplied)

variable (bodies : Bodies) {f : Callable} {given : List Value} {arguments : List Value}

namespace Callable.Awaits

variable {g : Callable}

/-- It waits for the rest. -/
theorem arity (h : Awaits f g given) :
    g.arity = f.arity - given.length ∧ given.length ≤ f.arity := by
  induction h with
  | itself => exact ⟨rfl, Nat.zero_le _⟩
  | @applied id target given supplied _ fits ih =>
    rw [Callable.arity, List.length_append]
    omega

/-- **Layers**: given exactly the rest, all of them come to one call of `f`. -/
theorem call (h : Awaits f g given) (store : Store)
    (whole : (given ++ arguments).length = f.arity) :
    store.call bodies g arguments = store.call bodies f (given ++ arguments) := by
  induction h generalizing arguments with
  | itself => rfl
  | @applied id target given supplied inner fits ih =>
    -- the layer passes on what it was given, which is exactly what its target waits for
    have rest : (supplied ++ arguments).length = target.arity := by
      simp only [List.length_append] at whole ⊢
      have := inner.arity
      omega
    have enough : target.arity ≤ (supplied ++ arguments).length := Nat.le_of_eq rest.symm
    rw [Store.call_applied, Store.apply_of_le ⟨target, supplied⟩ enough,
      Application.arity, List.take_of_length_le (Nat.le_of_eq rest)]
    rw [List.append_assoc] at whole ⊢
    rw [← ih whole]
    rfl

/-- With arguments that do not suffice, an application of it waits on. -/
theorem apply_of_lt (h : Awaits f g given) {supplied : List Value} (store : Store)
    (few : (given ++ supplied ++ arguments).length < f.arity) :
    store.apply bodies ⟨g, supplied⟩ arguments = (store, .incomplete ⟨g, supplied ++ arguments⟩) ∧
      (supplied ++ arguments).length ≤ g.arity := by
  have arity := h.arity
  have few' : (supplied ++ arguments).length < g.arity := by
    simp only [List.length_append] at few ⊢
    omega
  exact ⟨Store.apply_of_lt ⟨g, supplied⟩ few', Nat.le_of_lt few'⟩

/-- With arguments that suffice, it calls `f` with the first of all that was given. -/
theorem apply_of_le (h : Awaits f g given) {supplied : List Value} (store : Store)
    (enough : f.arity ≤ (given ++ supplied ++ arguments).length) :
    store.apply bodies ⟨g, supplied⟩ arguments =
      ((store.call bodies f ((given ++ supplied ++ arguments).take f.arity)).1,
        .complete (store.call bodies f ((given ++ supplied ++ arguments).take f.arity)).2) := by
  have arity := h.arity
  rw [List.append_assoc] at enough ⊢
  have enough' : g.arity ≤ (supplied ++ arguments).length := by
    rw [List.length_append] at enough
    omega
  -- the first of all that was given is what was given before, and the first of the rest
  have part : (given ++ (supplied ++ arguments)).take f.arity =
      given ++ (supplied ++ arguments).take g.arity := by
    rw [List.take_append, List.take_of_length_le arity.2, arity.1]
  have whole : (given ++ (supplied ++ arguments).take g.arity).length = f.arity := by
    rw [List.length_append, List.length_take_of_le enough']
    omega
  rw [Store.apply_of_le ⟨g, supplied⟩ enough', Application.arity,
    h.call bodies store whole, part]

end Callable.Awaits

namespace Pending.Awaits

variable {pending : Pending}

theorem remaining (h : pending.Awaits f given) :
    pending.remaining = f.arity - given.length ∧ given.length ≤ f.arity := by
  cases h with
  | application inner fits | function inner fits =>
    have := inner.arity
    simp only [Pending.remaining, Application.remaining, Callable.arity, List.length_append]
    omega

end Pending.Awaits

namespace Store

variable {pending : Pending}

/-! ### One step -/

theorem goOnApplying_of_lt {target : Callable} {supplied : List Value} (store : Store)
    (inner : Callable.Awaits f target given)
    (few : (given ++ supplied ++ arguments).length < f.arity) :
    ∃ next,
      store.goOnApplying bodies ⟨target, supplied⟩ arguments = (store, .on (.application next)) ∧
      (Pending.application next).Awaits f (given ++ supplied ++ arguments) := by
  obtain ⟨applied, fits⟩ := inner.apply_of_lt bodies store few
  refine ⟨⟨target, supplied ++ arguments⟩, ?_, ?_⟩
  · rw [goOnApplying, applied]
  · rw [List.append_assoc]
    exact .application inner fits

theorem goOnApplying_of_le {target : Callable} {supplied : List Value} (store : Store)
    (inner : Callable.Awaits f target given)
    (enough : f.arity ≤ (given ++ supplied ++ arguments).length) :
    store.goOnApplying bodies ⟨target, supplied⟩ arguments =
      ((store.call bodies f ((given ++ supplied ++ arguments).take f.arity)).1,
        .done (store.call bodies f ((given ++ supplied ++ arguments).take f.arity)).2) := by
  rw [goOnApplying, inner.apply_of_le bodies store enough]

theorem goOnCalling_of_lt {target : Callable} {supplied : List Value} (store : Store)
    (id : FunctionId) (inner : Callable.Awaits f target given)
    (few : (given ++ supplied ++ arguments).length < f.arity) :
    ∃ next, store.goOnCalling bodies (.applied id target supplied) arguments =
        (store.advance 1, .on (.function next)) ∧
      (Pending.function next).Awaits f (given ++ supplied ++ arguments) := by
  obtain ⟨applied, fits⟩ := inner.apply_of_lt bodies store few
  have few' : arguments.length < (Callable.applied id target supplied).arity := by
    have := inner.arity
    simp only [List.length_append, Callable.arity] at few ⊢
    omega
  refine ⟨.applied ⟨store.functions⟩ target (supplied ++ arguments), ?_, ?_⟩
  · rw [goOnCalling, if_pos few', call_applied, applied]
    rfl
  · rw [List.append_assoc]
    exact .function inner fits

theorem goOnCalling_of_le {id : FunctionId} {target : Callable} {supplied : List Value}
    (store : Store) (inner : Callable.Awaits f target given)
    (fits : supplied.length ≤ target.arity)
    (enough : f.arity ≤ (given ++ supplied ++ arguments).length) :
    store.goOnCalling bodies (.applied id target supplied) arguments =
      ((store.call bodies f ((given ++ supplied ++ arguments).take f.arity)).1,
        .done (store.call bodies f ((given ++ supplied ++ arguments).take f.arity)).2) := by
  have enough' : ¬ arguments.length < (Callable.applied id target supplied).arity := by
    have := inner.arity
    simp only [List.length_append, Callable.arity] at enough ⊢
    omega
  rw [goOnCalling, if_neg enough', call_applied, inner.apply_of_le bodies store enough]
  rfl

/-- **Two ways are left**: going on is giving the arguments to an application, or calling
a function made of one, where the same was given. -/
theorem goOn_cases (h : pending.Awaits f given) (store : Store) (way : Way)
    (arguments : List Value) :
    ∃ n target before supplied, Callable.Awaits f target before ∧
      supplied.length ≤ target.arity ∧ given = before ++ supplied ∧
      (store.goOn bodies pending way arguments =
          (store.advance n).goOnApplying bodies ⟨target, supplied⟩ arguments ∧ way ≠ .asFunction ∨
        ∃ id, store.goOn bodies pending way arguments =
          (store.advance n).goOnCalling bodies (.applied id target supplied) arguments) := by
  cases h with
  | @application target before supplied inner fits =>
    cases way with
    | itself => exact ⟨0, target, before, supplied, inner, fits, rfl, .inl ⟨rfl, nofun⟩⟩
    | asFunction => exact ⟨1, target, before, supplied, inner, fits, rfl, .inr ⟨_, rfl⟩⟩
    | curriedAgain =>
      exact ⟨1, _, _, [], .applied inner fits, Nat.zero_le _, (List.append_nil _).symm,
        .inl ⟨rfl, nofun⟩⟩
  | @function id target before supplied inner fits =>
    cases way with
    | itself | asFunction =>
      exact ⟨0, target, before, supplied, inner, fits, rfl, .inr ⟨id, rfl⟩⟩
    | curriedAgain =>
      exact ⟨0, _, _, [], .applied inner fits, Nat.zero_le _, (List.append_nil _).symm,
        .inl ⟨rfl, nofun⟩⟩

/-- **Arguments that do not suffice** only make functions, and what is held then has been
given them as well. -/
theorem goOn_of_lt (h : pending.Awaits f given) (store : Store) (way : Way)
    (few : (given ++ arguments).length < f.arity) :
    ∃ n next, store.goOn bodies pending way arguments = (store.advance n, .on next) ∧
      next.Awaits f (given ++ arguments) ∧
        (way = .asFunction → ∃ g, next = .function g) := by
  obtain ⟨n, target, before, supplied, inner, fits, rfl, ⟨applying, other⟩ | ⟨id, calling⟩⟩ :=
    goOn_cases bodies h store way arguments
  · obtain ⟨next, applied, awaits⟩ := (store.advance n).goOnApplying_of_lt bodies inner few
    exact ⟨n, .application next, applying.trans applied, awaits, fun same => absurd same other⟩
  · obtain ⟨next, called, awaits⟩ := (store.advance n).goOnCalling_of_lt bodies id inner few
    rw [advance_advance] at called
    exact ⟨n + 1, .function next, calling.trans called, awaits, fun _ => ⟨next, rfl⟩⟩

/-- **Arguments that suffice** lead to one call, of the function at the bottom, with the
first of all that was given. -/
theorem goOn_of_le (h : pending.Awaits f given) (store : Store) (way : Way)
    (enough : f.arity ≤ (given ++ arguments).length) :
    ∃ n, store.goOn bodies pending way arguments =
      (((store.advance n).call bodies f ((given ++ arguments).take f.arity)).1,
        .done ((store.advance n).call bodies f ((given ++ arguments).take f.arity)).2) := by
  obtain ⟨n, target, before, supplied, inner, fits, rfl, ⟨applying, _⟩ | ⟨id, calling⟩⟩ :=
    goOn_cases bodies h store way arguments
  · exact ⟨n, applying.trans ((store.advance n).goOnApplying_of_le bodies inner enough)⟩
  · exact ⟨n, calling.trans ((store.advance n).goOnCalling_of_le bodies inner fits enough)⟩

/-! ### Steps in turn -/

/-- As long as the arguments do not suffice, nothing is done but making functions. -/
theorem chain_of_lt (h : pending.Awaits f given) (store : Store) (steps : List (Way × List Value))
    (few : (given ++ (steps.map Prod.snd).flatten).length < f.arity) :
    ∃ n last, store.chain bodies pending steps = (store.advance n, .on last) ∧
      last.Awaits f (given ++ (steps.map Prod.snd).flatten) ∧
        (steps.getLast?.map Prod.fst = some .asFunction → ∃ g, last = .function g) := by
  induction steps generalizing store pending given with
  | nil =>
    refine ⟨0, pending, rfl, ?_, nofun⟩
    rwa [List.map_nil, List.flatten_nil, List.append_nil]
  | cons step rest ih =>
    obtain ⟨way, arguments⟩ := step
    simp only [List.map_cons, List.flatten_cons, ← List.append_assoc] at few ⊢
    have few' : (given ++ arguments).length < f.arity := by
      rw [List.length_append] at few
      omega
    obtain ⟨n, next, gone, awaits, function⟩ := goOn_of_lt bodies h store way few'
    obtain ⟨m, last, went, awaits', function'⟩ := ih awaits (store.advance n) few
    rw [advance_advance] at went
    refine ⟨n + m, last, ?_, awaits', ?_⟩
    · rw [chain, gone]
      exact went
    · cases rest with
      | nil =>
        obtain rfl : next = last := Went.on.inj (Prod.mk.inj went).2
        exact fun same => function (Option.some.inj same)
      | cons next rest => exact function'

/-- With the list that makes them suffice, the function is called. -/
theorem chain_of_le (h : pending.Awaits f given) (store : Store) (steps : List (Way × List Value))
    (nonempty : steps ≠ [])
    (enough : f.arity ≤ (given ++ (steps.map Prod.snd).flatten).length) :
    ∃ n, store.chain bodies pending steps =
      (((store.advance n).call bodies f
          ((given ++ (steps.map Prod.snd).flatten).take f.arity)).1,
        .done ((store.advance n).call bodies f
          ((given ++ (steps.map Prod.snd).flatten).take f.arity)).2) := by
  induction steps generalizing store pending given with
  | nil => exact absurd rfl nonempty
  | cons step rest ih =>
    obtain ⟨way, arguments⟩ := step
    simp only [List.map_cons, List.flatten_cons, ← List.append_assoc] at enough ⊢
    by_cases already : f.arity ≤ (given ++ arguments).length
    · -- the rest of the lists is not looked at, and would have been dropped
      obtain ⟨n, gone⟩ := goOn_of_le bodies h store way already
      rw [List.take_append_of_le_length already]
      refine ⟨n, ?_⟩
      rw [chain, gone]
    · obtain ⟨n, next, gone, awaits, _⟩ := goOn_of_lt bodies h store way (Nat.not_le.1 already)
      have more : rest ≠ [] := by
        rintro rfl
        rw [List.map_nil, List.flatten_nil, List.append_nil] at enough
        exact already enough
      obtain ⟨m, went⟩ := ih awaits (store.advance n) more enough
      rw [advance_advance] at went
      refine ⟨n + m, ?_⟩
      rw [chain, gone]
      exact went

/-- **All ways of going on agree.**  From an application that was reached, lists of
arguments are given in turn, each in any way, and bodies may do anything.  As long as all that
was given does not suffice, nothing happens, and what is held waits for the rest; it is a
function if the last list was given to a function.  With the list that makes it suffice, the
function at the bottom is called, once, with the first of all that was given, and what is too
much is dropped.  So it is if the lists are given to applications alone, with the only
difference that some other functions have been made by then.  That makes none if bodies do not
depend on it: the value is the same, and so is the store, up to the functions that were made on
the way.  A call of a native function is recorded, and its body runs once. -/
theorem chain_eq_applyInTurn {application : Application}
    (reached : Application.Reached bodies f application) (store : Store)
    (steps : List (Way × List Value)) :
    let lists := steps.map Prod.snd
    let all := application.supplied ++ lists.flatten
    (steps = [] ∨ all.length < f.arity →
      store.applyInTurn bodies application lists = (store, .incomplete ⟨f, all⟩) ∧
      ∃ n last, store.chain bodies (.application application) steps =
          (store.advance n, .on last) ∧
        last.remaining = f.arity - all.length ∧
        (steps.getLast?.map Prod.fst = some .asFunction → ∃ g, last = .function g)) ∧
    (steps ≠ [] ∧ f.arity ≤ all.length →
      let first := all.take f.arity
      let called := store.call bodies f first
      store.applyInTurn bodies application lists = (called.1, .complete called.2) ∧
      ∃ n, let called' := (store.advance n).call bodies f first
        store.chain bodies (.application application) steps = (called'.1, .done called'.2) ∧
        (bodies.Steady → called.1.Ahead store.functions n called'.1 ∧
          called'.2.Alike store.functions called.2) ∧
        ∀ id name arity body, f = .native id name arity body →
          called' = bodies body id ((store.advance n).recordCall ⟨id, name, f.arity⟩) first ∧
            (bodies.Records → ∃ nested, called'.1.history.toList =
              store.history.toList ++ ⟨id, name, f.arity⟩ :: nested)) := by
  intro lists all
  obtain ⟨supplied, rfl, fits⟩ : ∃ supplied, application = ⟨f, supplied⟩ ∧
      supplied.length ≤ f.arity :=
    ⟨application.supplied, by rw [← reached.eq.1], reached.eq.2⟩
  have awaits : (Pending.application ⟨f, supplied⟩).Awaits f supplied := .application .itself fits
  refine ⟨fun short => ?_, ?_⟩
  · by_cases nothing : steps = []
    · subst nothing
      have alone : all = supplied := List.append_nil _
      rw [alone]
      exact ⟨rfl, 0, _, rfl, rfl, nofun⟩
    · have few := short.resolve_left nothing
      obtain ⟨n, last, gone, awaits, function⟩ := chain_of_lt bodies awaits store steps few
      refine ⟨?_, n, last, gone, awaits.remaining.1, function⟩
      rw [applyInTurn_eq_apply _ _ _ _ (mt List.map_eq_nil_iff.1 nothing)]
      exact apply_of_lt _ few
  · rintro ⟨nonempty, enough⟩ first called
    have whole : first.length = f.arity := List.length_take_of_le enough
    obtain ⟨n, gone⟩ := chain_of_le bodies awaits store steps nonempty enough
    refine ⟨?_, n, gone, fun steady => call_advance steady store n f first,
      fun id name arity body native => ⟨?_, fun records => ?_⟩⟩
    · rw [applyInTurn_eq_apply _ _ _ _ (mt List.map_eq_nil_iff.1 nonempty)]
      exact apply_of_le _ enough
    · rw [← whole]
      simp only [native, call]
    · rw [← whole]
      simp only [native]
      exact history_call_native records (store.advance n) id name arity body first

/-- The last of three arguments.  The first one is given to begin with, nothing to a
function of the rest, one more to an application of that function, and then the third one
with an extra, which is dropped. -/
theorem chain_eq_applyInTurn_last :
    let f : Callable := .native ⟨0⟩ "f" 3 Routine.last.body
    let steps : List (Way × List Value) :=
      [(.asFunction, []), (.curriedAgain, [.undefined]), (.itself, [.boolean true, .null])]
    Application.Reached Routine.bodies f ⟨f, [.null]⟩ ∧
    (steps ≠ [] ∧ f.arity ≤ [Value.null, .undefined, .boolean true, .null].length) ∧
    Routine.bodies.Steady ∧ Routine.bodies.Records ∧
    ∃ n, Store.empty.chain Routine.bodies (.application ⟨f, [.null]⟩) steps =
      ((Store.empty.advance n).recordCall ⟨⟨0⟩, "f", 3⟩, .done (.boolean true)) := by
  intro f steps
  have short : empty.apply Routine.bodies (.of f) [.null] = (.empty, .incomplete ⟨f, [.null]⟩) :=
    apply_of_lt (.of f) (by decide : [Value.null].length < f.arity)
  have reached : Application.Reached Routine.bodies f ⟨f, [.null]⟩ := .give .start short
  have enough : steps ≠ [] ∧ f.arity ≤ [Value.null, .undefined, .boolean true, .null].length :=
    ⟨List.cons_ne_nil _ _, by decide⟩
  obtain ⟨-, n, gone, -, runs⟩ :=
    (chain_eq_applyInTurn Routine.bodies reached .empty steps).2 enough
  refine ⟨reached, enough, Routine.steady, Routine.records, n, gone.trans ?_⟩
  rw [(runs ⟨0⟩ "f" 3 Routine.last.body rfl).1, Routine.bodies_body]
  rfl

end Store

end Contracts
