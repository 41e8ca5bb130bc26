import Contracts.Heap.Routine

/-!
# What routines do

A call of any function comes to a call of a native one, unless arguments are missing, and then
its body runs.  Of a routine, what the body does is known: it is one of a few things, each of
them done with what is among its arguments.  What is to be shown of all routines is therefore
shown once for each of these things.  Where a function is called, it may be supposed of all
bodies that the call leads to.

## Main definitions

* `Callable.run?` — the body that runs when a function is called, and its arguments.
* `Value.IsScalar` — neither a container nor a function.
* `Routine.Effect.Fits` — what is done is done with certain arguments.

## Main results

* `Store.call_of_run`, `Store.call_of_waits` — calling is running that body.
* `Routine.fits_effect` — what routines do is done with their arguments.
* `Routine.bodies_induction` — **what can be shown of all routines at once.**
* `Routine.bodies_eq` — a routine that calls a function leads to what that function does,
  however deep the calls are nested.
-/

namespace Contracts

/-! ### Bodies that run -/

/-- A native function with arguments for its body. -/
structure Body.Run where
  /-- The function. -/
  id : FunctionId
  /-- Its name. -/
  name : String
  /-- Its body. -/
  body : Body
  /-- The arguments. -/
  arguments : List Value

/-- The call of the function, to be recorded. -/
def Body.Run.invocation (run : Body.Run) : Invocation :=
  ⟨run.id, run.name, run.arguments.length⟩

/-- The body that runs when a function is called, with its arguments; none does if some are
missing. -/
def Callable.run? : Callable → List Value → Option Body.Run
  | .native id name _ body, arguments => some ⟨id, name, body, arguments⟩
  | .applied _ target supplied, arguments =>
      if target.arity ≤ (supplied ++ arguments).length then
        target.run? ((supplied ++ arguments).take target.arity)
      else none

namespace Store

variable {f : Callable} {arguments : List Value}

/-- **Calling** is running the body, once the call is recorded. -/
theorem call_of_run {run : Body.Run} (h : f.run? arguments = some run) (store : Store)
    (bodies : Bodies) :
    store.call bodies f arguments =
      bodies run.body run.id (store.recordCall run.invocation) run.arguments := by
  fun_induction Callable.run? f arguments with
  | case1 id name arity body arguments =>
    cases h
    rfl
  | case2 id target supplied arguments enough ih =>
    rw [call, if_pos enough]
    exact ih h
  | case3 => cases h

/-- Otherwise another function is made, which waits for the rest. -/
theorem call_of_waits (h : f.run? arguments = none) (store : Store) :
    ∃ g, ∀ bodies, store.call bodies f arguments = (store.newFunction.1, .function g) := by
  fun_induction Callable.run? f arguments with
  | case1 => cases h
  | case2 id target supplied arguments enough ih =>
    obtain ⟨g, called⟩ := ih h
    refine ⟨g, fun bodies => ?_⟩
    rw [call, if_pos enough]
    exact called bodies
  | case3 id target supplied arguments few =>
    refine ⟨.applied store.newFunction.2 target (supplied ++ arguments), fun bodies => ?_⟩
    rw [call, if_neg few]

end Store

/-! ### Scalars -/

/-- Neither a container nor a function. -/
inductive Value.IsScalar : Value → Prop
  /-- What was never written. -/
  | undefined : IsScalar .undefined
  /-- The value `null`. -/
  | null : IsScalar .null
  /-- A truth value. -/
  | boolean (b : Bool) : IsScalar (.boolean b)
  /-- A number. -/
  | number (x : Number) : IsScalar (.number x)
  /-- A text. -/
  | string (s : String) : IsScalar (.string s)

namespace Routine

variable {arguments : List Value} {left right : Bodies}

theorem of?_body (routine : Routine) : of? routine.body = some routine := by
  cases routine <;> rfl

/-! ### Effects -/

/-- What is given out or stored is an argument, or a scalar. -/
def IsGiven (arguments : List Value) (value : Value) : Prop := value ∈ arguments ∨ value.IsScalar

/-- What is done is done with certain arguments. -/
inductive Effect.Fits (arguments : List Value) : Effect → Prop
  /-- An argument or a scalar is returned. -/
  | give {value : Value} (given : IsGiven arguments value) : Fits arguments (.give value)
  /-- The new array is one of the arguments. -/
  | list : Fits arguments (.list arguments)
  /-- The record is an argument, and what is written to it is one or a scalar. -/
  | put {record : RecordId} {key : String} {value : Value} (written : .record record ∈ arguments)
      (given : IsGiven arguments value) : Fits arguments (.put record key value)
  /-- The function that is called is the first argument, and gets the rest. -/
  | call {f : Callable} {rest : List Value} (split : arguments = .function f :: rest) :
      Fits arguments (.call f rest)

/-- What is missing in a list is undefined. -/
theorem isGiven_getD {value : Option Value} (h : ∀ v, value = some v → v ∈ arguments) :
    IsGiven arguments (value.getD .undefined) := by
  cases value with
  | none => exact .inr .undefined
  | some value => exact .inl (h value rfl)

/-- **What routines do** is done with their arguments. -/
theorem fits_effect (routine : Routine) (store : Store) (id : FunctionId)
    (arguments : List Value) : (routine.effect store id arguments).Fits arguments := by
  have head : IsGiven arguments (arguments.head?.getD .undefined) :=
    isGiven_getD fun _ found => List.mem_of_mem_head? found
  cases routine with
  | first => exact .give head
  | last => exact .give (isGiven_getD fun _ found => List.mem_of_getLast? found)
  | count | sum | tick => exact .give (.inr (.number _))
  | join => exact .give (.inr (.string _))
  | list => exact .list
  | ignore => exact .give (.inr .undefined)
  | put =>
    simp only [effect]
    split
    · next record found =>
      refine .put ?_ (isGiven_getD fun _ found => List.mem_of_getElem? found)
      rw [found] at head
      exact head.resolve_right nofun
    · exact .give head
  | apply =>
    simp only [effect]
    split
    · exact .call rfl
    · exact .give (.inr .undefined)

/-! ### All routines at once -/

/-- **What can be shown of all routines at once**: a property of what a body does with some
arguments that holds if nothing is done, and that the routines have if all bodies do which
they lead to. -/
theorem bodies_induction {P : List Value → (FunctionId → Store → Store × Value) → Prop}
    (nothing : ∀ arguments, P arguments fun _ store => (store, .undefined))
    (step : ∀ bodies : Bodies,
      (∀ body arguments, P arguments fun id store => bodies body id store arguments) →
      ∀ (routine : Routine) arguments,
        P arguments fun id store => (routine.effect store id arguments).on store bodies)
    (body : Body) (arguments : List Value) :
    P arguments fun id store => Routine.bodies body id store arguments := by
  have all (depth : Nat) : ∀ body arguments,
      P arguments fun id store => nested depth body id store arguments := by
    induction depth with
    | zero => exact fun _ arguments => nothing arguments
    | succ depth ih =>
      intro body arguments
      simp only [nested, Routine.step]
      split
      · next routine _ => exact step _ ih routine arguments
      · exact nothing arguments
  exact all _ body arguments

/-! ### Nested calls -/

theorem listWeight_append (front back : List Value) :
    listWeight (front ++ back) = listWeight front + listWeight back := by
  induction front with
  | nil => exact (Nat.zero_add _).symm
  | cons value rest ih => rw [List.cons_append, listWeight, listWeight, ih, Nat.add_assoc]

theorem listWeight_take_le (values : List Value) (n : Nat) :
    listWeight (values.take n) ≤ listWeight values := by
  conv => rhs; rw [← List.take_append_drop n values, listWeight_append]
  exact Nat.le_add_right _ _

/-- A body gets no more than the function had that was called. -/
theorem listWeight_run_lt {f : Callable} {run : Body.Run} (h : f.run? arguments = some run) :
    listWeight run.arguments < functionWeight f + listWeight arguments := by
  fun_induction Callable.run? f arguments with
  | case1 id name arity body arguments =>
    cases h
    exact Nat.lt_add_of_pos_left Nat.zero_lt_one
  | case2 id target supplied arguments enough ih =>
    have less := ih h
    have := listWeight_take_le (supplied ++ arguments) target.arity
    rw [listWeight_append] at this
    rw [functionWeight]
    omega
  | case3 => cases h

/-- A call depends on what bodies do with no more than that. -/
theorem call_congr (store : Store) (f : Callable) (arguments : List Value)
    (same : ∀ body id store arguments',
      listWeight arguments' < functionWeight f + listWeight arguments →
        left body id store arguments' = right body id store arguments') :
    store.call left f arguments = store.call right f arguments := by
  cases runs : f.run? arguments with
  | none =>
    obtain ⟨g, called⟩ := Store.call_of_waits runs store
    rw [called, called]
  | some run =>
    rw [Store.call_of_run runs, Store.call_of_run runs]
    exact same _ _ _ _ (listWeight_run_lt runs)

/-- Deep enough is as good as deeper. -/
theorem nested_eq {depth depth' : Nat} (body : Body) (id : FunctionId) (store : Store)
    (arguments : List Value) (deep : listWeight arguments < depth)
    (deep' : listWeight arguments < depth') :
    nested depth body id store arguments = nested depth' body id store arguments := by
  induction depth generalizing depth' body id store arguments with
  | zero => exact absurd deep (Nat.not_lt_zero _)
  | succ depth ih =>
    cases depth' with
    | zero => exact absurd deep' (Nat.not_lt_zero _)
    | succ depth' =>
      simp only [nested, step]
      split
      · next routine _ =>
        have fits := routine.fits_effect store id arguments
        generalize routine.effect store id arguments = effect at fits
        cases fits with
        | @call f rest split =>
          subst split
          rw [listWeight, valueWeight] at deep deep'
          exact call_congr store f rest fun body id store arguments less =>
            ih body id store arguments (by omega) (by omega)
        | _ => rfl
      · rfl

/-- **Routines that call functions** lead to what those do, and so on, to the end. -/
theorem bodies_eq : bodies = step bodies := by
  funext body id store arguments
  show step (nested (listWeight arguments)) body id store arguments = _
  simp only [step]
  split
  · next routine _ =>
    have fits := routine.fits_effect store id arguments
    generalize routine.effect store id arguments = effect at fits
    cases fits with
    | @call f rest split =>
      subst split
      refine call_congr store f rest fun body id store arguments less => ?_
      refine nested_eq body id store arguments ?_ (Nat.lt_succ_self _)
      rw [listWeight, valueWeight]
      omega
    | _ => rfl
  · rfl

/-- So a routine has its effect, with all bodies being routines. -/
theorem bodies_body (routine : Routine) (id : FunctionId) (store : Store)
    (arguments : List Value) :
    bodies routine.body id store arguments =
      (routine.effect store id arguments).on store bodies := by
  have unfolded := congrFun (congrFun bodies_eq routine.body) id
  rw [unfolded, step, of?_body]

end Routine

end Contracts
