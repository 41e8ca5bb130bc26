import Contracts.Proofs.Heap.Routine

/-!
# Giving arguments

An application either waits for more arguments, and then nothing has happened, or its
function has been called once with all that it waits for.  Given in several parts or at
once, the same arguments lead to the same call.

## Main definitions

* `Store.applyInTurn` — give several lists of arguments, one after the other.
* `Application.Reached` — what is left of a function after arguments that did not suffice.
* `Bodies.Records` — bodies remove no call from the history.

## Main results

* `Store.apply_of_lt`, `Store.apply_of_le` — what giving arguments leads to.
* `Store.applyInTurn_eq_apply` — parts of a list lead to what the whole list leads to.
* `Store.history_call_native` — a call of a native function is recorded first, and what
  its body calls after it.
* `Routine.records` — routines remove no call from the history.
-/

namespace Contracts

namespace Store

variable {store : Store} {bodies : Bodies} {arguments : List Value}

/-! ### One list of arguments -/

/-- Arguments that do not suffice are collected, and nothing happens. -/
theorem apply_of_lt (application : Application)
    (few : (application.supplied ++ arguments).length < application.arity) :
    store.apply bodies application arguments =
      (store, .incomplete ⟨application.target, application.supplied ++ arguments⟩) :=
  if_neg (Nat.not_le.2 few)

/-- Once they suffice, the function is called with as many as it waits for. -/
theorem apply_of_le (application : Application)
    (enough : application.arity ≤ (application.supplied ++ arguments).length) :
    store.apply bodies application arguments =
      ((store.call bodies application.target
          ((application.supplied ++ arguments).take application.arity)).1,
        .complete (store.call bodies application.target
          ((application.supplied ++ arguments).take application.arity)).2) :=
  if_pos enough

/-! ### Several lists of arguments -/

/-- Give lists of arguments one after the other, until the function is called. -/
def applyInTurn (store : Store) (bodies : Bodies) (application : Application) :
    List (List Value) → Store × Applied
  | [] => (store, .incomplete application)
  | arguments :: rest =>
      match store.apply bodies application arguments with
      | (store, .complete value) => (store, .complete value)
      | (store, .incomplete next) => store.applyInTurn bodies next rest

/-- **Parts**: lists of arguments lead to what all of them at once lead to. -/
theorem applyInTurn_eq_apply (store : Store) (bodies : Bodies) (application : Application)
    (lists : List (List Value)) (given : lists ≠ []) :
    store.applyInTurn bodies application lists =
      store.apply bodies application lists.flatten := by
  induction lists generalizing application with
  | nil => exact absurd rfl given
  | cons arguments rest ih =>
    rw [applyInTurn, List.flatten_cons]
    by_cases enough : application.arity ≤ (application.supplied ++ arguments).length
    · -- the rest is not looked at, and would have been dropped
      have first : (application.supplied ++ arguments ++ rest.flatten).take application.arity =
          (application.supplied ++ arguments).take application.arity :=
        List.take_append_of_le_length enough
      rw [List.append_assoc] at first
      have all : application.arity ≤
          (application.supplied ++ (arguments ++ rest.flatten)).length := by
        simp only [List.length_append] at enough ⊢
        omega
      rw [apply_of_le _ enough, apply_of_le _ all, first]
    · have few := Nat.not_le.1 enough
      rw [apply_of_lt _ few]
      cases rest with
      | nil =>
        rw [List.flatten_nil, List.append_nil, apply_of_lt _ few]
        rfl
      | cons next rest =>
        dsimp only
        rw [ih _ (List.cons_ne_nil next rest)]
        simp only [apply, List.append_assoc]

/-! ### What is reached -/

end Store

/-- What is left of a function once it was given arguments, any number of times, that did
not suffice. -/
inductive Application.Reached (bodies : Bodies) (f : Callable) : Application → Prop
  /-- It was given nothing yet. -/
  | start : Reached bodies f (.of f)
  /-- It was given some more. -/
  | give {store store' : Store} {application next : Application} {arguments : List Value} :
      Reached bodies f application →
      store.apply bodies application arguments = (store', .incomplete next) →
      Reached bodies f next

/-- It is the function with no more arguments than it waits for. -/
theorem Application.Reached.eq {bodies : Bodies} {f : Callable} {application : Application}
    (reached : Reached bodies f application) :
    application.target = f ∧ application.supplied.length ≤ f.arity := by
  induction reached with
  | start => exact ⟨rfl, Nat.zero_le _⟩
  | @give store _ application next arguments _ given ih =>
    by_cases enough : application.arity ≤ (application.supplied ++ arguments).length
    · rw [Store.apply_of_le _ enough] at given
      cases given
    · have few := Nat.not_le.1 enough
      rw [Store.apply_of_lt _ few] at given
      cases given
      rw [Application.arity, ih.1] at few
      exact ⟨ih.1, Nat.le_of_lt few⟩

/-! ### Recorded calls -/

/-- Whatever a body does, it removes no call from the history. -/
def Bodies.Records (bodies : Bodies) : Prop :=
  ∀ body id store arguments,
    store.history.toList <+: (bodies body id store arguments).1.history.toList

namespace Store

variable {bodies : Bodies}

theorem history_recordCall (store : Store) (call : Invocation) :
    (store.recordCall call).history.toList = store.history.toList ++ [call] := by
  rw [recordCall, Array.toList_push]

/-- What was recorded stays, and more is recorded after it. -/
theorem history_prefix_call (records : bodies.Records) (store : Store) (f : Callable)
    (arguments : List Value) :
    store.history.toList <+: (store.call bodies f arguments).1.history.toList := by
  fun_induction store.call bodies f arguments with
  | case1 id name arity body arguments =>
    refine List.IsPrefix.trans ?_ (records body id _ arguments)
    rw [history_recordCall]
    exact List.prefix_append _ _
  | case2 id target supplied arguments enough ih => exact ih
  | case3 id target supplied arguments few store' id' made =>
    cases made
    exact List.prefix_rfl

/-- **Recorded calls**: a call of a native function is recorded with the number of its
arguments, before anything that its body calls. -/
theorem history_call_native (records : bodies.Records) (store : Store) (id : FunctionId)
    (name : String) (arity : Nat) (body : Body) (arguments : List Value) :
    ∃ nested, (store.call bodies (.native id name arity body) arguments).1.history.toList =
      store.history.toList ++ ⟨id, name, arguments.length⟩ :: nested := by
  obtain ⟨nested, listed⟩ := records body id (store.recordCall ⟨id, name, arguments.length⟩)
    arguments
  refine ⟨nested, listed.symm.trans ?_⟩
  rw [history_recordCall, List.append_assoc, List.singleton_append]

end Store

/-- Routines remove no call from the history. -/
theorem Routine.records : Routine.bodies.Records := by
  intro body id store arguments
  refine bodies_induction (P := fun _ run =>
    ∀ id store, store.history.toList <+: (run id store).1.history.toList)
    (fun _ _ _ => List.prefix_rfl) (fun bodies ih routine arguments id store => ?_)
    body arguments id store
  dsimp only
  cases routine.effect store id arguments with
  | give | list | put => exact List.prefix_rfl
  | call f rest =>
    exact Store.history_prefix_call (fun body id store arguments => ih body arguments id store)
      store f rest

end Contracts
