import Contracts.Proofs.Session.OwnRecord

/-!
# Refused steps

What a session refuses is logged, and has no other effect: whatever an action changes, it
changes after the last check.  So the steps that are refused can be left out of a run, and
everything is as it was but the log.  This is shown in two parts.  A step does the same in
two sessions that differ in nothing but their logs, so that what was left out earlier makes
no difference later, and a step that is refused leads to such a session.

Two kinds of steps are special.  Listing events tells what was logged, and so differs.
Loading a document is no single operation: what was declared before a declaration is refused
stays declared, so that a load has to stay in a run even if it is refused.

The values that a step is given are made before its action is done, and nothing undoes that
if it is refused.  Where it is left out, the making of these values takes its place, which is
nothing if they are plain.

## Main definitions

* `Session.remainder` — what takes the place of a refused step.
* `Session.withoutRefused` — steps without those that are refused.

## Main results

* `Session.contents_run` — a step does not depend on the log.
* `Session.contents_run_of_refuses` — it leaves nothing but an entry there if it is refused, the
  making of its operands apart.
* `Session.runSteps_withoutRefused` — **a run without refused steps.**
-/

namespace Contracts

/-! ### Making values -/

/-- Whether nothing is made for the value of an expression. -/
def Expression.isPlain : Expression → Bool
  | .array _ | .record _ | .json _ | .function .. => false
  | _ => true

theorem Holdings.evaluate_of_isPlain {holdings : Holdings} {store next : Store}
    {operand : Expression} {value : Value} (plain : operand.isPlain = true)
    (found : holdings.evaluate store operand = some (next, value)) : next = store := by
  cases operand with
  | undefined | null | boolean | number | string =>
    cases found
    rfl
  | held name =>
    simp only [evaluate, Option.bind_eq_bind, Option.bind_eq_some_iff] at found
    obtain ⟨value, _, made⟩ := found
    cases made
    rfl
  | array | record | json | function => cases plain

/-- Steps that make the values of expressions, and do nothing with them. -/
def Step.makings (operands : List Expression) : List Step :=
  (operands.filter (!·.isPlain)).map fun operand => ⟨.take, [operand], none⟩

theorem Step.makings_of_isPlain {operands : List Expression}
    (plain : ∀ operand ∈ operands, operand.isPlain = true) : makings operands = [] := by
  rw [makings, List.filter_eq_nil_iff.2, List.map_nil]
  intro operand member
  rw [plain operand member]
  decide

namespace Session

variable {one other session : Session}

/-! ### Steps -/

/-- A step does the same in two sessions that differ in their logs at most. -/
theorem contents_run (same : one.contents = other.contents) (step : Step) :
    (one.run step).1.contents = (other.run step).1.contents ∧
      (step.action.readsLog = false → (one.run step).2 = (other.run step).2) := by
  have evaluate : other.holdings.evaluateItems other.store step.operands =
      one.holdings.evaluateItems one.store step.operands := by
    obtain ⟨log, listed, mentioned, rfl⟩ := exists_relog same
    rfl
  unfold run
  rw [evaluate]
  cases one.holdings.evaluateItems one.store step.operands with
  | none => exact ⟨same, fun _ => rfl⟩
  | some result =>
    obtain ⟨store, operands⟩ := result
    have parallel := parallel_perform (contents_withStore same store) step.action operands
    dsimp only
    -- all that matters of the action is that it did the same in both
    generalize (one.withStore store).perform step.action operands = performed at parallel ⊢
    generalize (other.withStore store).perform step.action operands = performed' at parallel ⊢
    obtain ⟨session, outcome, remains⟩ := performed
    obtain ⟨session', outcome', remains'⟩ := performed'
    obtain ⟨after, rfl | ⟨reads, answer, answer', rfl, rfl⟩, rfl, -⟩ := parallel
    · cases outcome with
      | error refusal => exact ⟨after, fun _ => rfl⟩
      | ok outcome =>
        obtain ⟨answer, result⟩ := outcome
        refine ⟨?_, fun _ => rfl⟩
        dsimp only
        split
        · exact contents_hold after _ _
        · exact after
    · -- only what was logged makes a difference, and of that nothing is held
      refine ⟨?_, fun other => absurd reads (Bool.eq_false_iff.1 other)⟩
      dsimp only
      split
      · next result => cases result
      · exact after

/-- So do steps in turn. -/
theorem contents_runSteps (same : one.contents = other.contents) (steps : List Step) :
    (one.runSteps steps).contents = (other.runSteps steps).contents := by
  induction steps generalizing one other with
  | nil => exact same
  | cons step rest ih => exact ih (contents_run same step).1

/-! ### What is left of a refused step -/

/-- The operand of a step is made, as the step would. -/
theorem run_take {operand : Expression} {store : Store} {value : Value}
    (found : session.holdings.evaluate session.store operand = some (store, value)) :
    (session.run ⟨.take, [operand], none⟩).1 = session.withStore store := by
  let step : Step := ⟨.take, [operand], none⟩
  have evaluated : session.holdings.evaluateItems session.store step.operands =
      some (store, [value]) := by
    simp only [step, Holdings.evaluateItems, found, Option.bind_eq_bind, Option.bind_some]
    rfl
  exact (run_of_some evaluated).1

/-- Making the values of expressions changes the store as their evaluation does. -/
theorem runSteps_makings {operands : List Expression} {store : Store} {values : List Value}
    (found : session.holdings.evaluateItems session.store operands = some (store, values)) :
    session.runSteps (Step.makings operands) = session.withStore store := by
  induction operands generalizing session values with
  | nil =>
    cases found
    rfl
  | cons operand rest ih =>
    simp only [Holdings.evaluateItems, Option.bind_eq_bind, Option.bind_eq_some_iff] at found
    obtain ⟨⟨next, value⟩, evaluated, ⟨last, others⟩, evaluated', made⟩ := found
    cases made
    have later := @ih (session.withStore next) others evaluated'
    unfold Step.makings at later ⊢
    cases plain : operand.isPlain with
    | true =>
      -- no step stands for this operand, and the store stays as it is
      obtain rfl : next = session.store := Holdings.evaluate_of_isPlain plain evaluated
      rw [List.filter_cons_of_neg (by simp [plain])]
      exact later
    | false =>
      rw [List.filter_cons_of_pos (by simp [plain]), List.map_cons]
      show (session.run _).1.runSteps _ = _
      rw [run_take evaluated]
      exact later

/-- Whether a step is refused.  One that loads a document is not counted. -/
def refuses (session : Session) (step : Step) : Bool :=
  !step.action.isLoad && !(session.run step).2.outcome.isOk

/-- What takes the place of a step that is refused: the values of its operands are made, if
they can be. -/
def remainder (session : Session) (step : Step) : List Step :=
  match session.holdings.evaluateItems session.store step.operands with
  | none => []
  | some _ => Step.makings step.operands

theorem remainder_of_isPlain {step : Step}
    (plain : ∀ operand ∈ step.operands, operand.isPlain = true) :
    session.remainder step = [] := by
  unfold remainder
  split
  · rfl
  · exact Step.makings_of_isPlain plain

/-- **A refused step** has changed nothing but the log, and the store by what its operands
have made. -/
theorem contents_run_of_refuses {step : Step} (refused : session.refuses step = true) :
    (session.run step).1.contents = (session.runSteps (session.remainder step)).contents := by
  simp only [refuses, Bool.and_eq_true, Bool.not_eq_true'] at refused
  unfold remainder
  cases evaluated : session.holdings.evaluateItems session.store step.operands with
  | none =>
    rw [run_of_none evaluated]
    rfl
  | some result =>
    obtain ⟨store, operands⟩ := result
    dsimp only
    rw [runSteps_makings evaluated]
    obtain ⟨after, outcome⟩ := run_of_some evaluated
    have parallel := parallel_perform (rfl : (session.withStore store).contents = _) step.action
      operands
    rw [outcome] at refused
    rw [after]
    cases performed : ((session.withStore store).perform step.action operands).outcome with
    | error refusal => exact parallel.refused refused.1 refusal performed
    | ok outcome =>
      rw [performed] at refused
      cases refused.2

/-! ### Runs without refused steps -/

/-- Steps without those that are refused. -/
def withoutRefused (session : Session) : List Step → List Step
  | [] => []
  | step :: rest =>
      (if session.refuses step then session.remainder step else [step]) ++
        (session.run step).1.withoutRefused rest

theorem withoutRefused_append (session : Session) (front rest : List Step) :
    session.withoutRefused (front ++ rest) =
      session.withoutRefused front ++ (session.runSteps front).withoutRefused rest := by
  induction front generalizing session with
  | nil => rfl
  | cons step front ih =>
    rw [List.cons_append, withoutRefused, withoutRefused, ih, List.append_assoc]
    rfl

/-- **Runs**: without the refused steps, all is as it would have been, but the log. -/
theorem contents_runSteps_withoutRefused (session : Session) (steps : List Step) :
    (session.runSteps (session.withoutRefused steps)).contents =
      (session.runSteps steps).contents := by
  induction steps generalizing session with
  | nil => rfl
  | cons step rest ih =>
    rw [withoutRefused, runSteps_append]
    -- the later steps are chosen by the run with the refused ones, and done in the other
    have first : (session.runSteps
        (if session.refuses step then session.remainder step else [step])).contents =
          (session.run step).1.contents := by
      split
      · next refused => exact (contents_run_of_refuses refused).symm
      · rfl
    exact (contents_runSteps first _).trans (ih _)

/-- What is held stays as it was. -/
theorem holdings_run_of_refuses {step : Step} (refused : session.refuses step = true) :
    (session.run step).1.holdings = session.holdings := by
  have same := congrArg Contents.holdings (contents_run_of_refuses refused)
  refine same.trans ?_
  unfold remainder
  cases evaluated : session.holdings.evaluateItems session.store step.operands with
  | none => rfl
  | some result =>
    dsimp only
    rw [runSteps_makings evaluated]
    rfl

/-- **The main theorem**: steps that are refused can be left out of any run.  The session
is as it would have been, and so is the reply to every other step, which is done at a time
when the session is as it would have been; only the log is different, and what is listed
of it.  What is held does not change by a refused step, be it a catalog, a registry, an
instance or a slot.  Nothing takes its place if its operands are plain. -/
theorem runSteps_withoutRefused (session : Session) (steps : List Step) :
    (session.runSteps (session.withoutRefused steps)).contents =
        (session.runSteps steps).contents ∧
      ∀ front step rest, steps = front ++ step :: rest →
        let there := session.runSteps front
        let here := session.runSteps (session.withoutRefused front)
        let others := (there.run step).1.withoutRefused rest
        (there.refuses step = true →
          session.withoutRefused steps =
              session.withoutRefused front ++ (there.remainder step ++ others) ∧
            (there.run step).1.holdings = there.holdings ∧
            ((∀ operand ∈ step.operands, operand.isPlain = true) →
              there.remainder step = [] ∧ (there.run step).1.contents = there.contents)) ∧
        (there.refuses step = false →
          session.withoutRefused steps = session.withoutRefused front ++ step :: others ∧
            (here.run step).1.contents = (there.run step).1.contents ∧
            (step.action.readsLog = false → (here.run step).2 = (there.run step).2)) := by
  refine ⟨contents_runSteps_withoutRefused session steps, ?_⟩
  rintro front step rest rfl there here others
  rw [withoutRefused_append, withoutRefused]
  refine ⟨fun refused => ⟨?_, holdings_run_of_refuses refused, fun plain => ?_⟩,
    fun accepted => ⟨?_, contents_run (contents_runSteps_withoutRefused session front) step⟩⟩
  · rw [if_pos refused]
  · have nothing : there.remainder step = [] := remainder_of_isPlain plain
    have same := contents_run_of_refuses refused
    rw [nothing] at same
    exact ⟨nothing, same⟩
  · rw [if_neg (Bool.eq_false_iff.1 accepted)]
    rfl

/-- A definition whose base is missing, and a write of the wrong kind, whose operand is made
nevertheless. -/
theorem runSteps_withoutRefused_slot :
    let front : List Step :=
      [⟨.newCatalog {}, [], some "k"⟩, ⟨.defineType "k" "T" (.single .boolean), [], some "T"⟩,
        ⟨.defineInterface "k" "P" (.declared []) (some "T"), [], some "P"⟩,
        ⟨.newSlot "T", [.boolean true], some "s"⟩, ⟨.setSlot "s" none, [.array []], none⟩]
    let kept : List Step :=
      [⟨.newCatalog {}, [], some "k"⟩, ⟨.defineType "k" "T" (.single .boolean), [], some "T"⟩,
        ⟨.newSlot "T", [.boolean true], some "s"⟩, ⟨.take, [.array []], none⟩]
    let step : Step := ⟨.getSlot "s" "value", [], none⟩
    (start 0).withoutRefused front = kept ∧
      ((start 0).runSteps front).refuses step = false ∧
      ((start 0).withoutRefused (front ++ [step])) = kept ++ [step] ∧
      (((start 0).runSteps kept).run step).2 = (((start 0).runSteps front).run step).2 := by
  intro front kept step
  have left : (start 0).withoutRefused front = kept := by
    unfold front
    -- the third step and the last are refused
    rw [withoutRefused, if_neg, withoutRefused, if_neg, withoutRefused, if_pos, withoutRefused,
      if_neg, withoutRefused, if_pos]
    · rfl
    all_goals decide +kernel
  have accepted : ((start 0).runSteps front).refuses step = false := by
    decide +kernel
  obtain ⟨-, steps⟩ := runSteps_withoutRefused (start 0) (front ++ [step])
  obtain ⟨all, -, reply⟩ := (steps front step [] rfl).2 accepted
  rw [left] at all reply
  exact ⟨left, accepted, all, reply rfl⟩

end Session

end Contracts
