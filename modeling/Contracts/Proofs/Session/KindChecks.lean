import Contracts.Proofs.Definition.Kind
import Contracts.Proofs.Session.Handles
import Contracts.Proofs.Session.Lasting

/-!
# Checks of kinds in sessions

A session answers whether a value is of a kind from the value alone.  So for a record or an
array that it holds the answer is the same at all times, whatever is done to the container in
the meantime and through whichever name, and it is the same under all names of the container.

## Main results

* `Session.outcome_accepts` — what a session answers.
* `Session.accepts_iff_tag_mem` — **the main theorem**: kinds are checked by the tag of a value,
  before and after anything that is done.
-/

namespace Contracts.Session

variable {session : Session} {step : Step} {kind : Kind} {value : Value} {store : Store}
  {name : String}

/-- A session answers whether the kind names the tag of the value. -/
theorem outcome_accepts (action : step.action = .accepts kind)
    (evaluated : session.holdings.evaluateItems session.store step.operands =
      some (store, [value])) :
    (session.run step).2.outcome =
      .ok (.truth (value.tag?.any fun tag => decide (tag ∈ kind.tags))) := by
  have outcome : ((session.withStore store).perform step.action [value]).outcome =
      .ok (.truth (kind.accepts value), none) := by
    rw [action]
    rfl
  rw [(run_of_outcome evaluated outcome).1, Kind.accepts_eq]

/-- So it does of a value that it has held for some time. -/
theorem outcome_accepts_held (held : session.holdings.get? name = some (.value value))
    {later : List Step} (unnamed : ∀ step ∈ later, step.into ≠ some name) (kind : Kind)
    (into : Option String) :
    ((session.runSteps later).run ⟨.accepts kind, [.held name], into⟩).2.outcome =
      .ok (.truth (value.tag?.any fun tag => decide (tag ∈ kind.tags))) := by
  have still : (session.runSteps later).holdings.get? name = some (.value value) :=
    get?_runSteps held trivial unnamed
  exact outcome_accepts rfl (evaluateItems_held (Holdings.value?_eq_some.2 still))

/-- **The main theorem**: a value is of a kind exactly if it has a tag and the kind names it.
Nothing else about a list of tags makes a difference, and no matter what is done in a session,
the answer is the same before and afterwards under every name under which the value is held. -/
theorem accepts_iff_tag_mem (series : Nat) (earlier : List Step) :
    Kind.ChecksTag Value.tag? ∧ Kind.UnionLaws ∧
      let session := (start series).runSteps earlier
      let answer (kind : Kind) (value : Value) : Except Refusal Answer :=
        .ok (.truth (value.tag?.any fun tag => decide (tag ∈ kind.tags)))
      (∀ step kind store value, step.action = .accepts kind →
          session.holdings.evaluateItems session.store step.operands = some (store, [value]) →
          (session.run step).2.outcome = answer kind value) ∧
        ∀ name value later, session.holdings.get? name = some (.value value) →
          (∀ step ∈ later, step.into ≠ some name) → ∀ kind into,
            (session.run ⟨.accepts kind, [.held name], into⟩).2.outcome = answer kind value ∧
              ((session.runSteps later).run ⟨.accepts kind, [.held name], into⟩).2.outcome =
                answer kind value := by
  refine ⟨Kind.checksTag, Kind.unionLaws, fun step kind store value => outcome_accepts, ?_⟩
  intro name value later held unnamed kind into
  have nothing : ∀ step ∈ ([] : List Step), step.into ≠ some name := fun _ member => nomatch member
  exact ⟨outcome_accepts_held held nothing kind into, outcome_accepts_held held unnamed kind into⟩

/-- A record that is changed under two names: it is an object before and after, for a kind that
names a tag twice and one that is unknown. -/
theorem accepts_iff_tag_mem_record :
    let earlier : List Step :=
      [⟨.newRecord, [], some "a"⟩, ⟨.take, [.held "a"], some "b"⟩]
    let later : List Step :=
      [⟨.insertEntry "x", [.held "b", .held "a"], none⟩, ⟨.removeEntry "x", [.held "a"], none⟩]
    let kind : Kind := .anyOf [.object, .unknown "date", .object]
    let session := (start 0).runSteps earlier
    session.holdings.get? "a" = some (.value (.record ⟨0⟩)) ∧
      (∀ step ∈ later, step.into ≠ some "a") ∧
      (session.run ⟨.accepts kind, [.held "a"], none⟩).2.outcome = .ok (.truth true) ∧
      ((session.runSteps later).run ⟨.accepts kind, [.held "a"], none⟩).2.outcome =
        .ok (.truth true) := by
  intro earlier later kind session
  have held : session.holdings.get? "a" = some (.value (.record ⟨0⟩)) := rfl
  have unnamed : ∀ step ∈ later, step.into ≠ some "a" := by
    intro step member
    simp only [later, List.mem_cons, List.not_mem_nil, or_false] at member
    rcases member with rfl | rfl <;> exact nofun
  obtain ⟨-, -, -, lasting⟩ := accepts_iff_tag_mem 0 earlier
  exact ⟨held, unnamed, lasting "a" _ later held unnamed kind none⟩

end Contracts.Session
