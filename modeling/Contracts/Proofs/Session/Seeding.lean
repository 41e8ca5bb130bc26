import Contracts.Proofs.Session.OwnRecord

/-!
# Seeds and single writes

A validated seed is checked as a whole and then copied.  The same record can be built the
long way, by making an instance without a seed and writing to it the entries of the seed,
by ascending key.  Whether an entry may be written does not depend on what was written
before, and so both ways accept the same seeds, give the same reason for refusing one, and
end with the same record.

## Main definitions

* `World.setFields` — write several fields in turn, and note what comes of each write.
* `Violation.first?` — what the first write was refused for that was not accepted.
* `Interface.AcceptsSeed` — a validated seed with certain entries is accepted.

## Main results

* `World.setFields_outcomes`, `World.record_setFields` — what writing several fields comes to.
* `Interface.map_recordOf_constructWith` — what making an instance from a validated seed
  comes to.
* `World.constructWith_eq_setFields` — **a validated seed is as good as its writes.**
-/

namespace Contracts

/-! ### Writing several fields -/

namespace Violation

/-- What a write was refused for, if it was. -/
def of? : Except Violation Unit → Option Violation
  | .ok () => none
  | .error violation => some violation

/-- What the first write was refused for that was not accepted. -/
def first? (outcomes : List (Except Violation Unit)) : Option Violation := outcomes.findSome? of?

theorem first?_eq_none {outcomes : List (Except Violation Unit)} :
    first? outcomes = none ↔ ∀ outcome ∈ outcomes, outcome = .ok () := by
  rw [first?, List.findSome?_eq_none_iff]
  refine forall₂_congr fun outcome _ => ?_
  cases outcome with
  | ok => exact ⟨fun _ => rfl, fun _ => rfl⟩
  | error violation => exact ⟨fun wrong => (nomatch wrong), fun wrong => (nomatch wrong)⟩

end Violation

namespace World

/-- Write fields of an instance in turn, whether or not the writes are accepted. -/
def setFields (world : World) (inst : Instance) :
    List (String × Value) → World × List (Except Violation Unit)
  | [] => (world, [])
  | (field, value) :: rest =>
      let (next, outcome) := world.setField inst field value
      let (last, outcomes) := next.setFields inst rest
      (last, outcome :: outcomes)

/-- What comes of a write is what the check says. -/
theorem setField_outcome (world : World) (inst : Instance) (field : String) (value : Value) :
    (world.setField inst field value).2 = inst.interface.check field value := by
  rcases world.setField_eq inst field value with ⟨_, checked, outcome, _⟩ | ⟨checked, outcome, _⟩
  · rw [outcome, checked]
  · rw [outcome, checked]

/-- So what comes of several writes does not depend on their order, nor on the record. -/
theorem setFields_outcomes (world : World) (inst : Instance) (writes : List (String × Value)) :
    (world.setFields inst writes).2 =
      writes.map fun write => inst.interface.check write.1 write.2 := by
  induction writes generalizing world with
  | nil => rfl
  | cons write rest ih =>
    obtain ⟨field, value⟩ := write
    rw [setFields, List.map_cons, ← setField_outcome world, ← ih]

/-- A write changes no other record, and makes and loses none. -/
theorem store_setField {world : World} {inst : Instance}
    (made : world.store.HasRecord inst.record) (field : String) (value : Value) :
    (world.setField inst field value).1.store.HasRecord inst.record ∧
      ∀ other, other ≠ inst.record →
        (world.setField inst field value).1.store.record other = world.store.record other := by
  rcases world.setField_eq inst field value with ⟨_, _, _, store⟩ | ⟨_, _, store⟩
  · rw [store]
    exact ⟨made, fun _ _ => rfl⟩
  · rw [store]
    refine ⟨(Store.hasRecord_setRecord ..).2 made, fun other different => ?_⟩
    rw [Store.record_insert made, if_neg different]

theorem record_setFields_of_ne {world : World} {inst : Instance}
    (made : world.store.HasRecord inst.record) (writes : List (String × Value))
    {other : RecordId} (different : other ≠ inst.record) :
    (world.setFields inst writes).1.store.record other = world.store.record other := by
  induction writes generalizing world with
  | nil => rfl
  | cons write rest ih =>
    obtain ⟨field, value⟩ := write
    obtain ⟨made', kept⟩ := store_setField made field value
    exact (ih made').trans (kept other different)

/-- Writes that are all accepted are all in the record, one over the other. -/
theorem record_setFields {world : World} {inst : Instance}
    (made : world.store.HasRecord inst.record) {writes : List (String × Value)}
    (accepted : ∀ write ∈ writes, inst.interface.check write.1 write.2 = .ok ()) :
    (world.setFields inst writes).1.store.record inst.record =
      writes.foldl (fun dict write => dict.insert write.1 write.2)
        (world.store.record inst.record) := by
  induction writes generalizing world with
  | nil => rfl
  | cons write rest ih =>
    obtain ⟨field, value⟩ := write
    rw [List.forall_mem_cons] at accepted
    have first : (world.setField inst field value).1.store.record inst.record =
        (world.store.record inst.record).insert field value := by
      rcases world.setField_eq inst field value with ⟨_, refused, _⟩ | ⟨_, _, store⟩
      · rw [accepted.1] at refused
        cases refused
      · rw [store, Store.record_insert made, if_pos rfl]
    rw [List.foldl_cons, ← first]
    exact ih (store_setField made field value).1 accepted.2

end World

/-! ### Validated seeds -/

/-- The record of an instance, in the world in which it was made. -/
def World.recordOf (made : World × Instance) : Dict Value := made.1.store.record made.2.record

namespace Interface

variable {interface : Interface}

/-- A seed is refused for the first of its entries that may not be written. -/
theorem of?_checkEntries (listed : List (String × Value)) :
    Violation.of? (interface.checkEntries listed) =
      Violation.first? (listed.map fun entry => interface.check entry.1 entry.2) := by
  induction listed with
  | nil => rfl
  | cons entry rest ih =>
    obtain ⟨field, value⟩ := entry
    rw [checkEntries, List.map_cons, Violation.first?, List.findSome?_cons]
    cases interface.check field value with
    | error violation => rfl
    | ok _ => exact ih

/-- What comes of a validated seed: the reason for which it is refused, or an instance with
a record of the same entries. -/
theorem map_recordOf_constructWith (validates : interface.seeds = .validate) (world : World)
    (seed : RecordId) :
    (world.constructWith interface seed).map World.recordOf =
      match Violation.first? ((world.store.record seed).entries.map fun entry =>
          interface.check entry.1 entry.2) with
      | some violation => .error violation
      | none => .ok (world.store.record seed) := by
  rw [World.constructWith, validates, ← of?_checkEntries]
  dsimp only
  cases interface.checkEntries (world.store.record seed).entries with
  | error violation => rfl
  | ok _ =>
    exact congrArg Except.ok (world.store.record_newRecord_self (world.store.record seed))

theorem constructWith_eq_error (validates : interface.seeds = .validate) {world : World}
    {seed : RecordId} {violation : Violation} :
    world.constructWith interface seed = .error violation ↔
      Violation.first? ((world.store.record seed).entries.map fun entry =>
        interface.check entry.1 entry.2) = some violation := by
  have outcome := interface.map_recordOf_constructWith validates world seed
  cases made : world.constructWith interface seed <;> rw [made] at outcome <;>
    split at outcome
  · next violation' first =>
    cases outcome
    rw [first, Except.error.injEq, Option.some.injEq]
  · cases outcome
  · cases outcome
  · next none =>
    rw [none]
    exact ⟨fun wrong => (nomatch wrong), fun wrong => (nomatch wrong)⟩

theorem exists_constructWith (validates : interface.seeds = .validate) {world : World}
    {seed : RecordId} :
    (∃ made, world.constructWith interface seed = .ok made) ↔
      Violation.first? ((world.store.record seed).entries.map fun entry =>
        interface.check entry.1 entry.2) = none := by
  cases made : world.constructWith interface seed with
  | error violation =>
    rw [(constructWith_eq_error validates).1 made]
    exact ⟨fun ⟨_, wrong⟩ => (nomatch wrong), fun wrong => (nomatch wrong)⟩
  | ok made' =>
    refine ⟨fun _ => ?_, fun _ => ⟨made', rfl⟩⟩
    refine Option.eq_none_iff_forall_ne_some.2 fun violation found => ?_
    rw [(constructWith_eq_error validates).2 found] at made
    cases made

theorem recordOf_constructWith (validates : interface.seeds = .validate) {world : World}
    {seed : RecordId} {made : World × Instance}
    (h : world.constructWith interface seed = .ok made) :
    World.recordOf made = world.store.record seed := by
  have outcome := interface.map_recordOf_constructWith validates world seed
  rw [(exists_constructWith validates).1 ⟨made, h⟩, h] at outcome
  exact Except.ok.inj outcome

/-- The seed has no part in what is written to the instance. -/
theorem record_seed_setFields (validates : interface.seeds = .validate) {world next : World}
    {seed : RecordId} {inst : Instance} (there : world.store.HasRecord seed)
    (h : world.constructWith interface seed = .ok (next, inst)) (writes : List (String × Value)) :
    (next.setFields inst writes).1.store.record seed = world.store.record seed := by
  obtain ⟨_, ⟨_, _, store, record⟩ | ⟨trusts, _, _⟩⟩ := World.constructWith_eq_ok h
  · have new : next.store.HasRecord inst.record := by
      rw [store, record]
      exact Store.hasRecord_newRecord ..
    -- the seed was there before the record of the instance
    have different : seed ≠ inst.record := by
      rintro rfl
      rw [record] at there
      exact Store.not_hasRecord_newRecord _ _ there
    rw [World.record_setFields_of_ne new writes different, store,
      Store.record_newRecord_of_hasRecord _ _ there]
  · rw [validates] at trusts
    cases trusts

/-- A validated seed with certain entries is accepted, wherever it is. -/
def AcceptsSeed (interface : Interface) (entries : Dict Value) : Prop :=
  ∀ (world : World) (seed : RecordId), world.store.record seed = entries →
    ∃ made, world.constructWith interface seed = .ok made

theorem exists_constructWith_iff_admits (validates : interface.seeds = .validate)
    {world : World} {seed : RecordId} :
    (∃ made, world.constructWith interface seed = .ok made) ↔
      interface.Admits (world.store.record seed) := by
  rw [exists_constructWith validates, Violation.first?_eq_none, List.forall_mem_map,
    ← checkEntries_entries_eq_ok, checkEntries_eq_ok]

/-- There is a seed with any entries. -/
theorem acceptsSeed_iff (validates : interface.seeds = .validate) {entries : Dict Value} :
    interface.AcceptsSeed entries ↔ interface.Admits entries := by
  constructor
  · intro accepts
    have seeded := Store.empty.record_newRecord_self entries
    let world : World := { World.empty with store := (Store.empty.newRecord entries).1 }
    have admitted := (exists_constructWith_iff_admits validates).1 (accepts world _ seeded)
    exact seeded ▸ admitted
  · rintro admitted world seed rfl
    exact (exists_constructWith_iff_admits validates).2 admitted

/-- Entries are admitted if each of them is by itself. -/
theorem admits_iff_forall_ofList {entries : Dict Value} :
    interface.Admits entries ↔ ∀ entry ∈ entries.entries, interface.Admits (.ofList [entry]) := by
  have alone : ∀ entry : String × Value, interface.Admits (.ofList [entry]) ↔
      interface.check entry.1 entry.2 = .ok () := by
    intro entry
    rw [← checkEntries_entries_eq_ok, checkEntries_eq_ok]
    exact List.forall_mem_singleton
  simp only [alone]
  rw [← checkEntries_entries_eq_ok, checkEntries_eq_ok]

end Interface

/-! ### The two ways -/

namespace World

variable {interface : Interface}

/-- An instance without a seed, and the writes of all entries of a seed. -/
theorem setFields_construct (world : World) (interface : Interface) {seed : RecordId}
    (there : world.store.HasRecord seed) :
    let made := world.construct interface
    let entries := world.store.record seed
    let written := made.1.setFields made.2 entries.entries
    written.2 = entries.entries.map (fun entry => interface.check entry.1 entry.2) ∧
      written.1.store.record seed = entries ∧
      ((∀ outcome ∈ written.2, outcome = .ok ()) →
        written.1.store.record made.2.record = entries) := by
  intro made entries written
  have outcomes : written.2 = entries.entries.map fun entry =>
      interface.check entry.1 entry.2 := made.1.setFields_outcomes made.2 entries.entries
  have new : made.1.store.HasRecord made.2.record := world.store.hasRecord_newRecord .empty
  -- the seed was there before the record of the instance
  have different : seed ≠ made.2.record := fun same =>
    world.store.not_hasRecord_newRecord .empty (show world.store.HasRecord made.2.record from
      same ▸ there)
  refine ⟨outcomes, ?_, fun accepted => ?_⟩
  · have kept := world.store.record_newRecord_of_hasRecord .empty there
    exact (record_setFields_of_ne new entries.entries different).trans kept
  · rw [outcomes, List.forall_mem_map] at accepted
    have first := world.store.record_newRecord_self .empty
    have built := record_setFields new accepted
    rw [show made.1.store.record made.2.record = .empty from first] at built
    exact built.trans entries.ofList_entries

end World

namespace Session

variable {step : Step} {interface : Interface} {inst : Instance} {entries : Dict Value}

/-- What is in the record of an instance with a record of its own is admitted at any time. -/
theorem admits_runSteps {series : Nat} {earlier : List Step}
    (founds : ((start series).runSteps earlier).Founds step interface inst entries)
    (later : List Step) :
    interface.Admits (((((start series).runSteps earlier).run step).1.runSteps
      later).store.record inst.record) := by
  obtain ⟨rfl, admitted, keeps, initial⟩ :=
    founds.keeps (keeps_runSteps_of_none (keeps_start series) earlier)
  obtain ⟨_, written, checked⟩ := keeps_runSteps keeps later
  rw [written, initial]
  exact admits_foldl_insert checked admitted

end Session

/-- **The main theorem**: making an instance from a validated seed and writing the entries
of the seed to an instance without one, by ascending key, have the same outcome.  The seed
is accepted if all the writes are, and then the two records are equal; it is refused for
what the first refused write is refused for.  In either way the seed stays as it is, also
when the instance is written to later.  So nothing but the entries counts, and each of them
by itself; and what is at any time in the record of an instance with a record of its own
is accepted as a seed, and copied. -/
theorem World.constructWith_eq_setFields {interface : Interface}
    (validates : interface.seeds = .validate) :
    (∀ (world : World) (seed : RecordId), world.store.HasRecord seed →
      let entries := world.store.record seed
      let outcome := world.constructWith interface seed
      let made := world.construct interface
      let written := made.1.setFields made.2 entries.entries
      ((∃ result, outcome = .ok result) ↔ ∀ write ∈ written.2, write = .ok ()) ∧
        (∀ violation, outcome = .error violation ↔
          Violation.first? written.2 = some violation) ∧
        (∀ next inst, outcome = .ok (next, inst) →
          next.store.record inst.record = written.1.store.record made.2.record ∧
            next.store.record inst.record = entries ∧
            ∀ writes, (next.setFields inst writes).1.store.record seed = entries) ∧
        written.1.store.record seed = entries ∧
        (∀ (other : World) (seed' : RecordId), other.store.record seed' = entries →
          (other.constructWith interface seed').map recordOf = outcome.map recordOf) ∧
        ((∃ result, outcome = .ok result) ↔
          ∀ entry ∈ entries.entries, interface.AcceptsSeed (.ofList [entry]))) ∧
      ∀ series earlier step inst entries,
        ((Session.start series).runSteps earlier).Founds step interface inst entries →
        ∀ later,
          let snapshot := ((((Session.start series).runSteps earlier).run step).1.runSteps
            later).store.record inst.record
          ∀ (world : World) (seed : RecordId), world.store.record seed = snapshot →
            ∃ made, world.constructWith interface seed = .ok made ∧ recordOf made = snapshot := by
  constructor
  · intro world seed there entries outcome made written
    obtain ⟨outcomes, kept, built⟩ := world.setFields_construct interface there
    have first : Violation.first? written.2 =
        Violation.first? (entries.entries.map fun entry => interface.check entry.1 entry.2) :=
      congrArg _ outcomes
    have accepted : (∃ result, outcome = .ok result) ↔ ∀ write ∈ written.2, write = .ok () := by
      rw [← Violation.first?_eq_none, first]
      exact Interface.exists_constructWith validates
    refine ⟨accepted, fun violation => ?_, fun next inst made' => ?_, kept,
      fun other seed' same => ?_, ?_⟩
    · rw [first]
      exact Interface.constructWith_eq_error validates
    · have copied := Interface.recordOf_constructWith validates made'
      refine ⟨?_, copied, fun writes => ?_⟩
      · exact copied.trans (built (accepted.1 ⟨_, made'⟩)).symm
      · exact Interface.record_seed_setFields validates there made' writes
    · rw [Interface.map_recordOf_constructWith validates, same,
        Interface.map_recordOf_constructWith validates]
    · rw [Interface.exists_constructWith_iff_admits validates,
        Interface.admits_iff_forall_ofList]
      simp only [Interface.acceptsSeed_iff validates]
      rfl
  · intro series earlier step inst entries founds later snapshot world seed same
    have admitted := Session.admits_runSteps founds later
    obtain ⟨made, accepted⟩ := (Interface.acceptsSeed_iff validates).2 admitted world seed same
    exact ⟨made, accepted, (Interface.recordOf_constructWith validates accepted).trans same⟩

/-- A seed of which the second entry is of the wrong kind and the third is not declared, and
an instance whose entries are those of another record. -/
theorem World.constructWith_eq_setFields_mismatch :
    let interface : Interface :=
      ⟨"P", .ofList [("a", some (.single .string)), ("b", some (.single .number))], .validate⟩
    let seed := Store.empty.newRecord
      (.ofList [("c", .null), ("b", .boolean true), ("a", .string "x")])
    let world : World := ⟨seed.1, #[], 0⟩
    let inst : Instance := ⟨⟨0⟩, interface, ⟨0⟩⟩
    let earlier : List Step :=
      [⟨.newCatalog {}, [], some "k"⟩,
        ⟨.defineInterface "k" "P"
          (.declared [("a", some (.single .string)), ("b", some (.single .number))]) none, [],
          some "P"⟩]
    let step : Step := ⟨.construct "P", [], some "p"⟩
    let later : List Step :=
      [⟨.setField "p" "a", [.string "y"], none⟩, ⟨.take, [.record [("a", .string "y")]], none⟩]
    let session := (((Session.start 0).runSteps earlier).run step).1.runSteps later
    interface.seeds = .validate ∧ world.store.HasRecord seed.2 ∧
      world.constructWith interface seed.2 =
        .error (.wrongKind (some "b") (.single .number) .boolean) ∧
      ((Session.start 0).runSteps earlier).Founds step interface inst .empty ∧
      ∃ made, session.world.constructWith interface ⟨1⟩ = .ok made ∧
        recordOf made = session.store.record inst.record := by
  intro interface seed world inst earlier step later session
  have there : world.store.HasRecord seed.2 := Store.hasRecord_newRecord ..
  have founds : ((Session.start 0).runSteps earlier).Founds step interface inst .empty :=
    @Session.Founds.construct _ step "P" interface ((Session.start 0).runSteps earlier).store
      rfl rfl rfl
  obtain ⟨seeds, snapshots⟩ :=
    constructWith_eq_setFields (show interface.seeds = .validate from rfl)
  obtain ⟨_, refused, _⟩ := seeds world seed.2 there
  exact ⟨rfl, there, (refused _).2 rfl, founds,
    snapshots 0 earlier step inst .empty founds later session.world ⟨1⟩ rfl⟩

end Contracts
