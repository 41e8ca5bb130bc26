import Contracts.Proofs.Heap.Paths
import Contracts.Proofs.Session.Handles

/-!
# Who wrote what is in a shared record

The record of an instance that is made on trust is that of its seed, and so there may be
anything in it.  What the instance itself writes is checked, though.  An entry that the
interface would refuse is therefore never one that the instance has written: it was in the
seed, it was written through the name of the record, or an instance of an interface with
other fields wrote it.

## Main definitions

* `Interface.IsBrokenBy` — an entry is of an undeclared field, or not of its kind.
* `Route`, `Write` — the way on which an entry was assigned, and the assignment.
* `Session.writes` — what steps write, and through what.
* `Session.Shares` — a step makes an instance that shares its seed.

## Main results

* `Session.write_eq_some_inst` — what is written through an instance was accepted by it.
* `Session.accepted_of_mem_writes` — so it is in a run.
* `Session.get?_record_runSteps` — an entry is as it was written last, or else as it was.
* `Session.brokenEntry_writtenElsewhere` — **entries that break the interface come from
  elsewhere.**
-/

namespace Contracts

/-! ### Entries that an interface refuses -/

namespace Interface

variable {interface other : Interface} {key : String} {value : Value}

/-- An entry breaks an interface if its field is not declared, or the value is not of the
kind of the field. -/
def IsBrokenBy (interface : Interface) (key : String) (value : Value) : Prop :=
  interface.shape.declares key = false ∨
    ∃ kind, interface.shape.kindOf key = some kind ∧ kind.accepts value = false

/-- These are the entries that may not be written. -/
theorem isBrokenBy_iff : interface.IsBrokenBy key value ↔ interface.check key value ≠ .ok () := by
  rw [ne_eq, check_eq_ok, IsBrokenBy]
  simp only [not_and_or, Bool.not_eq_true, not_forall, exists_prop]

/-- Only the fields count, and not the name of the interface. -/
theorem check_eq_ok_congr (same : other.shape = interface.shape) :
    other.check key value = .ok () ↔ interface.check key value = .ok () := by
  rw [check_eq_ok, check_eq_ok, same]

end Interface

/-- A key is bad for an instance if the entry under it breaks the interface. -/
def Instance.IsBad (inst : Instance) (store : Store) (key : String) : Prop :=
  ∃ value, (store.record inst.record).get? key = some value ∧
    inst.interface.IsBrokenBy key value

/-- A record is exported with all its keys. -/
theorem Store.keys_toJson {store : Store} {id : RecordId} (made : store.HasRecord id) :
    ∃ members, store.toJson (.record id) = .object members ∧
      members.map Prod.fst = (store.record id).keys := by
  rw [toJson, unfold, unfoldWithin, dif_pos ⟨made, Opened.contains_none _⟩, Tree.toJson,
    Tree.toJsonMembers_eq_map]
  refine ⟨_, rfl, ?_⟩
  rw [List.map_map, List.map_map]
  rfl

/-! ### Writes -/

/-- The way on which an entry of a record is assigned. -/
inductive Route where
  /-- Through the name of the record. -/
  | name : Route
  /-- Through the name of the record, by a function that was called. -/
  | call : Route
  /-- Through an instance that is bound to the record. -/
  | inst (inst : Instance) : Route
  deriving DecidableEq, Repr

/-- An assignment, and through what it was made. -/
structure Write where
  /-- What was assigned. -/
  assignment : Assignment
  /-- Through what. -/
  route : Route

/-- The last of some writes to an entry of a record. -/
def Write.last? (id : RecordId) (key : String) (writes : List Write) : Option Write :=
  writes.reverse.find? (·.assignment.concerns id key)

theorem Write.map_value_last? (id : RecordId) (key : String) (writes : List Write) :
    (last? id key writes).map (·.assignment.value) =
      Assignment.last? id key (writes.map Write.assignment) := by
  rw [last?, Assignment.last?, ← List.map_reverse, List.find?_map, Option.map_map]
  rfl

theorem Write.mem_of_last? {id : RecordId} {key : String} {writes : List Write} {write : Write}
    (last : last? id key writes = some write) :
    write ∈ writes ∧ write.assignment.record = id ∧ write.assignment.key = key := by
  have concerned := List.find?_some last
  simp only [Assignment.concerns, Bool.and_eq_true, beq_iff_eq] at concerned
  exact ⟨List.mem_reverse.1 (List.mem_of_find?_eq_some last), concerned⟩

namespace Session

variable {session : Session} {step : Step} {inst : Instance}

/-- Through what an action assigns entries of records, if it is one that does. -/
def route? (session : Session) : Action → Option Route
  | .insertEntry _ | .removeEntry _ => some .name
  | .call | .apply _ | .applyToValue _ => some .call
  | .setField on _ => (session.holdings.inst? on).map .inst
  | _ => none

/-- What a step writes, if it does. -/
def write (session : Session) (step : Step) : Option Write :=
  (session.assignment step).bind fun assignment =>
    (session.route? step.action).map fun route => ⟨assignment, route⟩

/-- What steps write in turn. -/
def writes (session : Session) : List Step → List Write
  | [] => []
  | step :: rest => (session.write step).toList ++ (session.run step).1.writes rest

/-- An action that assigns an entry does so through something. -/
theorem isSome_route? {action : Action} {operands : List Value} {assignment : Assignment}
    (assigns : session.actionAssigns action operands = some assignment) :
    (session.route? action).isSome = true := by
  cases action with
  | insertEntry | removeEntry | call | apply | applyToValue => rfl
  | setField on key =>
    obtain ⟨inst, held, _⟩ := Option.bind_eq_some_iff.1 assigns
    rw [route?, held]
    rfl
  | _ => cases assigns

/-- So no assignment is left out. -/
theorem map_assignment_write (session : Session) (step : Step) :
    (session.write step).map Write.assignment = session.assignment step := by
  unfold write
  cases assigned : session.assignment step with
  | none => rfl
  | some assignment =>
    obtain ⟨evaluated, _, assigns⟩ := Option.bind_eq_some_iff.1 assigned
    obtain ⟨route, through⟩ := Option.isSome_iff_exists.1 (isSome_route? assigns)
    have through' : session.route? step.action = some route := through
    rw [Option.bind_some, through']
    rfl

theorem map_assignment_writes (session : Session) (steps : List Step) :
    (session.writes steps).map Write.assignment = session.assignments steps := by
  induction steps generalizing session with
  | nil => rfl
  | cons step rest ih =>
    rw [writes, List.map_append, ih, assignments, ← map_assignment_write, Option.toList_map]

/-- What is assigned through an instance is assigned by a write of a field of it. -/
theorem route?_eq_some_inst {action : Action} :
    session.route? action = some (.inst inst) ↔
      ∃ on key, action = .setField on key ∧ session.holdings.inst? on = some inst := by
  constructor
  · intro through
    cases action with
    | setField on key =>
      obtain ⟨_, held, same⟩ := Option.map_eq_some_iff.1 through
      cases same
      exact ⟨on, key, rfl, held⟩
    | _ => cases through
  · rintro ⟨on, key, rfl, held⟩
    rw [route?, held]
    rfl

theorem fieldAssigns_eq_some {key : String} {operands : List Value} {assignment : Assignment} :
    fieldAssigns inst key operands = some assignment ↔
      ∃ value, operands = [value] ∧ inst.interface.check key value = .ok () ∧
        assignment = ⟨inst.record, key, some value⟩ := by
  constructor
  · intro assigns
    unfold fieldAssigns at assigns
    split at assigns
    · next value =>
      split at assigns
      · next accepted =>
        cases assigns
        exact ⟨value, rfl, accepted, rfl⟩
      · cases assigns
    · cases assigns
  · rintro ⟨value, rfl, accepted, rfl⟩
    rw [fieldAssigns, accepted]

/-- **What is written through an instance** is what was accepted of writes of its fields. -/
theorem write_eq_some_inst {assignment : Assignment} :
    session.write step = some ⟨assignment, .inst inst⟩ ↔
      ∃ key value, session.acceptedWrite inst step = some (key, value) ∧
        assignment = ⟨inst.record, key, some value⟩ := by
  constructor
  · intro written
    obtain ⟨assigned, assigns, paired⟩ := Option.bind_eq_some_iff.1 written
    obtain ⟨route, through, same⟩ := Option.map_eq_some_iff.1 paired
    cases same
    obtain ⟨on, key, action, held⟩ := route?_eq_some_inst.1 through
    obtain ⟨⟨store, operands⟩, evaluated, performed⟩ := Option.bind_eq_some_iff.1 assigns
    rw [action] at performed
    obtain ⟨_, held', wrote⟩ := Option.bind_eq_some_iff.1 performed
    cases held.symm.trans held'
    obtain ⟨value, rfl, accepted, rfl⟩ := fieldAssigns_eq_some.1 wrote
    exact ⟨key, value, acceptedWrite_eq_some.2 ⟨on, store, action, held, evaluated, accepted⟩, rfl⟩
  · rintro ⟨key, value, accepted, rfl⟩
    obtain ⟨on, store, action, held, evaluated, checked⟩ := acceptedWrite_eq_some.1 accepted
    have through : session.route? step.action = some (.inst inst) :=
      route?_eq_some_inst.2 ⟨on, key, action, held⟩
    have assigns : session.assignment step = some ⟨inst.record, key, some value⟩ := by
      rw [assignment, evaluated, action]
      show ((session.holdings.inst? on).bind fun inst => fieldAssigns inst key [value]) = _
      rw [held]
      exact fieldAssigns_eq_some.2 ⟨value, rfl, checked, rfl⟩
    rw [write, assigns, through]
    rfl

/-- So it is in a run: only what an instance accepts is written through it. -/
theorem accepted_of_mem_writes {steps : List Step} {write : Write}
    (member : write ∈ session.writes steps) (through : write.route = .inst inst) :
    write.assignment.record = inst.record ∧
      ∃ value, write.assignment.value = some value ∧
        inst.interface.check write.assignment.key value = .ok () := by
  induction steps generalizing session with
  | nil => cases member
  | cons step rest ih =>
    rcases List.mem_append.1 member with now | later
    · obtain ⟨assignment, route⟩ := write
      cases through
      obtain ⟨key, value, accepted, rfl⟩ := write_eq_some_inst.1 (Option.mem_toList.1 now)
      obtain ⟨_, _, _, _, _, checked⟩ := acceptedWrite_eq_some.1 accepted
      exact ⟨rfl, value, rfl, checked⟩
    · exact ih later

/-! ### Entries and their last writes -/

variable {id : RecordId}

/-- **Each entry is as it was written last**, or else as it was. -/
theorem get?_record_runSteps (made : session.store.HasRecord id) (steps : List Step)
    (key : String) :
    ((session.runSteps steps).store.record id).get? key =
      match Write.last? id key (session.writes steps) with
      | none => (session.store.record id).get? key
      | some write => write.assignment.value := by
  rw [(becomes_runSteps made steps).2, Assignment.get?_foldl_on, ← map_assignment_writes,
    ← Write.map_value_last?]
  cases Write.last? id key (session.writes steps) <;> rfl

/-- An entry that breaks an interface, and that was written, was not written through an
instance of an interface with the same fields. -/
theorem shape_ne_of_isBrokenBy {steps : List Step} {interface : Interface} {key : String}
    {value : Value} {write : Write}
    (last : Write.last? id key (session.writes steps) = some write)
    (present : write.assignment.value = some value) (broken : interface.IsBrokenBy key value)
    (through : write.route = .inst inst) : inst.interface.shape ≠ interface.shape := by
  intro same
  obtain ⟨member, -, concerned⟩ := Write.mem_of_last? last
  obtain ⟨-, written, assigned, accepted⟩ := accepted_of_mem_writes member through
  cases present.symm.trans assigned
  rw [concerned, Interface.check_eq_ok_congr same] at accepted
  exact Interface.isBrokenBy_iff.1 broken accepted

/-- While a record is written through one instance only, no key becomes bad for it. -/
theorem isBad_of_onlyWriter (made : session.store.HasRecord inst.record) {steps : List Step}
    (only : ∀ write ∈ session.writes steps, write.assignment.record = inst.record →
      write.route = .inst inst) {key : String}
    (bad : inst.IsBad (session.runSteps steps).store key) : inst.IsBad session.store key := by
  obtain ⟨value, present, broken⟩ := bad
  rw [get?_record_runSteps made] at present
  cases last : Write.last? inst.record key (session.writes steps) with
  | none =>
    rw [last] at present
    exact ⟨value, present, broken⟩
  | some write =>
    rw [last] at present
    obtain ⟨member, record, -⟩ := Write.mem_of_last? last
    exact absurd rfl (shape_ne_of_isBrokenBy last present broken (only write member record))

/-! ### Sharing a seed -/

/-- A step makes an instance on trust, which shares its seed. -/
inductive Shares (session : Session) (step : Step) : Interface → Instance → RecordId → Prop
  /-- It is made from the seed. -/
  | intro {on : String} {interface : Interface} {store : Store} {seed : RecordId} {world : World}
      {inst : Instance} (action : step.action = .constructWith on)
      (held : session.holdings.interface? on = some interface)
      (trusts : interface.seeds = .trust)
      (evaluated : session.holdings.evaluateItems session.store step.operands =
        some (store, [.record seed]))
      (made : (session.withStore store).world.constructWith interface seed = .ok (world, inst)) :
      Shares session step interface inst seed

variable {interface : Interface} {seed : RecordId} {key : String}

/-- What is made can be held, and has the interface as it was and the seed for its record. -/
theorem Shares.shared (shares : session.Shares step interface inst seed)
    (h : session.Keeps fun _ => False) :
    inst.interface = interface ∧ inst.record = seed ∧
      (∀ name, step.into = some name → (session.run step).1.holdings.inst? name = some inst) ∧
      (session.run step).1.store.HasRecord seed := by
  obtain @⟨on, _, store, _, world, _, action, held, trusts, evaluated, made⟩ := shares
  obtain ⟨same, ⟨validates, -⟩ | ⟨-, -, record⟩⟩ := World.constructWith_eq_ok made
  · cases trusts.symm.trans validates
  refine ⟨same, record, fun name into => ?_, ?_⟩
  · have outcome : ((session.withStore store).perform step.action [.record seed]).outcome =
        .ok (.inst interface (((session.withStore store).withWorld world).entries inst.record),
          some (.inst inst)) := by
      rw [action]
      show ((session.withStore store).withHeld (session.holdings.interface? on) _).outcome = _
      rw [held]
      simp only [withHeld, performOnInterface, made]
      rfl
    rw [Holdings.inst?, (run_of_outcome evaluated outcome).2 name _ into rfl]
  · have visible := (Value.within_record seed).1
      ((respects_operands h evaluated).2 _ List.mem_cons_self)
    rw [store_run evaluated, action]
    exact ((session.withStore store).becomes_perform (.constructWith on) _ seed visible.1).1

/-! ### What a shared record shows of undeclared fields -/

/-- A step reads or writes a field through an instance. -/
inductive Accesses (session : Session) (inst : Instance) (key : String) (step : Step) :
    Access → Prop
  /-- It reads it. -/
  | read {on : String} {store : Store} (action : step.action = .getField on key)
      (held : session.holdings.inst? on = some inst)
      (evaluated : session.holdings.evaluateItems session.store step.operands = some (store, [])) :
      Accesses session inst key step .read
  /-- It writes it. -/
  | write {on : String} {store : Store} {value : Value} (action : step.action = .setField on key)
      (held : session.holdings.inst? on = some inst)
      (evaluated : session.holdings.evaluateItems session.store step.operands =
        some (store, [value])) :
      Accesses session inst key step .write

/-- Whoever tries to read or write an undeclared field is refused, and changes no record. -/
theorem Accesses.refused {access : Access} (accesses : session.Accesses inst key step access)
    (undeclared : inst.interface.shape.declares key = false) :
    (session.run step).2.outcome =
        .error (.violation (.undeclaredField inst.interface.name key access)) ∧
      session.assignment step = none := by
  cases accesses with
  | @read on store action held evaluated =>
    constructor
    · rw [(run_of_some evaluated).2, action]
      show (((session.withStore store).withHeld (session.holdings.inst? on) _).outcome).map _ = _
      rw [held]
      simp only [withHeld, performOnInstance, World.getField, undeclared]
      rfl
    · rw [assignment, evaluated, action]
      rfl
  | @write on store value action held evaluated =>
    have checked := Interface.check_of_not_declares undeclared value
    constructor
    · rcases run_setField_eq action held evaluated with ⟨accepted, -⟩ | ⟨_, refused, outcome, -⟩
      · cases checked.symm.trans accepted
      · cases checked.symm.trans refused
        exact outcome
    · rw [assignment, evaluated, action]
      show ((session.holdings.inst? on).bind fun inst => fieldAssigns inst key [value]) = none
      rw [held, Option.bind_some, fieldAssigns, checked]

/-- An instance shows all keys of its record, and exports them. -/
theorem instanceInfo_keys {on : String} {store : Store}
    (there : session.store.HasRecord inst.record) (action : step.action = .instanceInfo on)
    (held : session.holdings.inst? on = some inst)
    (evaluated : session.holdings.evaluateItems session.store step.operands = some (store, [])) :
    ∃ entries members,
      (session.run step).2.outcome =
          .ok (.instanceInfo inst.interface entries (Json.object members).print) ∧
        entries.map Prod.fst = (session.store.record inst.record).keys ∧
        members.map Prod.fst = (session.store.record inst.record).keys := by
  have shown := (outcome_of_reads there (.inst action held rfl evaluated)).1
  obtain ⟨there', same⟩ := Holdings.becomes_evaluateItems evaluated _ there
  obtain ⟨members, exported, keys⟩ := Store.keys_toJson there'
  rw [exported] at shown
  refine ⟨_, members, shown, ?_, keys.trans (congrArg Dict.keys same)⟩
  rw [List.map_map]
  rfl

/-! ### The whole of it -/

/-- **The main theorem**: an instance that shares its seed on trust never adds what its
interface would refuse.  At any time, an entry that breaks the interface was in the seed, or
it was written last through the name of the record or through an instance of an interface
with other fields; an undeclared field is neither read nor written through the instance, which
lists and exports it all the same; and while only the instance writes to the record, no
further key becomes bad. -/
theorem brokenEntry_writtenElsewhere {series : Nat} {earlier : List Step}
    (shares : ((start series).runSteps earlier).Shares step interface inst seed)
    (later : List Step) :
    let made := (((start series).runSteps earlier).run step).1
    let session := made.runSteps later
    (inst.interface = interface ∧ inst.record = seed ∧
        ∀ name, step.into = some name → made.holdings.inst? name = some inst) ∧
      (∀ key value, (session.store.record seed).get? key = some value →
        interface.IsBrokenBy key value →
        match Write.last? seed key (made.writes later) with
        | none => (made.store.record seed).get? key = some value
        | some write =>
            write.assignment.value = some value ∧ write.route ≠ .inst inst ∧
              (write.route = .name ∨ write.route = .call ∨
                ∃ other, write.route = .inst other ∧ other.record = seed ∧
                  other.interface.shape ≠ interface.shape)) ∧
      (∀ key access step, interface.shape.declares key = false →
        session.Accesses inst key step access →
        (session.run step).2.outcome =
            .error (.violation (.undeclaredField interface.name key access)) ∧
          ∀ id, session.store.HasRecord id →
            (session.run step).1.store.record id = session.store.record id) ∧
      (∀ on step store, step.action = .instanceInfo on →
        session.holdings.inst? on = some inst →
        session.holdings.evaluateItems session.store step.operands = some (store, []) →
        ∃ entries members,
          (session.run step).2.outcome =
              .ok (.instanceInfo interface entries (Json.object members).print) ∧
            entries.map Prod.fst = (session.store.record seed).keys ∧
            members.map Prod.fst = (session.store.record seed).keys) ∧
      ∀ stretch,
        (∀ write ∈ session.writes stretch, write.assignment.record = seed →
          write.route = .inst inst) →
        ∀ key, inst.IsBad (session.runSteps stretch).store key → inst.IsBad session.store key := by
  intro made session
  have clear : ((start series).runSteps earlier).Keeps fun _ => False :=
    keeps_runSteps_of_none (keeps_start series) earlier
  obtain ⟨rfl, rfl, named, there⟩ := shares.shared clear
  have there' : session.store.HasRecord inst.record := (becomes_runSteps there later).1
  refine ⟨⟨rfl, rfl, named⟩, fun key value present broken => ?_,
    fun key access step undeclared accesses => ?_,
    fun on step store action held evaluated => instanceInfo_keys there' action held evaluated,
    fun stretch only key bad => isBad_of_onlyWriter there' only bad⟩
  · rw [get?_record_runSteps there] at present
    cases last : Write.last? inst.record key (made.writes later) with
    | none =>
      rw [last] at present
      exact present
    | some write =>
      rw [last] at present
      have other : ∀ writer, write.route = .inst writer →
          writer.interface.shape ≠ inst.interface.shape :=
        fun writer => shape_ne_of_isBrokenBy last present broken
      refine ⟨present, fun through => other inst through rfl, ?_⟩
      cases through : write.route with
      | name => exact .inl rfl
      | call => exact .inr (.inl rfl)
      | inst writer =>
        obtain ⟨member, record, -⟩ := Write.mem_of_last? last
        obtain ⟨same, -⟩ := accepted_of_mem_writes member through
        exact .inr (.inr ⟨writer, rfl, same.symm.trans record, other writer through⟩)
  · obtain ⟨refused, nothing⟩ := accesses.refused undeclared
    refine ⟨refused, fun id made => ?_⟩
    rw [(session.becomes_run step id made).2, nothing]
    rfl

/-- A seed with an entry that the interface does not declare, and another instance that
writes an entry of a kind that it does not take. -/
theorem brokenEntry_writtenElsewhere_mixed :
    let inst : Instance :=
      ⟨⟨0⟩, ⟨"P", .ofList [("a", some (.single .string))], .trust⟩, ⟨0⟩⟩
    let earlier : List Step :=
      [⟨.newCatalog ⟨.trust, .replace⟩, [], some "k"⟩,
        ⟨.defineInterface "k" "P" (.declared [("a", some (.single .string))]) none, [], some "P"⟩,
        ⟨.defineInterface "k" "Q" (.declared [("a", some (.single .boolean))]) none, [], some "Q"⟩,
        ⟨.take, [.record [("a", .null), ("z", .boolean true)]], some "s"⟩]
    let step : Step := ⟨.constructWith "P", [.held "s"], some "p"⟩
    let later : List Step :=
      [⟨.constructWith "Q", [.held "s"], some "q"⟩, ⟨.setField "q" "a", [.boolean true], none⟩,
        ⟨.setField "p" "z", [.string "x"], none⟩]
    let read : Step := ⟨.getField "p" "z", [], none⟩
    let repair : Step := ⟨.setField "p" "a", [.string "x"], none⟩
    let made := (((start 0).runSteps earlier).run step).1
    let session := made.runSteps later
    ((start 0).runSteps earlier).Shares step inst.interface inst ⟨0⟩ ∧
      ((session.store.record ⟨0⟩).get? "a").map Value.category = some .boolean ∧
      ((made.store.record ⟨0⟩).get? "z").map Value.category = some .boolean ∧
      (∃ write, Write.last? ⟨0⟩ "a" (made.writes later) = some write ∧
        write.route ≠ .inst inst) ∧
      (session.run read).2.outcome = .error (.violation (.undeclaredField "P" "z" .read)) ∧
      ¬ inst.IsBad (session.runSteps [repair]).store "b" := by
  intro inst earlier step later read repair
  dsimp only
  have shares : ((start 0).runSteps earlier).Shares step inst.interface inst ⟨0⟩ :=
    @Shares.intro _ step "P" inst.interface ((start 0).runSteps earlier).store ⟨0⟩ _ inst
      rfl rfl rfl rfl rfl
  have held : ((((start 0).runSteps earlier).run step).1.runSteps later).holdings.inst? "p" =
      some inst := by decide +kernel
  obtain ⟨-, elsewhere, refused, -, stretches⟩ := brokenEntry_writtenElsewhere shares later
  refine ⟨shares, ?_, ?_, ?_, ?_, ?_⟩
  · decide +kernel
  · decide +kernel
  · -- the seed has no truth value under the key, and so it must have been written
    have wrong : ((((((start 0).runSteps earlier).run step).1.runSteps later).store.record
        ⟨0⟩).get? "a").map Value.category = some .boolean := by decide +kernel
    have initial : (((((start 0).runSteps earlier).run step).1.store.record
        ⟨0⟩).get? "a").map Value.category = some .object := by decide +kernel
    obtain ⟨value, present, sort⟩ := Option.map_eq_some_iff.1 wrong
    have refuses : (Kind.single .string).accepts value = false := by
      rw [Kind.accepts, Tag.fits, sort]
      rfl
    have written := elsewhere "a" value present (.inr ⟨_, by decide, refuses⟩)
    split at written
    · rw [written, Option.map_some, sort] at initial
      cases initial
    · next write last => exact ⟨write, last, written.2.1⟩
  · exact (refused "z" .read read (by decide) (.read rfl held rfl)).1
  · -- only the instance itself writes in this stretch
    have accepted : ((((start 0).runSteps earlier).run step).1.runSteps later).acceptedWrite inst
        repair = some ("a", .string "x") :=
      acceptedWrite_eq_some.2 ⟨"p", _, rfl, held, rfl, rfl⟩
    have written := write_eq_some_inst.2 ⟨_, _, accepted, rfl⟩
    have only : ∀ write ∈ ((((start 0).runSteps earlier).run step).1.runSteps later).writes
        [repair], write.assignment.record = ⟨0⟩ → write.route = .inst inst := by
      intro write member _
      rw [writes, written, writes, List.append_nil] at member
      cases List.mem_singleton.1 member
      rfl
    have absent : (((((((start 0).runSteps earlier).run step).1.runSteps later).store.record
        ⟨0⟩).get? "b").isNone) = true := by decide +kernel
    intro bad
    obtain ⟨value, present, -⟩ := stretches [repair] only "b" bad
    cases (Option.isNone_iff_eq_none.1 absent).symm.trans present

end Session

end Contracts
