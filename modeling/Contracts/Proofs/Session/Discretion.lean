import Contracts.Proofs.Session.Handles
import Contracts.Proofs.Session.Lasting

/-!
# What is said of values

Guards and frozen views tell of a value that they are given no more than of which kinds it
is.  Let two runs make the same calls, on instances of the same interfaces and types and with
the same names of fields, and let the values that are supplied at one place be of the same
kinds, however they differ otherwise.  Then the calls succeed alike, or fail with the same
codes, and what is logged is the same but for the identities of instances.

A trusted seed is the record of its instance from then on, and more than one instance may have
it.  So the runs are kept together by which records were bound to instances at the same
place: of two that were always bound together, the entries stay of the same kinds.

## Main definitions

* `Value.Akin`, `Dict.Akin` — values of the same kinds, and entries with such values.
* `Tied` — records that were bound to instances together, and never apart.
* `Store.Twins`, `Holdings.Twins`, `Session.Twins` — what the two runs have in common.
* `SameCall`, `Session.SameCalls` — the same calls, with values that may differ.
* `Event.Twins` — events that are spelled alike.

## Main results

* `Session.twins_perform`, `Session.twins_run` — **one call** keeps the two sessions together.
* `Session.says_same_of_sameCalls` — **replies and logs tell of values only their kinds.**
-/

namespace Contracts

/-! ### Values of the same kinds -/

/-- Values that are of the same kinds. -/
def Value.Akin (value value' : Value) : Prop :=
  ∀ kind : Kind, kind.accepts value = kind.accepts value'

/-- It is enough to try the tags that values have. -/
theorem Value.akin_of_known {value value' : Value}
    (h : ∀ tag ∈ Tag.known, tag.fits value = tag.fits value') : value.Akin value' := by
  have fits : ∀ tag : Tag, tag.fits value = tag.fits value' := by
    intro tag
    cases tag with
    | unknown spelling => rfl
    | _ => exact h _ (by decide)
  intro kind
  cases kind with
  | single tag => exact fits tag
  | anyOf tags => simp only [Kind.accepts, fits]

/-- Entries with the same keys, and with values of the same kinds. -/
structure Dict.Akin (entries entries' : Dict Value) : Prop where
  /-- The keys are the same. -/
  keys : entries.keys = entries'.keys
  /-- The values of a key are of the same kinds. -/
  values : ∀ key value value', entries.get? key = some value → entries'.get? key = some value' →
    value.Akin value'

theorem Dict.Akin.empty : Dict.Akin .empty .empty := ⟨rfl, fun _ _ _ found => nomatch found⟩

theorem Dict.Akin.insert {entries entries' : Dict Value} (h : entries.Akin entries') (key : String)
    {value value' : Value} (akin : value.Akin value') :
    (entries.insert key value).Akin (entries'.insert key value') where
  keys := by
    refine Dict.keys_eq_of_contains fun other => ?_
    have before : entries.contains other = entries'.contains other := by
      rw [Bool.eq_iff_iff, ← Dict.mem_keys, ← Dict.mem_keys, h.keys]
    rw [Dict.contains_insert, Dict.contains_insert, before]
  values other found found' bound bound' := by
    rw [Dict.get?_insert] at bound bound'
    split at bound
    · next same =>
      rw [if_pos same] at bound'
      cases bound
      cases bound'
      exact akin
    · next different =>
      rw [if_neg different] at bound'
      exact h.values other found found' bound bound'

/-! ### Checks -/

/-- Two checks that a value passes or fails alike. -/
inductive SameCheck : Except Violation Unit → Except Violation Unit → Prop
  /-- Both are passed. -/
  | passed : SameCheck (.ok ()) (.ok ())
  /-- Both are failed, with one code. -/
  | failed {violation violation' : Violation} :
      violation.code = violation'.code → SameCheck (.error violation) (.error violation')

theorem SameCheck.refl (outcome : Except Violation Unit) : SameCheck outcome outcome := by
  cases outcome with
  | ok _ => exact .passed
  | error violation => exact .failed rfl

/-- A field is checked by kinds only. -/
theorem Interface.sameCheck_check (interface : Interface) (field : String) {value value' : Value}
    (akin : value.Akin value') :
    SameCheck (interface.check field value) (interface.check field value') := by
  unfold check
  split
  · split
    · next kind _ =>
      rw [akin kind]
      split
      · exact .passed
      · exact .failed rfl
    · exact .passed
  · exact .failed rfl

/-- So is a seed: the first of its entries that may not be written is at the same key. -/
theorem Interface.sameCheck_checkEntries (interface : Interface)
    {listed listed' : List (String × Value)} (keys : listed.map Prod.fst = listed'.map Prod.fst)
    (akin : ∀ key value value', (key, value) ∈ listed → (key, value') ∈ listed' →
      value.Akin value') :
    SameCheck (interface.checkEntries listed) (interface.checkEntries listed') := by
  induction listed generalizing listed' with
  | nil =>
    cases listed' with
    | nil => exact .passed
    | cons entry' rest' => cases keys
  | cons entry rest ih =>
    cases listed' with
    | nil => cases keys
    | cons entry' rest' =>
      obtain ⟨key, value⟩ := entry
      obtain ⟨key', value'⟩ := entry'
      obtain ⟨rfl, behind⟩ := List.cons.inj keys
      have here := interface.sameCheck_check key
        (akin key value value' List.mem_cons_self List.mem_cons_self)
      have later := ih behind fun key value value' member member' =>
        akin key value value' (List.mem_cons_of_mem _ member) (List.mem_cons_of_mem _ member')
      unfold checkEntries
      generalize interface.check key value = check at here ⊢
      generalize interface.check key value' = check' at here ⊢
      cases here with
      | passed => exact later
      | failed code => exact .failed code

theorem Interface.sameCheck_entries (interface : Interface) {entries entries' : Dict Value}
    (akin : entries.Akin entries') :
    SameCheck (interface.checkEntries entries.entries)
      (interface.checkEntries entries'.entries) :=
  interface.sameCheck_checkEntries akin.keys fun key value value' member member' =>
    akin.values key value value' (Dict.mem_entries.1 member) (Dict.mem_entries.1 member')

/-- So is what a slot is given. -/
theorem SlotType.sameCheck_check (type : SlotType) {value value' : Value}
    (akin : value.Akin value') : SameCheck (type.check value) (type.check value') := by
  unfold check
  rw [akin type.kind]
  split
  · exact .passed
  · exact .failed rfl

theorem SlotType.sameCheck_permits (type : SlotType) (key : Option String) {value value' : Value}
    (akin : value.Akin value') :
    SameCheck (type.permits key value) (type.permits key value') := by
  cases key with
  | none => exact type.sameCheck_check akin
  | some field =>
    by_cases named : field = Slot.accessor
    · rw [permits_of_named (.inr (congrArg some named)),
        permits_of_named (.inr (congrArg some named))]
      exact type.sameCheck_check akin
    · rw [permits_of_ne named, permits_of_ne named]
      exact .failed rfl

/-! ### Records of instances -/

/-- Records that were bound to instances at the same place, and neither of them ever without
the other.  `bound` are the records of the instances that both runs have made. -/
structure Tied (bound : List (RecordId × RecordId)) (id id' : RecordId) : Prop where
  /-- They were bound at the same place. -/
  together : (id, id') ∈ bound
  /-- They were not bound to others. -/
  only : ∀ pair ∈ bound, pair.1 = id ↔ pair.2 = id'

namespace Store

/-- Two stores in which the records of instances have akin entries, if they are tied. -/
structure Twins (bound : List (RecordId × RecordId)) (store store' : Store) : Prop where
  /-- The records were made. -/
  made : ∀ pair ∈ bound, store.HasRecord pair.1 ∧ store'.HasRecord pair.2
  /-- Their entries are akin. -/
  akin : ∀ id id', Tied bound id id' → (store.record id).Akin (store'.record id')

namespace Twins

variable {bound : List (RecordId × RecordId)} {store store' next next' : Store}
  {id id' : RecordId}

/-- No records are bound. -/
theorem nil (store store' : Store) : Twins [] store store' where
  made _ member := absurd member List.not_mem_nil
  akin _ _ tied := absurd tied.together List.not_mem_nil

/-- What is made besides changes nothing. -/
theorem extend (h : Twins bound store store') (grown : Becomes none store next)
    (grown' : Becomes none store' next') : Twins bound next next' where
  made pair member :=
    ⟨(grown _ (h.made pair member).1).1, (grown' _ (h.made pair member).2).1⟩
  akin id id' tied := by
    obtain ⟨made, made'⟩ := h.made _ tied.together
    rw [(grown id made).2, (grown' id' made').2]
    exact h.akin id id' tied

/-- A value is written on both sides.  What is tied is the record that is written, on both
sides, or it is neither. -/
theorem insert (h : Twins bound store store') (member : (id, id') ∈ bound) (key : String)
    {value value' : Value} (akin : value.Akin value') :
    Twins bound (store.insert id key value) (store'.insert id' key value') where
  made pair member :=
    ⟨(hasRecord_setRecord ..).2 (h.made pair member).1,
      (hasRecord_setRecord ..).2 (h.made pair member).2⟩
  akin other other' tied := by
    have before := h.akin other other' tied
    have both : id = other ↔ id' = other' := tied.only _ member
    rw [record_insert (h.made _ member).1, record_insert (h.made _ member).2]
    by_cases same : other = id
    · have same' := (both.1 same.symm).symm
      rw [if_pos same, if_pos same', ← same, ← same']
      exact before.insert key akin
    · rw [if_neg same, if_neg fun same' => same (both.2 same'.symm).symm]
      exact before

/-- Records are bound that are tied already or akin. -/
theorem bind (h : Twins bound store store') (made : store.HasRecord id)
    (made' : store'.HasRecord id')
    (akin : Tied bound id id' ∨ (store.record id).Akin (store'.record id')) :
    Twins ((id, id') :: bound) store store' where
  made := List.forall_mem_cons.2 ⟨⟨made, made'⟩, h.made⟩
  akin other other' tied := by
    -- to bind more can only part records, so that what is tied now was tied before
    have before : ∀ pair ∈ bound, pair.1 = other ↔ pair.2 = other' := fun pair member =>
      tied.only pair (List.mem_cons_of_mem _ member)
    rcases List.mem_cons.1 tied.together with same | member
    · cases same
      exact akin.elim (h.akin id id') fun akin => akin
    · exact h.akin other other' ⟨member, before⟩

/-- New records are bound. -/
theorem newRecord (h : Twins bound store store') {entries entries' : Dict Value}
    (akin : entries.Akin entries') :
    Twins (((store.newRecord entries).2, (store'.newRecord entries').2) :: bound)
      (store.newRecord entries).1 (store'.newRecord entries').1 := by
  have grown := h.extend (becomes_newRecord store entries) (becomes_newRecord store' entries')
  refine grown.bind (hasRecord_newRecord ..) (hasRecord_newRecord ..) (.inr ?_)
  rw [record_newRecord, if_pos rfl, record_newRecord, if_pos rfl]
  exact akin

end Twins

end Store

/-! ### What is held -/

/-- Identities that instances got in the same turn, of two runs before which so many instances
had been made. -/
def SameTurn (earlier earlier' : Nat) (id id' : InstanceId) : Prop :=
  id.index + earlier' = id'.index + earlier

theorem SameTurn.next {earlier earlier' made made' : Nat}
    (h : SameTurn earlier earlier' ⟨made⟩ ⟨made'⟩) :
    SameTurn earlier earlier' ⟨made + 1⟩ ⟨made' + 1⟩ := by
  simp only [SameTurn] at h ⊢
  omega

section

variable (bound : List (RecordId × RecordId)) (earlier earlier' : Nat)

/-- Instances of one interface that were made in the same turn, and were bound to their records
at the same place. -/
structure Instance.Twins (inst inst' : Instance) : Prop where
  /-- They have the same interface. -/
  interface : inst.interface = inst'.interface
  /-- They were made in the same turn. -/
  turn : SameTurn earlier earlier' inst.id inst'.id
  /-- Their records were bound together. -/
  together : (inst.record, inst'.record) ∈ bound

/-- Slots of one type that were made in the same turn. -/
structure Slot.Twins (slot slot' : Slot) : Prop where
  /-- They have the same type. -/
  type : slot.type = slot'.type
  /-- They were made in the same turn. -/
  turn : SameTurn earlier earlier' slot.id slot'.id

/-- What the same calls have for results. -/
inductive Holding.Twins : Holding → Holding → Prop
  /-- Any values. -/
  | value (value value' : Value) : Holding.Twins (.value value) (.value value')
  /-- Instances. -/
  | inst {inst inst' : Instance} : inst.Twins bound earlier earlier' inst' →
      Holding.Twins (.inst inst) (.inst inst')
  /-- Slots. -/
  | slot {slot slot' : Slot} : slot.Twins earlier earlier' slot' →
      Holding.Twins (.slot slot) (.slot slot')
  /-- Any views. -/
  | view (view view' : FrozenView) : Holding.Twins (.frozen view) (.frozen view')

/-- The same calls can be made on what is held. -/
structure Holdings.Twins (holdings holdings' : Holdings) : Prop where
  /-- The same interfaces are held. -/
  interfaces : ∀ name, holdings.interface? name = holdings'.interface? name
  /-- The same types are held. -/
  types : ∀ name, holdings.type? name = holdings'.type? name
  /-- Instances are held together. -/
  insts : ∀ name, Option.Rel (Instance.Twins bound earlier earlier') (holdings.inst? name)
    (holdings'.inst? name)
  /-- So are slots. -/
  slots : ∀ name, Option.Rel (Slot.Twins earlier earlier') (holdings.slot? name)
    (holdings'.slot? name)
  /-- So are views. -/
  views : ∀ name, (holdings.frozen? name).isSome = (holdings'.frozen? name).isSome

/-- Two sessions in which the same calls can be made. -/
structure Session.Twins (one other : Session) : Prop where
  /-- The records of instances have akin entries. -/
  stores : Store.Twins bound one.store other.store
  /-- The same calls can be made on what is held. -/
  holdings : Holdings.Twins bound earlier earlier' one.holdings other.holdings
  /-- It is the same turn. -/
  turn : SameTurn earlier earlier' ⟨one.world.instances⟩ ⟨other.world.instances⟩

end

section

variable {bound bound' : List (RecordId × RecordId)} {earlier earlier' : Nat}

theorem Instance.Twins.mono (more : bound ⊆ bound') {inst inst' : Instance}
    (twins : inst.Twins bound earlier earlier' inst') :
    inst.Twins bound' earlier earlier' inst' :=
  ⟨twins.interface, twins.turn, more twins.together⟩

namespace Holdings.Twins

variable {holdings holdings' : Holdings} {thing thing' : Holding}

theorem mono (more : bound ⊆ bound') (h : holdings.Twins bound earlier earlier' holdings') :
    holdings.Twins bound' earlier earlier' holdings' where
  interfaces := h.interfaces
  types := h.types
  insts name := by
    have held := h.insts name
    generalize holdings.inst? name = inst at held ⊢
    generalize holdings'.inst? name = inst' at held ⊢
    cases held with
    | none => exact .none
    | some twins => exact .some (twins.mono more)
  slots := h.slots
  views := h.views

/-- What is held with no instances allows the same calls as itself. -/
theorem refl (nothing : ∀ name, holdings.instanceId? name = none) :
    holdings.Twins bound earlier earlier' holdings where
  interfaces _ := rfl
  types _ := rfl
  insts name := by
    cases found : holdings.inst? name with
    | none => exact .none
    | some inst =>
      have there := nothing name
      rw [Holdings.instanceId?, Holdings.inst?_eq_some.1 found] at there
      cases there
  slots name := by
    cases found : holdings.slot? name with
    | none => exact .none
    | some slot =>
      have there := nothing name
      rw [Holdings.instanceId?, Holdings.slot?_eq_some.1 found] at there
      cases there
  views _ := rfl

theorem rel_views (h : holdings.Twins bound earlier earlier' holdings') (name : String) :
    Option.Rel (fun _ _ => True) (holdings.frozen? name) (holdings'.frozen? name) := by
  have views := h.views name
  revert views
  cases holdings.frozen? name <;> cases holdings'.frozen? name <;> intro views
  · exact .none
  · cases views
  · cases views
  · exact .some trivial

/-- Results are held under the same name. -/
theorem insert (h : holdings.Twins bound earlier earlier' holdings') (name : String)
    (twins : thing.Twins bound earlier earlier' thing') :
    Holdings.Twins bound earlier earlier' (holdings.insert name thing)
      (holdings'.insert name thing') where
  interfaces other := by
    unfold Holdings.interface?
    by_cases same : other = name
    · rw [Dict.get?_insert, if_pos same, Dict.get?_insert, if_pos same]
      cases twins <;> rfl
    · rw [Dict.get?_insert, if_neg same, Dict.get?_insert, if_neg same]
      exact h.interfaces other
  types other := by
    unfold Holdings.type?
    by_cases same : other = name
    · rw [Dict.get?_insert, if_pos same, Dict.get?_insert, if_pos same]
      cases twins <;> rfl
    · rw [Dict.get?_insert, if_neg same, Dict.get?_insert, if_neg same]
      exact h.types other
  insts other := by
    unfold Holdings.inst?
    by_cases same : other = name
    · rw [Dict.get?_insert, if_pos same, Dict.get?_insert, if_pos same]
      cases twins with
      | inst twins => exact .some twins
      | _ => exact .none
    · rw [Dict.get?_insert, if_neg same, Dict.get?_insert, if_neg same]
      exact h.insts other
  slots other := by
    unfold Holdings.slot?
    by_cases same : other = name
    · rw [Dict.get?_insert, if_pos same, Dict.get?_insert, if_pos same]
      cases twins with
      | slot twins => exact .some twins
      | _ => exact .none
    · rw [Dict.get?_insert, if_neg same, Dict.get?_insert, if_neg same]
      exact h.slots other
  views other := by
    unfold Holdings.frozen?
    by_cases same : other = name
    · rw [Dict.get?_insert, if_pos same, Dict.get?_insert, if_pos same]
      cases twins <;> rfl
    · rw [Dict.get?_insert, if_neg same, Dict.get?_insert, if_neg same]
      exact h.views other

end Holdings.Twins

namespace Session.Twins

variable {one other : Session}

/-- What is made besides changes nothing. -/
theorem withStore (h : one.Twins bound earlier earlier' other) {store store' : Store}
    (stores : Store.Twins bound store store') :
    (one.withStore store).Twins bound earlier earlier' (other.withStore store') :=
  ⟨stores, h.holdings, h.turn⟩

/-- Events may differ. -/
theorem emit (h : one.Twins bound earlier earlier' other) (event event' : Event) :
    (one.withWorld (one.world.emit event)).Twins bound earlier earlier'
      (other.withWorld (other.world.emit event')) :=
  ⟨h.stores, h.holdings, h.turn⟩

theorem hold (h : one.Twins bound earlier earlier' other) (name : String)
    {thing thing' : Holding} (twins : thing.Twins bound earlier earlier' thing') :
    (one.hold name thing).Twins bound earlier earlier' (other.hold name thing') :=
  ⟨h.stores, h.holdings.insert name twins, h.turn⟩

end Session.Twins

end

/-! ### What comes of calls -/

/-- The code under which something is refused. -/
def Refusal.code? : Refusal → Option String
  | .violation cause => some cause.code
  | _ => none

/-- Whether a call succeeded, and if not, under which code it failed. -/
def Reply.ending (reply : Reply) : Except (Option String) Unit :=
  (reply.outcome.map fun _ => ()).mapError Refusal.code?

namespace Performed

/-- The record of the instance that was made. -/
def record? (performed : Performed) : Option RecordId :=
  match performed.outcome with
  | .ok (_, some (.inst inst)) => some inst.record
  | _ => none

/-- The records that two calls have bound together. -/
def bindings (one other : Performed) : List (RecordId × RecordId) :=
  one.record?.toList.zip other.record?.toList

section

variable (bound : List (RecordId × RecordId)) (earlier earlier' : Nat)

/-- Both calls succeed, with results that can be held alike, or both fail with one code. -/
inductive SameOutcome : Except Refusal (Answer × Option Holding) →
    Except Refusal (Answer × Option Holding) → Prop
  /-- Both succeed. -/
  | ok {answer answer' : Answer} {result result' : Option Holding} :
      Option.Rel (Holding.Twins bound earlier earlier') result result' →
      SameOutcome (.ok (answer, result)) (.ok (answer', result'))
  /-- Both fail. -/
  | error {refusal refusal' : Refusal} :
      refusal.code? = refusal'.code? → SameOutcome (.error refusal) (.error refusal')

/-- Two calls have ended alike. -/
structure Twins (one other : Performed) : Prop where
  /-- The same calls can be made afterwards. -/
  sessions : one.session.Twins (one.bindings other ++ bound) earlier earlier' other.session
  /-- The outcomes are the same. -/
  outcomes : SameOutcome (one.bindings other ++ bound) earlier earlier' one.outcome other.outcome

end

namespace Twins

variable {bound : List (RecordId × RecordId)} {earlier earlier' : Nat} {one other : Session}

theorem refuse (h : one.Twins bound earlier earlier' other) {violation violation' : Violation}
    (code : violation.code = violation'.code) (remains remains' : Option Remains) :
    Performed.Twins bound earlier earlier' ⟨one, .error (.violation violation), remains⟩
      ⟨other, .error (.violation violation'), remains'⟩ :=
  ⟨h, .error (congrArg some code)⟩

/-- There is no result. -/
theorem done (h : one.Twins bound earlier earlier' other) (answer answer' : Answer)
    (remains remains' : Option Remains) :
    Performed.Twins bound earlier earlier' ⟨one, .ok (answer, none), remains⟩
      ⟨other, .ok (answer', none), remains'⟩ :=
  ⟨h, .ok .none⟩

theorem yieldValue (h : one.Twins bound earlier earlier' other) (value value' : Value) :
    (one.yieldValue value).Twins bound earlier earlier' (other.yieldValue value') :=
  ⟨h, .ok (.some (.value value value'))⟩

/-- An instance is made in each session, of one interface. -/
theorem bind (h : one.Twins bound earlier earlier' other) (interface : Interface)
    {store store' : Store} {record record' : RecordId}
    (stores : Store.Twins ((record, record') :: bound) store store') (answer answer' : Answer) :
    let made := ({ one.world with store } : World).bind interface record
    let made' := ({ other.world with store := store' } : World).bind interface record'
    ((one.withWorld made.1).yield answer (.inst made.2)).Twins bound earlier earlier'
      ((other.withWorld made'.1).yield answer' (.inst made'.2)) :=
  ⟨⟨stores, h.holdings.mono (List.subset_cons_self ..), h.turn.next⟩,
    .ok (.some (.inst ⟨rfl, h.turn, List.mem_cons_self⟩))⟩

/-- A slot is made in each session, of one type. -/
theorem newSlot (h : one.Twins bound earlier earlier' other) (type : SlotType)
    (value value' : Value) (answer answer' : Answer) :
    ((one.withWorld one.world.newInstance.1).yield answer
        (.slot ⟨one.world.newInstance.2, type, value⟩)).Twins bound earlier earlier'
      ((other.withWorld other.world.newInstance.1).yield answer'
        (.slot ⟨other.world.newInstance.2, type, value'⟩)) :=
  ⟨⟨h.stores, h.holdings, h.turn.next⟩, .ok (.some (.slot ⟨rfl, h.turn⟩))⟩

/-- Nothing can be done unless something of the right sort is held. -/
theorem withHeld {α : Type} {r : α → α → Prop} {held held' : Option α}
    {next next' : α → Performed} (h : one.Twins bound earlier earlier' other)
    (same : Option.Rel r held held')
    (twins : ∀ found found', r found found' →
      (next found).Twins bound earlier earlier' (next' found')) :
    (one.withHeld held next).Twins bound earlier earlier' (other.withHeld held' next') := by
  cases same with
  | none => exact ⟨h, .error rfl⟩
  | some related => exact twins _ _ related

theorem withHeld_of_eq {α : Type} {held held' : Option α} {next next' : α → Performed}
    (h : one.Twins bound earlier earlier' other) (same : held = held')
    (twins : ∀ found, (next found).Twins bound earlier earlier' (next' found)) :
    (one.withHeld held next).Twins bound earlier earlier' (other.withHeld held' next') := by
  subst same
  cases held with
  | none => exact ⟨h, .error rfl⟩
  | some found => exact twins found

end Twins

end Performed

/-! ### Calls -/

section

variable (bound : List (RecordId × RecordId))

/-- Seeds of two calls: records of instances that are tied, or records with akin entries. -/
def SameSeed (store store' : Store) (seed seed' : RecordId) : Prop :=
  Tied bound seed seed' ∨ (store.record seed).Akin (store'.record seed')

/-- One call in two runs: the names and the keys are the same, and the values that are supplied
are of the same kinds.  A frozen view is given any values. -/
inductive SameCall (store store' : Store) : Action → List Value → List Value → Prop
  /-- Make an instance without entries. -/
  | construct (on : String) : SameCall store store' (.construct on) [] []
  /-- Make an instance from a seed. -/
  | constructWith (on : String) {seed seed' : RecordId} :
      SameSeed bound store store' seed seed' →
      SameCall store store' (.constructWith on) [.record seed] [.record seed']
  /-- Read a field. -/
  | getField (on key : String) : SameCall store store' (.getField on key) [] []
  /-- Write a field. -/
  | setField (on key : String) {value value' : Value} :
      value.Akin value' → SameCall store store' (.setField on key) [value] [value']
  /-- Make a slot. -/
  | newSlot (on : String) {value value' : Value} :
      value.Akin value' → SameCall store store' (.newSlot on) [value] [value']
  /-- Read a slot. -/
  | getSlot (on key : String) : SameCall store store' (.getSlot on key) [] []
  /-- Write a slot, under a name or without one. -/
  | setSlot (on : String) (key : Option String) {value value' : Value} :
      value.Akin value' → SameCall store store' (.setSlot on key) [value] [value']
  /-- View a record. -/
  | freeze (id id' : RecordId) : SameCall store store' .freeze [.record id] [.record id']
  /-- Try to write or to delete through a view. -/
  | changeFrozen (on : String) (change : Change) (key : String) (values values' : List Value) :
      SameCall store store' (.changeFrozen on change key) values values'

end

namespace Session

/-- Two runs that make the same calls, where `bound` are the records that were bound to
instances together before. -/
inductive SameCalls : List (RecordId × RecordId) → Session → List Step → Session → List Step → Prop
  /-- No call is made. -/
  | nil {bound : List (RecordId × RecordId)} {one other : Session} : SameCalls bound one [] other []
  /-- One call is made in both, and then the others. -/
  | cons {bound : List (RecordId × RecordId)} {one other : Session} {action : Action}
      {into : Option String} {items items' : List Expression} {store store' : Store}
      {operands operands' : List Value} {rest rest' : List Step} :
      one.holdings.evaluateItems one.store items = some (store, operands) →
      other.holdings.evaluateItems other.store items' = some (store', operands') →
      SameCall bound store store' action operands operands' →
      SameCalls (((one.withStore store).perform action operands).bindings
          ((other.withStore store').perform action operands') ++ bound)
        (one.run ⟨action, items, into⟩).1 rest (other.run ⟨action, items', into⟩).1 rest' →
      SameCalls bound one (⟨action, items, into⟩ :: rest) other (⟨action, items', into⟩ :: rest')

variable {bound : List (RecordId × RecordId)} {earlier earlier' : Nat} {one other : Session}

/-- Making an instance from a seed. -/
theorem twins_constructWith (h : one.Twins bound earlier earlier' other) (interface : Interface)
    {seed seed' : RecordId} (on : String) (same : SameSeed bound one.store other.store seed seed')
    (made : one.store.HasRecord seed) (made' : other.store.HasRecord seed') :
    (one.performOnInterface interface (.constructWith on) [.record seed]).Twins bound earlier
      earlier' (other.performOnInterface interface (.constructWith on) [.record seed']) := by
  dsimp only [performOnInterface]
  unfold World.constructWith
  cases interface.seeds with
  | trust => exact .bind h interface (h.stores.bind made made' same) _ _
  | validate =>
    -- the instances get copies, which no other instance has
    have akin : (one.world.store.record seed).Akin (other.world.store.record seed') :=
      same.elim (h.stores.akin seed seed') id
    have checked := interface.sameCheck_entries akin
    dsimp only
    generalize interface.checkEntries (one.world.store.record seed).entries = check at checked ⊢
    generalize interface.checkEntries (other.world.store.record seed').entries = check'
      at checked ⊢
    cases checked with
    | passed => exact .bind h interface (h.stores.newRecord akin) _ _
    | failed code => exact .refuse h code _ _

/-- **One call** ends alike in both sessions, which stay together. -/
theorem twins_perform (h : one.Twins bound earlier earlier' other) {action : Action}
    {operands operands' : List Value}
    (call : SameCall bound one.store other.store action operands operands')
    (made : ∀ id, .record id ∈ operands → one.store.HasRecord id)
    (made' : ∀ id, .record id ∈ operands' → other.store.HasRecord id) :
    (one.perform action operands).Twins bound earlier earlier'
      (other.perform action operands') := by
  cases call with
  | construct on =>
    refine .withHeld_of_eq h (h.holdings.interfaces on) fun interface => ?_
    exact .bind h interface (h.stores.newRecord .empty) _ _
  | @constructWith on seed seed' same =>
    refine .withHeld_of_eq h (h.holdings.interfaces on) fun interface => ?_
    exact twins_constructWith h interface on same (made seed List.mem_cons_self)
      (made' seed' List.mem_cons_self)
  | getField on key =>
    refine .withHeld h (h.holdings.insts on) fun inst inst' twins => ?_
    dsimp only [performOnInstance, World.getField]
    rw [← twins.interface]
    split
    · exact .yieldValue h _ _
    · refine .refuse (h.emit _ _) ?_ _ _
      rfl
  | @setField on key value value' akin =>
    refine .withHeld h (h.holdings.insts on) fun inst inst' twins => ?_
    have checked := inst.interface.sameCheck_check key akin
    dsimp only [performOnInstance, World.setField]
    rw [← twins.interface]
    generalize inst.interface.check key value = check at checked ⊢
    generalize inst.interface.check key value' = check' at checked ⊢
    cases checked with
    | passed => exact .done (h.withStore (h.stores.insert twins.together key akin)) _ _ _ _
    | failed code => exact .refuse (h.emit _ _) code _ _
  | @newSlot on value value' akin =>
    refine .withHeld_of_eq h (h.holdings.types on) fun type => ?_
    have checked := type.sameCheck_check akin
    dsimp only
    unfold World.constructSlot
    cases type.seeds with
    | trust => exact .newSlot h type value value' _ _
    | validate =>
      dsimp only
      generalize type.check value = check at checked ⊢
      generalize type.check value' = check' at checked ⊢
      cases checked with
      | passed => exact .newSlot h type value value' _ _
      | failed code => exact .refuse h code _ _
  | getSlot on key =>
    refine .withHeld h (h.holdings.slots on) fun slot slot' twins => ?_
    dsimp only [performOnSlot, World.getSlot]
    split
    · exact .yieldValue h _ _
    · refine .refuse (h.emit _ _) ?_ _ _
      rfl
  | @setSlot on key value value' akin =>
    refine .withHeld h (h.holdings.slots on) fun slot slot' twins => ?_
    have permitted : SameCheck (slot.type.permits key value) (slot'.type.permits key value') := by
      rw [← twins.type]
      exact slot.type.sameCheck_permits key akin
    have written : Slot.Twins earlier earlier' { slot with held := value }
        { slot' with held := value' } := ⟨twins.type, twins.turn⟩
    rw [performOnSlot_setSlot, performOnSlot_setSlot]
    generalize slot.type.permits key value = permit at permitted ⊢
    generalize slot'.type.permits key value' = permit' at permitted ⊢
    cases permitted with
    | passed => exact .done (h.hold on (.slot written)) _ _ _ _
    | failed code => exact .refuse (h.emit _ _) code _ _
  | freeze id id' => exact ⟨h, .ok (.some (.view ..))⟩
  | changeFrozen on change key values values' =>
    refine .withHeld h (h.holdings.rel_views on) fun _ _ _ => ?_
    exact .refuse (h.emit _ _) rfl none none

end Session

/-! ### What is logged -/

/-- Two events are spelled alike if instances that were made in the same turn are. -/
structure Event.Twins (earlier earlier' : Nat) (event event' : Event) : Prop where
  /-- They matter as much. -/
  level : event.level = event'.level
  /-- They are spelled alike. -/
  line : ∀ label label' : InstanceId → String,
    (∀ id id', SameTurn earlier earlier' id id' → label id = label' id') →
    event.line label = event'.line label'

theorem Event.Twins.of_tokens {earlier earlier' : Nat} {event event' : Event}
    (level : event.level = event'.level)
    (tokens : ∀ label label' : InstanceId → String,
      (∀ id id', SameTurn earlier earlier' id id' → label id = label' id') →
      event.tokens label = event'.tokens label') : event.Twins earlier earlier' event' :=
  ⟨level, fun label label' same => by rw [Event.line, Event.line, tokens label label' same]⟩

section

variable {bound : List (RecordId × RecordId)} {earlier earlier' : Nat}

/-- A refused access to an instance is logged with the code, and not with the value. -/
theorem Instance.Twins.refusal {inst inst' : Instance}
    (twins : inst.Twins bound earlier earlier' inst') (field : String)
    {violation violation' : Violation} (code : violation.code = violation'.code) :
    (inst.refusal field violation).Twins earlier earlier' (inst'.refusal field violation') := by
  refine .of_tokens rfl fun label label' same => ?_
  simp only [Instance.refusal, Event.tokens, same _ _ twins.turn, twins.interface, code]

theorem Slot.Twins.refusal {slot slot' : Slot} (twins : slot.Twins earlier earlier' slot')
    (field : String) {violation violation' : Violation}
    (code : violation.code = violation'.code) :
    (slot.refusal field violation).Twins earlier earlier' (slot'.refusal field violation') := by
  refine .of_tokens rfl fun label label' same => ?_
  simp only [Slot.refusal, Event.tokens, same _ _ twins.turn, twins.type, code]

end

namespace Session

variable {bound : List (RecordId × RecordId)} {earlier earlier' : Nat} {one other : Session}

theorem twins_refused {outcome outcome' : Except Violation Unit} {event event' : Violation → Event}
    (same : SameCheck outcome outcome')
    (twins : ∀ violation violation', violation.code = violation'.code →
      (event violation).Twins earlier earlier' (event' violation')) :
    List.Forall₂ (Event.Twins earlier earlier') (refused outcome event)
      (refused outcome' event') := by
  cases same with
  | passed => exact .nil
  | failed code => exact .cons (twins _ _ code) .nil

theorem twins_elim {α : Type} {r : α → α → Prop} {held held' : Option α}
    {events events' : α → List Event} (same : Option.Rel r held held')
    (twins : ∀ found found', r found found' →
      List.Forall₂ (Event.Twins earlier earlier') (events found) (events' found')) :
    List.Forall₂ (Event.Twins earlier earlier') (held.elim [] events) (held'.elim [] events') := by
  cases same with
  | none => exact .nil
  | some related => exact twins _ _ related

/-- **One call** is logged alike. -/
theorem twins_actionLogs (h : one.Twins bound earlier earlier' other) {action : Action}
    {operands operands' : List Value}
    (call : SameCall bound one.store other.store action operands operands') :
    List.Forall₂ (Event.Twins earlier earlier') (one.actionLogs action operands)
      (other.actionLogs action operands') := by
  cases call with
  | construct | constructWith | newSlot | freeze => exact .nil
  | getField on key =>
    refine twins_elim (h.holdings.insts on) fun inst inst' twins => ?_
    dsimp only [instanceLogs]
    rw [← twins.interface]
    split
    · exact .nil
    · exact .cons (twins.refusal key rfl) .nil
  | @setField on key value value' akin =>
    refine twins_elim (h.holdings.insts on) fun inst inst' twins => ?_
    dsimp only [instanceLogs]
    rw [← twins.interface]
    exact twins_refused (inst.interface.sameCheck_check key akin) fun _ _ => twins.refusal key
  | getSlot on key =>
    refine twins_elim (h.holdings.slots on) fun slot slot' twins => ?_
    dsimp only [slotLogs]
    split
    · exact .nil
    · exact .cons (twins.refusal key rfl) .nil
  | @setSlot on key value value' akin =>
    refine twins_elim (h.holdings.slots on) fun slot slot' twins => ?_
    dsimp only [slotLogs]
    rw [← twins.type]
    exact twins_refused (slot.type.sameCheck_permits key akin) fun _ _ => twins.refusal _
  | changeFrozen on change key values values' =>
    refine twins_elim (h.holdings.rel_views on) fun _ _ _ => ?_
    exact .cons ⟨rfl, fun _ _ _ => rfl⟩ .nil

/-! ### Calls in turn -/

/-- A record that an operand names has been made, if only what was made is held. -/
theorem hasRecord_of_operand (closed : one.Keeps fun _ => False) {items : List Expression}
    {store : Store} {operands : List Value}
    (evaluated : one.holdings.evaluateItems one.store items = some (store, operands))
    (id : RecordId) (member : .record id ∈ operands) : store.HasRecord id :=
  ((respects_operands closed evaluated).2 _ member (.record id) (List.mem_singleton_self _)).1

/-- **One step** in both runs: it ends alike, logs the same, and leaves the sessions together. -/
theorem twins_run (h : one.Twins bound earlier earlier' other)
    (closed : one.Keeps fun _ => False) (closed' : other.Keeps fun _ => False)
    {action : Action} (into : Option String) {items items' : List Expression}
    {store store' : Store} {operands operands' : List Value}
    (evaluated : one.holdings.evaluateItems one.store items = some (store, operands))
    (evaluated' : other.holdings.evaluateItems other.store items' = some (store', operands'))
    (call : SameCall bound store store' action operands operands') :
    let step : Step := ⟨action, items, into⟩
    let step' : Step := ⟨action, items', into⟩
    let bindings := ((one.withStore store).perform action operands).bindings
      ((other.withStore store').perform action operands')
    (one.run step).1.Twins (bindings ++ bound) earlier earlier' (other.run step').1 ∧
      (one.run step).2.ending = (other.run step').2.ending ∧
      List.Forall₂ (Event.Twins earlier earlier') (one.logs step) (other.logs step') := by
  intro step step' bindings
  -- the operands may be made of any number of new records, but change none that is bound
  have ready : (one.withStore store).Twins bound earlier earlier' (other.withStore store') :=
    h.withStore (h.stores.extend (Holdings.becomes_evaluateItems evaluated)
      (Holdings.becomes_evaluateItems evaluated'))
  obtain ⟨sessions, outcomes⟩ := twins_perform ready call (hasRecord_of_operand closed evaluated)
    (hasRecord_of_operand closed' evaluated')
  obtain ⟨left, outcome⟩ := @run_of_some one step store operands evaluated
  obtain ⟨left', outcome'⟩ := @run_of_some other step' store' operands' evaluated'
  dsimp only [step, step'] at left left' outcome outcome'
  refine ⟨?_, ?_, ?_⟩
  · rw [left, left']
    generalize ((one.withStore store).perform action operands).outcome = ended at outcomes ⊢
    generalize ((other.withStore store').perform action operands').outcome = ended' at outcomes ⊢
    cases outcomes with
    | error code => exact sessions
    | ok results =>
      cases results with
      | none => exact sessions
      | some twins =>
        cases into with
        | none => exact sessions
        | some name => exact sessions.hold name twins
  · unfold Reply.ending
    rw [outcome, outcome']
    generalize ((one.withStore store).perform action operands).outcome = ended at outcomes ⊢
    generalize ((other.withStore store').perform action operands').outcome = ended' at outcomes ⊢
    cases outcomes with
    | ok results => rfl
    | error code => exact congrArg Except.error code
  · have logged : one.logs step = (one.withStore store).actionLogs action operands := by
      unfold logs
      rw [evaluated]
      rfl
    have logged' : other.logs step' = (other.withStore store').actionLogs action operands' := by
      unfold logs
      rw [evaluated']
      rfl
    rw [logged, logged']
    exact twins_actionLogs ready call

/-- Events that are alike one by one are alike as far as they are described. -/
theorem map_eq_of_twins {α : Type} {describe describe' : Event → α} {events events' : List Event}
    (h : List.Forall₂ (Event.Twins earlier earlier') events events')
    (same : ∀ event event', event.Twins earlier earlier' event' →
      describe event = describe' event') : events.map describe = events'.map describe' := by
  rw [← List.forall₂_eq_eq_eq, List.forall₂_map_left_iff, List.forall₂_map_right_iff]
  exact h.imp same

/-- **Runs**: their calls end alike, and log the same. -/
theorem SameCalls.alike {steps steps' : List Step} (calls : SameCalls bound one steps other steps')
    (h : one.Twins bound earlier earlier' other) (closed : one.Keeps fun _ => False)
    (closed' : other.Keeps fun _ => False) :
    (one.runAll steps).map Reply.ending = (other.runAll steps').map Reply.ending ∧
      List.Forall₂ (Event.Twins earlier earlier') (one.logged steps) (other.logged steps') := by
  induction calls with
  | nil => exact ⟨rfl, .nil⟩
  | @cons bound one other action into items items' store store' operands operands' rest rest'
      evaluated evaluated' call _ ih =>
    obtain ⟨together, ending, logs⟩ := twins_run h closed closed' into evaluated evaluated' call
    obtain ⟨endings, logged⟩ := ih together (keeps_runSteps_of_none closed [_])
      (keeps_runSteps_of_none closed' [_])
    exact ⟨congrArg₂ List.cons ending endings, List.rel_append logs logged⟩

/-- **The main theorem**: let two runs begin where the same interfaces and types are held and no
instance is, whatever was done before, and let them make the same calls.  Then the calls succeed
alike or fail with the same codes.  What the runs log has the same levels and, as long as
instances that were made in the same turn are spelled alike, the same lines. -/
theorem says_same_of_sameCalls (series series' : Nat) (before before' : List Step) :
    let one := (start series).runSteps before
    let other := (start series').runSteps before'
    Holdings.Twins [] one.world.instances other.world.instances one.holdings other.holdings →
    ∀ steps steps', SameCalls [] one steps other steps' →
      (one.runAll steps).map Reply.ending = (other.runAll steps').map Reply.ending ∧
      ∃ events events',
        Adds one events (one.runSteps steps) ∧ Adds other events' (other.runSteps steps') ∧
        events.map Event.level = events'.map Event.level ∧
        ∀ label label' : InstanceId → String,
          (∀ id id', SameTurn one.world.instances other.world.instances id id' →
            label id = label' id') →
          events.map (Event.line label) = events'.map (Event.line label') := by
  intro one other holdings steps steps' calls
  have together : one.Twins [] one.world.instances other.world.instances other :=
    { stores := .nil _ _
      holdings := holdings
      turn := Nat.add_comm .. }
  obtain ⟨endings, logged⟩ := calls.alike together
    (keeps_runSteps_of_none (keeps_start series) before)
    (keeps_runSteps_of_none (keeps_start series') before')
  refine ⟨endings, _, _, one.log_runSteps steps, other.log_runSteps steps', ?_, ?_⟩
  · exact map_eq_of_twins logged fun _ _ twins => twins.level
  · intro label label' same
    exact map_eq_of_twins logged fun _ _ twins => twins.line label label' same

/-- A seed that is trusted, written to with texts that are not the same, and then validated. -/
theorem says_same_of_sameCalls_shared :
    let before : List Step :=
      [⟨.newCatalog ⟨.trust, .replace⟩, [], some "k"⟩,
        ⟨.defineInterface "k" "P" (.declared [("a", some (.single .string))]) none, [], some "P"⟩,
        ⟨.newCatalog ⟨.validate, .replace⟩, [], some "k"⟩,
        ⟨.defineInterface "k" "Q" (.declared [("a", some (.single .number))]) none, [], some "Q"⟩,
        ⟨.take, [.record []], some "s"⟩]
    let run (wrong text : Expression) : List Step :=
      [⟨.constructWith "P", [.held "s"], some "p"⟩, ⟨.setField "p" "a", [wrong], none⟩,
        ⟨.setField "p" "a", [text], none⟩, ⟨.constructWith "Q", [.held "s"], some "q"⟩]
    let one := (start 0).runSteps before
    let steps := run .null (.string "x")
    let steps' := run .undefined (.string "y")
    (one.runAll steps).map Reply.ending = (one.runAll steps').map Reply.ending ∧
      (one.runAll steps).map Reply.ending =
        [.ok (), .error (some "type_mismatch"), .ok (), .error (some "type_mismatch")] ∧
      ∃ events events', Adds one events (one.runSteps steps) ∧
        Adds one events' (one.runSteps steps') ∧
        events.map (Event.line (InstanceId.text 0)) =
          events'.map (Event.line (InstanceId.text 0)) := by
  intro before run one steps steps'
  have bare : ∀ name ∈ one.holdings.keys, one.holdings.instanceId? name = none := by
    decide +kernel
  have holdings : Holdings.Twins [] one.world.instances one.world.instances one.holdings
      one.holdings := by
    refine .refl fun name => ?_
    by_cases held : name ∈ one.holdings.keys
    · exact bare name held
    · rw [Dict.mem_keys, Dict.contains, Bool.not_eq_true, Option.isSome_eq_false_iff,
        Option.isNone_iff_eq_none] at held
      rw [Holdings.instanceId?, held]
  have calls : SameCalls [] one steps one steps' := by
    refine .cons (evaluateItems_held rfl) (evaluateItems_held rfl)
      (.constructWith _ (.inr ⟨rfl, fun key value value' bound bound' => ?_⟩)) ?_
    · cases bound.symm.trans bound'
      exact fun _ => rfl
    refine .cons rfl rfl (.setField _ _ (Value.akin_of_known (by decide))) ?_
    refine .cons rfl rfl (.setField _ _ (Value.akin_of_known (by decide))) ?_
    refine .cons (evaluateItems_held rfl) (evaluateItems_held rfl)
      (.constructWith _ (.inl ⟨?_, ?_⟩)) .nil
    · decide +kernel
    · decide +kernel
  obtain ⟨endings, events, events', added, added', -, spelled⟩ :=
    says_same_of_sameCalls 0 0 before before holdings steps steps' calls
  refine ⟨endings, by decide +kernel, events, events', added, added', spelled _ _ ?_⟩
  intro id id' same
  exact congrArg (fun index => InstanceId.text 0 ⟨index⟩) (Nat.add_right_cancel same)

end Session

end Contracts
