import Contracts.Proofs.Catalog.Permanence
import Contracts.Proofs.Event
import Contracts.Proofs.Session.Perform
import Mathlib.Data.List.TakeWhile

/-!
# Rejections

A call of an instance, of a slot or of a frozen view that is refused is logged, and what is
logged about it says on what it was made, what was reached for, and the code of the very
error that the caller gets.  Nothing else brings about such a message: neither a call that
succeeds nor a construction, be its seed refused or not.  So the messages about rejections
are those of the refused calls, one for each, in the order of the calls.

## Main definitions

* `isRejection` — a message about a rejection, as its first token says.
* `RefusedCall`, `RefusedCall.message` — a call that was refused, and what is said of it.
* `Session.refusedCall?`, `Session.refusedCalls` — the refused call of a step, judging by
  the reply, and those of steps in turn.
* `Session.rejections` — the messages about rejections in the log.

## Main results

* `Event.isRejection_line` — only three sorts of events are told by such messages.
* `Session.filter_logs` — **one step** logs the rejection that it replies, and no other.
* `Session.rejections_eq_refusedCalls` — **the rejections of a run.**
-/

namespace Contracts

/-! ### Messages about rejections -/

/-- The message is about a rejection: so its first token says. -/
def isRejection (message : String) : Bool :=
  let first := message.toList.takeWhile (· ≠ ' ')
  first = "event=guard_reject".toList ∨ first = "event=frozen_reject".toList

namespace Event

/-- Something was refused. -/
def isRefusal : Event → Bool
  | fieldRefused .. | slotRefused .. | changeRefused .. => true
  | _ => false

/-- The first word of a line is the first token, if there is no space in it. -/
theorem takeWhile_line {event : Event} {label : InstanceId → String} {token : String × String}
    {rest : List (String × String)} (tokens : event.tokens label = token :: rest)
    (whole : ' ' ∉ (spell token).toList) :
    (event.line label).toList.takeWhile (· ≠ ' ') = (spell token).toList := by
  have letters : ∀ c ∈ (spell token).toList, decide (c ≠ ' ') = true := fun c member =>
    decide_eq_true fun same => whole (same ▸ member)
  rw [toList_line, tokens, List.map_cons]
  cases rest with
  | nil =>
    rw [List.map_nil, List.intercalate_singleton, List.takeWhile_eq_self_iff]
    exact letters
  | cons next rest =>
    rw [List.map_cons, List.intercalate_cons_cons, List.append_assoc,
      List.takeWhile_append_of_pos letters]
    exact List.append_nil _

/-- Only refusals are told by messages about rejections. -/
theorem isRejection_line (event : Event) (label : InstanceId → String) :
    isRejection (event.line label) = event.isRefusal := by
  have first {token : String × String} {rest : List (String × String)}
      (tokens : event.tokens label = token :: rest)
      (whole : ' ' ∉ (spell token).toList) :
      isRejection (event.line label) =
        decide ((spell token).toList = "event=guard_reject".toList ∨
          (spell token).toList = "event=frozen_reject".toList) := by
    rw [isRejection, takeWhile_line tokens whole]
  cases event <;> exact (first rfl (by decide)).trans rfl

end Event

/-! ### Refused calls -/

/-- A call that is logged if it is refused: an access to an instance or a slot, or a change
through a frozen view. -/
def Action.isGuarded : Action → Bool
  | .getField .. | .setField .. | .getSlot .. | .setSlot .. | .changeFrozen .. => true
  | _ => false

/-- A call that was refused, with what is told about it. -/
inductive RefusedCall where
  /-- An access to a field of an instance. -/
  | onInstance (inst : Instance) (key : String) (cause : Violation) : RefusedCall
  /-- An access to a slot. -/
  | onSlot (slot : Slot) (key : String) (cause : Violation) : RefusedCall
  /-- A change through a frozen view. -/
  | onView (change : Change) (key : String) : RefusedCall

namespace RefusedCall

/-- The event that tells of the call. -/
def event : RefusedCall → Event
  | onInstance inst key cause => inst.refusal key cause
  | onSlot slot key cause => slot.refusal key cause
  | onView change key => .changeRefused change key

/-- The message that tells of the call, in a run with a series of instances. -/
def message (series : Nat) : RefusedCall → String
  | onInstance inst key cause =>
      " ".intercalate
        ["event=guard_reject", "module=guard", "status=error",
          "instance=" ++ inst.id.text series, "interface=" ++ inst.interface.name,
          "field=" ++ key, "reason=" ++ cause.code]
  | onSlot slot key cause =>
      " ".intercalate
        ["event=guard_reject", "module=guard", "status=error",
          "instance=" ++ slot.id.text series, "type=" ++ slot.type.name, "field=" ++ key,
          "reason=" ++ cause.code]
  | onView .write key =>
      " ".intercalate
        ["event=frozen_reject", "module=freeze", "status=error", "op=write", "key=" ++ key]
  | onView .delete key =>
      " ".intercalate
        ["event=frozen_reject", "module=freeze", "status=error", "op=delete", "key=" ++ key]

theorem isRefusal_event (call : RefusedCall) : call.event.isRefusal = true := by
  cases call <;> rfl

/-- The message is the line of the event. -/
theorem line_event (series : Nat) (call : RefusedCall) :
    call.event.line (InstanceId.text series) = call.message series := by
  rcases call with ⟨inst, key, cause⟩ | ⟨slot, key, cause⟩ | ⟨change, key⟩
  · simp only [event, Instance.refusal, Event.line, Event.tokens, message, List.map_cons,
      List.map_nil, String.reduceAppend]
  · simp only [event, Slot.refusal, Event.line, Event.tokens, message, List.map_cons,
      List.map_nil, String.reduceAppend]
  · cases change <;>
      simp only [event, Event.line, Event.tokens, message, List.map_cons, List.map_nil,
        String.reduceAppend]

end RefusedCall

/-! ### Registrations -/

namespace Catalog

variable {catalog : Catalog} {event : Event}

/-- Defining an interface is told, and so is that a type gave its name. -/
theorem not_isRefusal_of_defineInterface {name : String} {fields : Shape} {base : Option String}
    {defined : Defined Interface}
    (made : catalog.defineInterface name fields base = .ok defined)
    (member : event ∈ defined.events) : event.isRefusal = false := by
  rw [events_of_defineInterface made] at member
  rcases List.mem_cons.1 member with rfl | evicted
  · rfl
  · split at evicted
    · cases List.mem_singleton.1 evicted
      rfl
    · cases evicted

/-- And the other way round. -/
theorem not_isRefusal_of_defineType {name : String} {kind : Kind} {defined : Defined SlotType}
    (made : catalog.defineType name kind = .ok defined) (member : event ∈ defined.events) :
    event.isRefusal = false := by
  rw [events_of_defineType made] at member
  rcases List.mem_cons.1 member with rfl | evicted
  · rfl
  · split at evicted
    · cases List.mem_singleton.1 evicted
      rfl
    · cases evicted

theorem not_isRefusal_of_declare {declaration : Declaration} {next : Catalog}
    {events : List Event} (made : catalog.declare declaration = .ok (next, events))
    (member : event ∈ events) : event.isRefusal = false := by
  unfold declare at made
  split at made
  · next name kind =>
    cases defined : catalog.defineType name kind with
    | error violation => rw [defined] at made; cases made
    | ok handed =>
      rw [defined] at made
      cases made
      exact not_isRefusal_of_defineType defined member
  · next declaration =>
    cases defined : catalog.defineInterface declaration.name declaration.fields
        declaration.base with
    | error violation => rw [defined] at made; cases made
    | ok handed =>
      rw [defined] at made
      cases made
      exact not_isRefusal_of_defineInterface defined member

theorem not_isRefusal_of_declareAll (declarations : List Declaration)
    (member : event ∈ (catalog.declareAll declarations).events) : event.isRefusal = false := by
  induction declarations generalizing catalog with
  | nil => cases member
  | cons declaration rest ih =>
    rw [declareAll] at member
    split at member
    · cases member
    · next made =>
      rcases List.mem_append.1 member with now | later
      · exact not_isRefusal_of_declare made now
      · exact ih later

/-- Loading a document refuses no call. -/
theorem not_isRefusal_of_load (document : Document)
    (member : event ∈ (catalog.load document).events) : event.isRefusal = false := by
  unfold load at member
  dsimp only at member
  split at member
  · exact not_isRefusal_of_declareAll _ member
  · rcases List.mem_append.1 member with declared | counted
    · exact not_isRefusal_of_declareAll _ declared
    · cases List.mem_singleton.1 counted
      rfl

end Catalog

namespace Session

variable {session : Session} {event : Event}

theorem not_isRefusal_of_registered {α : Type} {outcome : Except Violation α}
    {events : α → List Event}
    (h : ∀ made, outcome = .ok made → ∀ event ∈ events made, event.isRefusal = false)
    (member : event ∈ registered outcome events) : event.isRefusal = false := by
  cases outcome with
  | ok made => exact h made rfl event member
  | error violation => cases member

/-- Nothing that is done with a catalog is a refusal of a call. -/
theorem not_isRefusal_of_catalogLogs {catalog : Catalog} {action : Action}
    (member : event ∈ session.catalogLogs catalog action) : event.isRefusal = false := by
  unfold catalogLogs at member
  split at member
  · split at member
    · exact not_isRefusal_of_registered
        (fun _ made _ => Catalog.not_isRefusal_of_defineInterface made) member
    · cases member
  · exact not_isRefusal_of_registered
      (fun _ made _ => Catalog.not_isRefusal_of_defineType made) member
  · split at member
    · exact Catalog.not_isRefusal_of_load _ member
    · cases member
  · cases member

/-- Nor is anything that is done with registries. -/
theorem not_isRefusal_of_registryLogs {action : Action}
    (member : event ∈ session.registryLogs action) : event.isRefusal = false := by
  unfold registryLogs at member
  split at member
  · next on name fields policy base =>
    cases held : session.holdings.shapes? on with
    | none => rw [held] at member; cases member
    | some registry =>
      rw [held, Option.elim_some] at member
      split at member
      · refine not_isRefusal_of_registered (fun admitted made event told => ?_) member
        rw [List.mem_singleton.1 told, (Registry.registerInterface_eq_ok made).2]
        rfl
      · cases member
  · next on name kind policy =>
    cases held : session.holdings.kinds? on with
    | none => rw [held] at member; cases member
    | some registry =>
      rw [held, Option.elim_some] at member
      refine not_isRefusal_of_registered (fun admitted made event told => ?_) member
      rw [List.mem_singleton.1 told, (Registry.registerType_eq_ok made).2]
      rfl
  · cases member

/-! ### Refused calls of a session -/

/-- The cause for which something is refused, if it is for a violation. -/
def violation? {α : Type} : Except Refusal α → Option Violation
  | .error (.violation cause) => some cause
  | _ => none

/-- The refused call that an action is, if it is refused for a cause. -/
def refusedBy (session : Session) (action : Action) (cause : Violation) : Option RefusedCall :=
  match action with
  | .getField on key | .setField on key =>
      (session.holdings.inst? on).map fun inst => .onInstance inst key cause
  | .getSlot on key => (session.holdings.slot? on).map fun slot => .onSlot slot key cause
  | .setSlot on key =>
      (session.holdings.slot? on).map fun slot => .onSlot slot (key.getD Slot.accessor) cause
  | .changeFrozen on change key =>
      (session.holdings.frozen? on).map fun _ => .onView change key
  | _ => none

/-- The refused call of a step, judging by the reply. -/
def refusedCall? (session : Session) (step : Step) : Option RefusedCall :=
  (violation? (session.run step).2.outcome).bind (session.refusedBy step.action)

/-- The refused calls of steps in turn. -/
def refusedCalls (session : Session) : List Step → List RefusedCall
  | [] => []
  | step :: rest => (session.refusedCall? step).toList ++ (session.run step).1.refusedCalls rest

/-- The messages about rejections in the log. -/
def rejections (session : Session) (series : Nat) : List String :=
  (session.world.log.toList.map (Event.line (InstanceId.text series))).filter isRejection

theorem violation?_eq_some {α : Type} {outcome : Except Refusal α} {cause : Violation} :
    violation? outcome = some cause ↔ outcome = .error (.violation cause) := by
  rcases outcome with (_ | _ | _) | _ <;> simp [violation?]

theorem violation?_map {α β : Type} (f : α → β) (outcome : Except Refusal α) :
    violation? (outcome.map f) = violation? outcome := by
  rcases outcome with refusal | result
  · cases refusal <;> rfl
  · rfl

/-- What a read of a field logs is what it replies. -/
theorem instanceLogs_getField (session : Session) (inst : Instance) (on key : String)
    (operands : List Value) :
    instanceLogs inst (.getField on key) operands =
      (violation? (session.performOnInstance inst (.getField on key) operands).outcome).toList.map
        (inst.refusal key) := by
  cases operands with
  | nil =>
    dsimp only [instanceLogs, performOnInstance, World.getField]
    split <;> rfl
  | cons value rest => rfl

/-- What a write of a field logs is what it replies. -/
theorem instanceLogs_setField (session : Session) (inst : Instance) (on key : String)
    (operands : List Value) :
    instanceLogs inst (.setField on key) operands =
      (violation? (session.performOnInstance inst (.setField on key) operands).outcome).toList.map
        (inst.refusal key) := by
  rcases operands with _ | ⟨value, _ | ⟨other, rest⟩⟩
  · rfl
  · dsimp only [instanceLogs, performOnInstance, World.setField]
    cases inst.interface.check key value <;> rfl
  · rfl

/-- What a read of a slot logs is what it replies. -/
theorem slotLogs_getSlot (session : Session) (slot : Slot) (on key : String)
    (operands : List Value) :
    slotLogs slot (.getSlot on key) operands =
      (violation? (session.performOnSlot on slot (.getSlot on key) operands).outcome).toList.map
        (slot.refusal key) := by
  cases operands with
  | nil =>
    dsimp only [slotLogs, performOnSlot, World.getSlot]
    split <;> rfl
  | cons value rest => rfl

/-- What a write of a slot logs is what it replies, whichever way it was written to. -/
theorem slotLogs_setSlot (session : Session) (slot : Slot) (on : String) (key : Option String)
    (operands : List Value) :
    slotLogs slot (.setSlot on key) operands =
      (violation? (session.performOnSlot on slot (.setSlot on key) operands).outcome).toList.map
        (slot.refusal (key.getD Slot.accessor)) := by
  rcases operands with _ | ⟨value, _ | ⟨other, rest⟩⟩
  · rfl
  · rw [performOnSlot_setSlot]
    dsimp only [slotLogs]
    cases slot.type.permits key value <;> rfl
  · rfl

/-- What is told about a call that is refused is told as the refused call that it is. -/
theorem filter_told (cause : Option Violation) (call : Violation → RefusedCall)
    {call? : Violation → Option RefusedCall} (is : ∀ cause, call? cause = some (call cause)) :
    (cause.toList.map fun cause => (call cause).event).filter Event.isRefusal =
      (cause.bind call?).toList.map RefusedCall.event := by
  cases cause with
  | none => rfl
  | some cause =>
    rw [Option.bind_some, is]
    exact List.filter_cons_of_pos (RefusedCall.isRefusal_event _)

theorem filter_of_not_isRefusal {events : List Event}
    (h : ∀ event ∈ events, event.isRefusal = false) : events.filter Event.isRefusal = [] :=
  List.filter_eq_nil_iff.2 fun event member told =>
    Bool.false_ne_true ((h event member).symm.trans told)

/-- An action that is no guarded call is no refused call. -/
theorem refusedBy_of_not_isGuarded {action : Action} (h : action.isGuarded = false)
    (cause : Violation) : session.refusedBy action cause = none := by
  cases action <;> first | rfl | cases h

/-- Such an action logs no rejection, whatever it replies. -/
theorem not_isRefusal_of_actionLogs {action : Action} (h : action.isGuarded = false)
    (operands : List Value) (member : event ∈ session.actionLogs action operands) :
    event.isRefusal = false := by
  cases action with
  | getField | setField | getSlot | setSlot | changeFrozen => cases h
  | defineInterface on | defineType on | lookUpInterface on | lookUpType on
  | lookUpDefinitions on | listNames on | load on =>
    dsimp only [actionLogs] at member
    cases held : session.holdings.catalog? on with
    | none => rw [held] at member; cases member
    | some catalog =>
      rw [held, Option.elim_some] at member
      exact not_isRefusal_of_catalogLogs member
  | registerShape | registerKind =>
    dsimp only [actionLogs] at member
    exact not_isRefusal_of_registryLogs member
  | instanceInfo on =>
    dsimp only [actionLogs] at member
    cases held : session.holdings.inst? on <;> (rw [held] at member; cases member)
  | takeSlot on =>
    dsimp only [actionLogs] at member
    cases held : session.holdings.slot? on <;> (rw [held] at member; cases member)
  | getFrozen on | frozenInfo on =>
    dsimp only [actionLogs] at member
    cases held : session.holdings.frozen? on <;> (rw [held] at member; cases member)
  | _ => cases member

/-- **One action** logs the rejection that it ends with, and no other. -/
theorem filter_actionLogs (session : Session) (action : Action) (operands : List Value) :
    (session.actionLogs action operands).filter Event.isRefusal =
      ((violation? (session.perform action operands).outcome).bind
        (session.refusedBy action)).toList.map RefusedCall.event := by
  cases guarded : action.isGuarded with
  | false =>
    have none_told : (violation? (session.perform action operands).outcome).bind
        (session.refusedBy action) = none :=
      Option.bind_eq_none_iff.2 fun cause _ => refusedBy_of_not_isGuarded guarded cause
    rw [none_told, filter_of_not_isRefusal fun _ => not_isRefusal_of_actionLogs guarded operands]
    rfl
  | true =>
    cases action with
    | getField on key =>
      dsimp only [actionLogs, perform]
      cases held : session.holdings.inst? on with
      | none => rfl
      | some inst =>
        rw [Option.elim_some, instanceLogs_getField session]
        exact filter_told _ (.onInstance inst key) fun cause => by
          simp only [refusedBy, held, Option.map_some]
    | setField on key =>
      dsimp only [actionLogs, perform]
      cases held : session.holdings.inst? on with
      | none => rfl
      | some inst =>
        rw [Option.elim_some, instanceLogs_setField session]
        exact filter_told _ (.onInstance inst key) fun cause => by
          simp only [refusedBy, held, Option.map_some]
    | getSlot on key =>
      dsimp only [actionLogs, perform]
      cases held : session.holdings.slot? on with
      | none => rfl
      | some slot =>
        rw [Option.elim_some, slotLogs_getSlot session]
        exact filter_told _ (.onSlot slot key) fun cause => by
          simp only [refusedBy, held, Option.map_some]
    | setSlot on key =>
      dsimp only [actionLogs, perform]
      cases held : session.holdings.slot? on with
      | none => rfl
      | some slot =>
        rw [Option.elim_some, slotLogs_setSlot session]
        exact filter_told _ (.onSlot slot (key.getD Slot.accessor)) fun cause => by
          simp only [refusedBy, held, Option.map_some]
    | changeFrozen on change key =>
      dsimp only [actionLogs, perform]
      cases held : session.holdings.frozen? on with
      | none => rfl
      | some view =>
        exact filter_told (some (.frozen change key)) (fun _ => .onView change key)
          fun cause => by simp only [refusedBy, held, Option.map_some]
    | _ => cases guarded

/-- **One step** logs the rejection that it replies, and no other. -/
theorem filter_logs (session : Session) (step : Step) :
    (session.logs step).filter Event.isRefusal =
      (session.refusedCall? step).toList.map RefusedCall.event := by
  unfold logs refusedCall?
  cases evaluated : session.holdings.evaluateItems session.store step.operands with
  | none =>
    rw [run_of_none evaluated]
    rfl
  | some result =>
    obtain ⟨store, operands⟩ := result
    rw [(run_of_some evaluated).2, violation?_map]
    exact (session.withStore store).filter_actionLogs step.action operands

/-- So do steps in turn, one after the other. -/
theorem filter_logged (session : Session) (steps : List Step) :
    (session.logged steps).filter Event.isRefusal =
      (session.refusedCalls steps).map RefusedCall.event := by
  induction steps generalizing session with
  | nil => rfl
  | cons step rest ih =>
    rw [logged, refusedCalls, List.filter_append, List.map_append, filter_logs, ih]

/-- A call for which nothing fitting is held is not refused but misuse. -/
theorem violation?_withHeld {α : Type} {held : Option α} {next : α → Performed} {cause : Violation}
    (h : violation? (session.withHeld held next).outcome = some cause) : held.isSome = true := by
  cases held with
  | none => cases h
  | some thing => rfl

/-- A guarded call that is refused for a cause is a refused call. -/
theorem isSome_refusedBy {action : Action} {operands : List Value} {cause : Violation}
    (guarded : action.isGuarded = true)
    (refused : violation? (session.perform action operands).outcome = some cause) :
    (session.refusedBy action cause).isSome = true := by
  cases action with
  | getField | setField | getSlot | setSlot | changeFrozen =>
    have held := violation?_withHeld refused
    simpa only [refusedBy, Option.isSome_map] using held
  | _ => cases guarded

/-- A step is a refused call if it is a guarded call, and the reply is a violation. -/
theorem isSome_refusedCall? (session : Session) (step : Step) :
    (session.refusedCall? step).isSome = true ↔ step.action.isGuarded = true ∧
      ∃ cause, (session.run step).2.outcome = .error (.violation cause) := by
  rw [refusedCall?]
  simp only [← violation?_eq_some]
  constructor
  · intro some_call
    obtain ⟨call, is⟩ := Option.isSome_iff_exists.1 some_call
    obtain ⟨cause, refused, told⟩ := Option.bind_eq_some_iff.1 is
    refine ⟨?_, cause, refused⟩
    by_contra other
    rw [refusedBy_of_not_isGuarded (Bool.eq_false_iff.2 other)] at told
    cases told
  · rintro ⟨guarded, cause, refused⟩
    rw [refused, Option.bind_some]
    cases evaluated : session.holdings.evaluateItems session.store step.operands with
    | none =>
      rw [run_of_none evaluated] at refused
      cases refused
    | some result =>
      obtain ⟨store, operands⟩ := result
      rw [(run_of_some evaluated).2, violation?_map] at refused
      -- the holdings are the same, whatever the operands have made of the store
      have named : ((session.withStore store).refusedBy step.action cause).isSome = true :=
        isSome_refusedBy guarded refused
      exact named

/-- **The rejections of a run.**  The messages about rejections are those of the calls that
were refused, judging by the replies: one for each, in the order of the calls, with the
identity and the name of the instance, the field, and the code of the error that was
replied.  A step is such a call if it reads or writes a field or a slot, or changes something
through a frozen view, and its reply is a violation. -/
theorem rejections_eq_refusedCalls (series : Nat) (steps : List Step) :
    ((start series).runSteps steps).rejections series =
        ((start series).refusedCalls steps).map (RefusedCall.message series) ∧
      ∀ (session : Session) (step : Step),
        (session.refusedCall? step).isSome = true ↔ step.action.isGuarded = true ∧
          ∃ cause, (session.run step).2.outcome = .error (.violation cause) := by
  refine ⟨?_, isSome_refusedCall?⟩
  have logged := (start series).log_runSteps steps
  rw [Adds, show (start series).world.log.toList = [] from rfl, List.nil_append] at logged
  have read : isRejection ∘ Event.line (InstanceId.text series) = Event.isRefusal :=
    funext fun event => event.isRejection_line _
  rw [rejections, logged, List.filter_map, read, filter_logged, List.map_map]
  exact List.map_congr_left fun call _ => RefusedCall.line_event series call

end Session

end Contracts
