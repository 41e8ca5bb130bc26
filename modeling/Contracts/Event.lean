import Contracts.About
import Contracts.Violation

/-!
# Events

What is logged.  An event is a sequence of `key=value` tokens, the first of which names
it; its line is the tokens with single spaces between them.

## Main definitions

* `Level` — how much an event matters.
* `Event` — the events.
* `Event.tokens`, `Event.line` — an event as tokens and as a line.
* `InstanceId.text` — how the identity of an instance is spelled.
-/

namespace Contracts

/-- How much an event matters, the most first. -/
inductive Level where
  /-- Something failed. -/
  | error : Level
  /-- Something is doubtful. -/
  | warn : Level
  /-- Something was done. -/
  | info : Level
  /-- Something was refused. -/
  | debug : Level
  /-- Anything else. -/
  | trace : Level
  deriving DecidableEq, Repr

namespace Level

/-- The word for a level. -/
def text : Level → String
  | .error => "error"
  | .warn => "warn"
  | .info => "info"
  | .debug => "debug"
  | .trace => "trace"

/-- How many levels matter more. -/
def rank : Level → Nat
  | .error => 0
  | .warn => 1
  | .info => 2
  | .debug => 3
  | .trace => 4

end Level

/-- The identity of an instance. -/
structure InstanceId where
  /-- How many instances were made before. -/
  index : Nat
  deriving DecidableEq, Repr

/-- A number in hexadecimal digits, with zeros before them if there are too few. -/
def hexDigits (count n : Nat) : List Char :=
  let digits := Nat.toDigits 16 n
  List.replicate (count - digits.length) '0' ++ digits

/-- The identity as thirty-two hexadecimal digits in five groups.  The last group, of
twelve digits or more, tells the instances of one run apart; the others, but for the
digits `4` and `8` that all identities have in common, tell the `series`, which is one
for a run and another for the next. -/
def InstanceId.text (series : Nat) (id : InstanceId) : String :=
  let digits := hexDigits 18 series
  let digits := digits.drop (digits.length - 18)
  "-".intercalate
    [String.ofList (digits.take 8), String.ofList ((digits.drop 8).take 4),
      String.ofList ('4' :: (digits.drop 12).take 3), String.ofList ('8' :: digits.drop 15),
      String.ofList (hexDigits 12 id.index)]

/-- What is logged. -/
inductive Event where
  /-- An interface was registered. -/
  | interfaceRegistered (name : String) (fields : Nat) (base : Option String)
      (replaced : Bool) : Event
  /-- A type was registered. -/
  | typeRegistered (name : String) (kind : Kind) (replaced : Bool) : Event
  /-- An interface gave its name to a type. -/
  | interfaceEvicted (name : String) : Event
  /-- A type gave its name to an interface. -/
  | typeEvicted (name : String) : Event
  /-- All declarations of a document were registered. -/
  | documentLoaded (kinds interfaces : Nat) : Event
  /-- An access to an instance of an interface was refused. -/
  | fieldRefused (id : InstanceId) (interface field : String) (cause : Violation) : Event
  /-- An access to an instance of a type was refused. -/
  | slotRefused (id : InstanceId) (type field : String) (cause : Violation) : Event
  /-- A change through a frozen view was refused. -/
  | changeRefused (change : Change) (key : String) : Event
  /-- A record was found to conform to an interface. -/
  | recordAccepted (interface : String) (id : InstanceId) : Event
  /-- A record was found not to conform to an interface. -/
  | recordRefused (interface : String) (cause : Violation) : Event
  /-- Logging began. -/
  | loggingStarted (level : Level) (directory : String) : Event
  /-- The program panicked. -/
  | panicked (location payload : String) : Event

namespace Event

/-- The level of an event. -/
def level : Event → Level
  | fieldRefused .. | slotRefused .. | changeRefused .. => .debug
  | panicked .. => .error
  | _ => .info

/-- The tokens of an event, where `label` spells the identity of an instance. -/
def tokens (label : InstanceId → String) : Event → List (String × String)
  | interfaceRegistered name fields base replaced =>
      [("event", "interface_register"), ("module", "registry"), ("status", "ok"),
        ("name", name), ("fields", toString fields), ("base", base.getD "-"),
        ("replaced", toString replaced)]
  | typeRegistered name kind replaced =>
      [("event", "type_register"), ("module", "registry"), ("status", "ok"), ("name", name),
        ("kind", kind.display), ("replaced", toString replaced)]
  | interfaceEvicted name =>
      [("event", "interface_evict"), ("module", "registry"), ("status", "ok"), ("name", name)]
  | typeEvicted name =>
      [("event", "type_evict"), ("module", "registry"), ("status", "ok"), ("name", name)]
  | documentLoaded kinds interfaces =>
      [("event", "document_load"), ("module", "kernel"), ("status", "ok"),
        ("kinds", toString kinds), ("interfaces", toString interfaces)]
  | fieldRefused id interface field cause =>
      [("event", "guard_reject"), ("module", "guard"), ("status", "error"),
        ("instance", label id), ("interface", interface), ("field", field),
        ("reason", cause.code)]
  | slotRefused id type field cause =>
      [("event", "guard_reject"), ("module", "guard"), ("status", "error"),
        ("instance", label id), ("type", type), ("field", field), ("reason", cause.code)]
  | changeRefused change key =>
      [("event", "frozen_reject"), ("module", "freeze"), ("status", "error"),
        ("op", match change with | .write => "write" | .delete => "delete"), ("key", key)]
  | recordAccepted interface id =>
      [("event", "record_check"), ("module", "cli"), ("status", "ok"),
        ("interface", interface), ("instance", label id)]
  | recordRefused interface cause =>
      [("event", "record_check"), ("module", "cli"), ("status", "error"),
        ("interface", interface), ("reason", cause.code)]
  | loggingStarted level directory =>
      [("event", "logging_start"), ("module", "logging"), ("status", "ok"),
        ("level", level.text), ("log_dir", directory), ("version", About.version)]
  | panicked location payload =>
      [("event", "panic_captured"), ("module", "logging"), ("status", "error"),
        ("location", location), ("payload", payload)]

/-- The line of an event. -/
def line (label : InstanceId → String) (event : Event) : String :=
  " ".intercalate ((event.tokens label).map fun token => token.1 ++ "=" ++ token.2)

end Event

end Contracts
