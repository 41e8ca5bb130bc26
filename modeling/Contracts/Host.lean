import Contracts.Catalog
import Contracts.Instance.Slot
import Contracts.Journal

/-!
# A host that logs

A host has one catalog, one journal and the files around it.  What happens in it is
written to the journal, from when logging has begun and as far as it matters enough.

## Main definitions

* `Host` — the state of a host.
* `Host.Call`, `Host.run` — what can be done in it, and what comes of it.
* `Host.entries` — what is in the journal.
-/

namespace Contracts

/-- The state of a host. -/
structure Host where
  /-- The journal. -/
  journal : Journal
  /-- The files around the host. -/
  files : FileTree
  /-- The definitions. -/
  catalog : Catalog
  /-- How many instances were made. -/
  instances : Nat
  /-- What is in all lines that are written. -/
  stamp : Stamp

namespace Host

/-- A host among some files, in which nothing has happened yet. -/
def start (stamp : Stamp) (files : FileTree) : Host := ⟨.idle, files, .empty {}, 0, stamp⟩

/-- What can be done in a host. -/
inductive Call where
  /-- Ask for logging. -/
  | beginLogging (level directory : String) : Call
  /-- Define a type of texts. -/
  | define (name : String) : Call
  /-- Write a number to a new slot of a type of texts. -/
  | misfill (name : String) : Call
  /-- Panic, and catch that. -/
  | panic (payload : PanicPayload) : Call

/-- Why a call is refused. -/
inductive Refusal where
  /-- Logging is not possible as asked. -/
  | journal (fault : JournalFault) : Refusal
  /-- The action is not allowed. -/
  | violation (violation : Violation) : Refusal

/-- Write events as far as they matter. -/
def emitAll (host : Host) (events : List Event) : Host :=
  { host with files := host.journal.write host.stamp host.files events }

/-- Ask for logging. -/
def beginLogging (host : Host) (level directory : String) :
    Host × Except Refusal Unit :=
  match host.journal.examine level directory with
  | .error fault => (host, .error (.journal fault))
  | .ok none => (host, .ok ())
  | .ok (some asked) =>
      let (files, made) := host.files.makeDirectories [] asked.directory
      match host.journal.conclude asked (made.mapError .notMade) with
      | (journal, .error fault) => ({ host with files, journal }, .error (.journal fault))
      | (journal, .ok ()) =>
          ({ host with files, journal }.emitAll
            [.loggingStarted asked.level asked.directory], .ok ())

/-- Define a type of texts. -/
def define (host : Host) (name : String) : Host × Except Refusal Unit :=
  match host.catalog.defineType name (.single .string) with
  | .error violation => (host, .error (.violation violation))
  | .ok defined =>
      ({ host with catalog := defined.catalog }.emitAll defined.events, .ok ())

/-- Write a number to a new slot of a type. -/
def misfill (host : Host) (name : String) : Host × Except Refusal Unit :=
  let world : World := ⟨.empty, #[], host.instances⟩
  match host.catalog.type name with
  | .error violation => (host, .error (.violation violation))
  | .ok type =>
      match world.constructSlot type (.string "seed") with
      | .error violation => (host, .error (.violation violation))
      | .ok (world, slot) =>
          let (world, outcome) := world.setSlotValue slot (.number (.ofNat 1))
          let host :=
            { host with instances := world.instances }.emitAll world.log.toList
          match outcome with
          | .error violation => (host, .error (.violation violation))
          | .ok _ => (host, .ok ())

/-- Do one thing; `location` is where panics are said to happen. -/
def run (host : Host) (location : String) : Call → Host × Except Refusal Unit
  | .beginLogging level directory => host.beginLogging level directory
  | .define name => host.define name
  | .misfill name => host.misfill name
  | .panic payload => (host.emitAll [.panicked location payload.line], .ok ())

/-- The entries of the journal, once logging has begun. -/
def entries (host : Host) : Option (List Entry) := host.journal.contents host.files

end Host

end Contracts
