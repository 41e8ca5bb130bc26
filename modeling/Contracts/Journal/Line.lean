import Contracts.Journal.Entry

/-!
# Lines of a journal

The line of an event tells when it was written, the level, the part of the library or of
the tool that it comes from, the place in that part, and the event.  Places are not
spelled out: dots stand for them, as many as the place would take, so that lines have
their full size.  The lines pass through a buffer on their way to the file, so the file
lags behind until the buffer has no room for another line.

## Main definitions

* `Stamp` — what a run puts into all of its lines.
* `Event.origin` — where an event comes from.
* `Stamp.line` — the line of an event.
* `Buffer.add` — pass a line through a buffer.
-/

namespace Contracts

/-- What a run puts into all of its lines. -/
structure Stamp where
  /-- The series of its instances. -/
  series : Nat
  /-- When the lines are written. -/
  time : String
  deriving DecidableEq, Repr

/-! ### Origins -/

/-- Where an event comes from. -/
structure Origin where
  /-- The part of the library or of the tool. -/
  part : String
  /-- How many characters the place in that part takes. -/
  place : Nat
  deriving DecidableEq, Repr

/-- Where an event comes from. -/
def Event.origin : Event → Origin
  | interfaceRegistered .. => ⟨About.library ++ "::registry", 41⟩
  | typeRegistered .. | interfaceEvicted .. | typeEvicted .. =>
      ⟨About.library ++ "::registry", 42⟩
  | documentLoaded .. => ⟨About.library ++ "::kernel", 40⟩
  | fieldRefused .. => ⟨About.library ++ "::guard::shape_guard", 51⟩
  | slotRefused .. => ⟨About.library ++ "::guard::kind_guard", 50⟩
  | changeRefused .. => ⟨About.library ++ "::freeze", 39⟩
  | recordAccepted .. | recordRefused .. => ⟨About.tool ++ "::commands", 40⟩
  | loggingStarted .. | panicked .. => ⟨About.library ++ "::logging", 41⟩

/-- The line of an event, with the break at its end. -/
def Stamp.line (stamp : Stamp) (event : Event) : String :=
  let entry := event.entry stamp.series
  "[" ++ stamp.time ++ "] " ++ entry.level ++ " [" ++ event.origin.part ++ "] " ++
    String.ofList (List.replicate event.origin.place '.') ++ ": " ++ entry.text ++ "\n"

/-! ### The buffer -/

/-- What was passed on by a buffer, and what is in it. -/
structure Buffer where
  /-- What was passed on. -/
  passed : String
  /-- What is in the buffer. -/
  held : String
  deriving DecidableEq, Repr

namespace Buffer

/-- How many bytes a buffer has room for. -/
abbrev capacity : Nat := 8192

/-- Add a line.  If there is no room left for it, what is in the buffer is passed on to
make room, and a line that would fill the buffer alone goes after it at once. -/
def add (buffer : Buffer) (line : String) : Buffer :=
  if capacity ≤ line.utf8ByteSize then ⟨buffer.passed ++ buffer.held ++ line, ""⟩
  else if buffer.held.utf8ByteSize + line.utf8ByteSize ≤ capacity then
    ⟨buffer.passed, buffer.held ++ line⟩
  else ⟨buffer.passed ++ buffer.held, line⟩

end Buffer

end Contracts
