import Contracts.Format.Document
import Contracts.Journal

/-!
# Verdicts

How a command ends: it passes, a contract is violated, or it fails.  A failure is told
with what it happened to and with its causes, from the outermost inwards.

## Main definitions

* `Unreadable` — why a document cannot be read from a file.
* `Failure`, `Failure.message` — why a command fails, and its wording.
* `Verdict` — how a command ends.
* `Exit`, `Verdict.exit` — what is printed then, and the exit status.
-/

namespace Contracts

/-- Why a document cannot be read from a file. -/
inductive Unreadable where
  /-- The file cannot be read. -/
  | file (fault : FileFault) : Unreadable
  /-- The text is no document. -/
  | content (text : String) (fault : Json.Fault) : Unreadable

/-- The causes, from the outermost inwards. -/
def Unreadable.causes : Unreadable → List String
  | .file fault => ["failed to read contract document: " ++ fault.message, fault.message]
  | .content text fault => [Document.faultMessage text fault, fault.message text]

/-- Why a command fails. -/
inductive Failure where
  /-- Logging is not possible as asked. -/
  | journal (fault : JournalFault) : Failure
  /-- The definitions cannot be read. -/
  | definitions (path : String) (cause : Unreadable) : Failure
  /-- The definitions do not load. -/
  | notLoaded (violation : Violation) : Failure
  /-- The record cannot be read. -/
  | recordUnreadable (path : String) (fault : FileFault) : Failure
  /-- The record is no JSON text. -/
  | recordMalformed (path : String) (text : String) (fault : Json.Fault) : Failure
  /-- The record is not an object. -/
  | recordNotObject (path : String) : Failure

namespace Failure

/-- What happened, and its causes. -/
def chain : Failure → List String
  | journal fault => [fault.message]
  | definitions path cause => ("failed to load definitions `" ++ path ++ "`") :: cause.causes
  | notLoaded violation => ["document does not load", violation.message]
  | recordUnreadable path fault =>
      ["failed to read record `" ++ path ++ "`", fault.message]
  | recordMalformed path text fault =>
      ["record `" ++ path ++ "` is not valid JSON", fault.message text]
  | recordNotObject path => ["record `" ++ path ++ "` must be a JSON object"]

/-- The wording of a failure. -/
def message (failure : Failure) : String := ": ".intercalate failure.chain

end Failure

/-- How a command ends. -/
inductive Verdict where
  /-- It passes, with something to say. -/
  | passed (message : String) : Verdict
  /-- A contract is violated. -/
  | violated (violation : Violation) : Verdict
  /-- It fails. -/
  | failed (failure : Failure) : Verdict

/-- What is printed, and the exit status. -/
structure Exit where
  /-- The exit status. -/
  status : Nat
  /-- What is printed as output. -/
  output : String
  /-- What is printed as errors. -/
  errors : String
  deriving DecidableEq, Repr

/-- What a verdict prints, and its exit status. -/
def Verdict.exit : Verdict → Exit
  | .passed message => ⟨0, message ++ "\n", ""⟩
  | .violated violation => ⟨1, "", "violation: " ++ violation.message ++ "\n"⟩
  | .failed failure => ⟨2, "", "error: " ++ failure.message ++ "\n"⟩

end Contracts
