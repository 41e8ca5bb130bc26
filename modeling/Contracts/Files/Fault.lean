import Contracts.Text.Labelled
import Contracts.Text.Quoted

/-!
# File faults

Why files cannot be read or written and directories not be made.  Most faults come from
the system, which numbers them.  A fault is worded in two ways: in a sentence, and with
its parts spelled out, for those who look for its cause.

## Main definitions

* `FileFault` — the faults.
* `FileFault.message` — a fault in a sentence.
* `FileFault.details` — a fault with its parts.
-/

namespace Contracts

/-- Why a file cannot be read or written or a directory not be made. -/
inductive FileFault where
  /-- A name on the path is not there. -/
  | notFound : FileFault
  /-- Something else is there already. -/
  | exists : FileFault
  /-- A name on the path is that of a file. -/
  | notDirectory : FileFault
  /-- The path is that of a directory. -/
  | isDirectory : FileFault
  /-- The path, or a name on it, is too long. -/
  | nameTooLong : FileFault
  /-- The path holds a null character. -/
  | nullInName : FileFault
  /-- The file is not text. -/
  | notText : FileFault
  /-- Any other reason, in the words of the system. -/
  | other (message : String) : FileFault
  deriving DecidableEq, Repr

namespace FileFault

/-- The number that the system gives to a fault; the others do not come from it. -/
def number? : FileFault → Option Nat
  | notFound => some 2
  | .exists => some 17
  | notDirectory => some 20
  | isDirectory => some 21
  | nameTooLong => some 36
  | nullInName | notText | other _ => none

/-- The sort of a fault. -/
def kind : FileFault → String
  | notFound => "NotFound"
  | .exists => "AlreadyExists"
  | notDirectory => "NotADirectory"
  | isDirectory => "IsADirectory"
  | nameTooLong => "InvalidFilename"
  | nullInName => "InvalidInput"
  | notText => "InvalidData"
  | other _ => "Other"

/-- What is wrong. -/
def words : FileFault → String
  | notFound => "No such file or directory"
  | .exists => "File exists"
  | notDirectory => "Not a directory"
  | isDirectory => "Is a directory"
  | nameTooLong => "File name too long"
  | nullInName => "file name contained an unexpected NUL byte"
  | notText => "stream did not contain valid UTF-8"
  | other message => message

/-- A fault in a sentence: what is wrong, and the number in brackets. -/
def message (fault : FileFault) : String :=
  match fault.number? with
  | some number => fault.words ++ " (os error " ++ toString number ++ ")"
  | none => fault.words

/-- A fault with its parts: the number, the sort, and what is wrong. -/
def details (fault : FileFault) : String :=
  let parts := [("kind", fault.kind), ("message", Text.quoted fault.words)]
  match fault.number? with
  | some number => Text.labelled "Os" (("code", toString number) :: parts)
  | none => Text.labelled "Error" parts

end FileFault

end Contracts
