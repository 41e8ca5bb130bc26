import Contracts.Catalog.Description
import Contracts.Catalog.Document
import Contracts.CommandLine.Arguments
import Contracts.CommandLine.Course
import Contracts.Heap.Exchange
import Contracts.Instance.Record

/-!
# The command line

What the commands do.  A check first loads the definitions and stops there if they do
not load, whatever the record is; then it reads the record and makes an instance from
it.

## Main definitions

* `Command.course`, `Command.run` — what a command does, and what it brings about.
* `Request.course` — begin logging if that is asked for, then do the command.
* `Request.run` — what a request brings about.
* `Request.runAmong` — run a request among the files of a tree.
-/

namespace Contracts

namespace Command

/-- The reply of the library when it is there. -/
def greeting : String :=
  About.library ++ " ping=" ++ About.pong ++ "\n" ++ About.library ++ " version=" ++
    About.version

/-- The document that a file holds. -/
def readDocument (path : String) : Except FileFault String → Except Failure Document
  | .error fault => .error (.definitions path (.file fault))
  | .ok text =>
      match Document.parse text with
      | .error fault => .error (.definitions path (.content text fault))
      | .ok document => .ok document

/-- The record that a file holds, in a store. -/
def readRecord (path : String) : Except FileFault String → Except Failure (Store × RecordId)
  | .error fault => .error (.recordUnreadable path fault)
  | .ok text =>
      match Json.parse text with
      | .error fault => .error (.recordMalformed path text fault)
      | .ok json =>
          match Store.empty.addJson json with
          | (store, .record id) => .ok (store, id)
          | _ => .error (.recordNotObject path)

/-- Make an instance of an interface from a record. -/
def checkRecord (catalog : Catalog) (interface : String) (store : Store) (record : RecordId) :
    Course :=
  let made : Except Violation (World × Instance) :=
    match catalog.interface interface with
    | .error violation => .error violation
    | .ok found => World.constructWith ⟨store, #[], 0⟩ found record
  match made with
  | .ok (_, inst) => .telling [.recordAccepted interface inst.id] (.ended (.passed "ok"))
  | .error violation =>
      .telling [.recordRefused interface violation] (.ended (.violated violation))

/-- Check the record of one file against an interface from another. -/
def checkCourse (definitions interface record : String) (seeds : SeedPolicy) : Course :=
  .reading definitions fun content =>
  match readDocument definitions content with
  | .error failure => .ended (.failed failure)
  | .ok document =>
      let progress := (Catalog.empty ⟨seeds, .replace⟩).load document
      .telling progress.events <|
      match progress.outcome with
      | .error violation => .ended (.violated violation)
      | .ok _ =>
          .reading record fun content =>
          match readRecord record content with
          | .error failure => .ended (.failed failure)
          | .ok (store, id) => checkRecord progress.catalog interface store id

/-- Describe the definitions of a file. -/
def describeCourse (definitions : String) : Course :=
  .reading definitions fun content =>
  match readDocument definitions content with
  | .error failure => .ended (.failed failure)
  | .ok document =>
      let progress := (Catalog.empty {}).load document
      .telling progress.events <|
      match progress.outcome with
      | .error violation => .ended (.failed (.notLoaded violation))
      | .ok _ => .ended (.passed progress.catalog.describe)

/-- What a command does. -/
def course : Command → Course
  | .ping => .ended (.passed greeting)
  | .check definitions interface record seeds =>
      checkCourse definitions interface record seeds
  | .describe definitions => describeCourse definitions

/-- What a command brings about among files that do not change. -/
def run (read : ReadText) (command : Command) : Report := command.course.report read

end Command

namespace Request

/-- The directory that has to be made for the journal, if any. -/
def directory? : Request → Option String
  | .perform (some journal) _ =>
      match Journal.idle.examine journal.level journal.directory with
      | .ok (some asked) => some asked.directory
      | _ => none
  | _ => none

/-- Begin logging if that is asked for, where `made` is what comes of making the
directory. -/
def beginLogging (journal : Option JournalRequest) (made : Except FileFault Unit) :
    Journal × Except JournalFault (List Event) :=
  match journal with
  | none => (.idle, .ok [])
  | some asked =>
      let (journal, outcome) :=
        Journal.idle.begin asked.level asked.directory (made.mapError .notMade)
      (journal, outcome.map fun _ =>
        journal.active.toList.map fun logging =>
          .loggingStarted logging.level logging.directory)

/-- The journal of a request, and what it does. -/
def course (made : Except FileFault Unit) : Request → Journal × Course
  | .version => (.idle, .ended (.passed (About.tool ++ " " ++ About.version)))
  | .perform asked command =>
      match beginLogging asked made with
      | (journal, .error fault) => (journal, .ended (.failed (.journal fault)))
      | (journal, .ok events) => (journal, .telling events command.course)

/-- What a request brings about among files that do not change. -/
def run (made : Except FileFault Unit) (read : ReadText) (request : Request) : Report :=
  (request.course made).2.report read

/-- Run a request among the files of a tree. -/
def runAmong (request : Request) (stamp : Stamp) (files : FileTree) (working : List String) :
    Outcome :=
  let (files, made) := match request.directory? with
    | none => (files, .ok ())
    | some directory => files.makeDirectories working directory
  let (journal, course) := request.course made
  course.runAmong journal stamp working files ""

end Request

/-- How the tool is called. -/
def usage : String :=
  "usage: " ++ About.tool ++ " [--log-level L] [--log-dir D] <command>\n\n" ++
    "  ping\n" ++
    "  check --defs F --interface N --record F [--trust-seeds]\n" ++
    "  describe --defs F\n"

/-- How it ends with arguments that make no request. -/
def ArgumentFault.exit (fault : ArgumentFault) : Exit :=
  ⟨2, "", "error: " ++ fault.message ++ "\n\n" ++ usage⟩

end Contracts
