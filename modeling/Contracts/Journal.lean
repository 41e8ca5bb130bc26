import Contracts.Event
import Contracts.Files.Tree
import Contracts.Journal.Archive
import Contracts.Journal.Line
import Contracts.Text.Blank
import Contracts.Text.SingleLine

/-!
# The journal

Logging begins once, at a level and in a directory.  Asking for it again with the same
two changes nothing, and asking for others is refused.  A request that cannot be met
leaves the journal as it was, so that a later one can still succeed.

## Main definitions

* `Journal` — whether logging has begun, and how.
* `Journal.examine` — what a request asks for: nothing more, or a start.
* `Journal.conclude` — what comes of a start.
* `Journal.begin` — a whole request.
* `Journal.keeps`, `Journal.lines` — whether an event is written, and the lines written.
* `Journal.openFile` — make the file of the journal, and remove outdated ones.
* `Journal.append`, `Journal.write` — write to that file.
* `FileFault.complaint` — what is said of a line that cannot be written.
* `Journal.contents` — read it.
-/

namespace Contracts

/-! ### Levels and directories -/

namespace Level

/-- The level that a text names, blanks around it and case not counting. -/
def ofText? (text : String) : Option Level :=
  match (Text.trim text).map Char.toLower with
  | "error" => some .error
  | "warn" => some .warn
  | "warning" => some .warn
  | "info" => some .info
  | "debug" => some .debug
  | "trace" => some .trace
  | _ => none

/-- The level of a journal if none is asked for. -/
def usual : Level := .debug

end Level

/-- Why logging cannot be started. -/
inductive StartFault where
  /-- The directory cannot be made. -/
  | notMade (fault : FileFault) : StartFault
  /-- The directory is there, but the writer of the journal does not start. -/
  | notStarted (reason : String) : StartFault
  deriving DecidableEq, Repr

/-- Why a request to log is refused. -/
inductive JournalFault where
  /-- The text names no level. -/
  | unknownLevel (text : String) : JournalFault
  /-- No directory is given. -/
  | noDirectory : JournalFault
  /-- The directory is not given by an absolute path. -/
  | relativeDirectory (directory : String) : JournalFault
  /-- Logging has begun in another directory. -/
  | otherDirectory (active refused : String) : JournalFault
  /-- Logging has begun at another level. -/
  | otherLevel (active refused : Level) : JournalFault
  /-- The start fails. -/
  | notBegun (directory : String) (fault : StartFault) : JournalFault
  deriving DecidableEq, Repr

/-- The wording of a refusal. -/
def JournalFault.message : JournalFault → String
  | .unknownLevel text =>
      "unsupported log level `" ++ text ++ "`; expected trace|debug|info|warn|error"
  | .noDirectory => "log_dir cannot be empty"
  | .relativeDirectory directory =>
      "log_dir must be an absolute path, got `" ++ directory ++ "`"
  | .otherDirectory active refused =>
      "logging already active in `" ++ active ++ "`; refusing `" ++ refused ++ "`"
  | .otherLevel active refused =>
      "logging already active at level `" ++ active.text ++ "`; refusing `" ++
        refused.text ++ "`"
  | .notBegun directory (.notMade fault) =>
      "failed to create log directory `" ++ directory ++ "`: " ++ fault.message
  | .notBegun _ (.notStarted reason) => "failed to start logger: " ++ reason

/-! ### The journal -/

/-- How logging has begun. -/
structure Logging where
  /-- The least level that is written. -/
  level : Level
  /-- The directory, as it was given. -/
  directory : String
  deriving DecidableEq, Repr

/-- The file that is written to. -/
def Logging.file (logging : Logging) : String := Path.join logging.directory Archive.current

/-- Whether logging has begun, and how. -/
structure Journal where
  /-- How logging has begun, if it has. -/
  active : Option Logging
  deriving DecidableEq, Repr

namespace Journal

/-- The journal before logging has begun. -/
def idle : Journal := ⟨none⟩

instance : Inhabited Journal := ⟨idle⟩

/-- The level and the directory of a request, if both are well formed. -/
def wellFormed (level directory : String) : Except JournalFault Logging :=
  match Level.ofText? level with
  | none => .error (.unknownLevel ((Text.trim level).map Char.toLower))
  | some level =>
      let directory := Text.trim directory
      if directory.isEmpty then .error .noDirectory
      else if Path.isAbsolute directory then .ok ⟨level, directory⟩
      else .error (.relativeDirectory directory)

/-- What a request asks for: a start, or nothing if logging has begun as asked. -/
def examine (journal : Journal) (level directory : String) :
    Except JournalFault (Option Logging) :=
  match wellFormed level directory with
  | .error fault => .error fault
  | .ok asked =>
      match journal.active with
      | none => .ok (some asked)
      | some active =>
          if Path.same active.directory asked.directory then
            if active.level = asked.level then .ok none
            else .error (.otherLevel active.level asked.level)
          else .error (.otherDirectory active.directory asked.directory)

/-- What comes of a start, once it was tried. -/
def conclude (journal : Journal) (asked : Logging) :
    Except StartFault Unit → Journal × Except JournalFault Unit
  | .ok () => (⟨some asked⟩, .ok ())
  | .error fault => (journal, .error (.notBegun asked.directory fault))

/-- A request to log, where `started` is what comes of a start, should one be needed. -/
def begin (journal : Journal) (level directory : String) (started : Except StartFault Unit) :
    Journal × Except JournalFault Unit :=
  match journal.examine level directory with
  | .error fault => (journal, .error fault)
  | .ok none => (journal, .ok ())
  | .ok (some asked) => journal.conclude asked started

/-- Whether an event is written: logging has begun, and the event matters enough. -/
def keeps (journal : Journal) (event : Event) : Bool :=
  journal.active.any fun logging => event.level.rank ≤ logging.level.rank

/-- The lines of the events that are written. -/
def lines (journal : Journal) (stamp : Stamp) (events : List Event) : List String :=
  (events.filter journal.keeps).map stamp.line

/-- Open the file of the journal.  It is made if it is not there, and old files that are
outdated are removed.  To open it again changes nothing. -/
def openFile (journal : Journal) (files : FileTree) : Except FileFault FileTree :=
  match journal.active with
  | none => .ok files
  | some logging =>
      (files.append [] logging.file "").map fun files =>
        (Archive.outdated (files.fileNames [] logging.directory)).foldl
          (fun files name => files.remove [] (Path.join logging.directory name)) files

/-- Write text to the file of the journal, after what it holds already.  What cannot be
written is lost. -/
def append (journal : Journal) (files : FileTree) (text : String) : FileTree :=
  match journal.active with
  | some logging => (files.append [] logging.file text).toOption.getD files
  | none => files

/-- Write events to the file of the journal.  The file is not opened before there is
something to write. -/
def write (journal : Journal) (stamp : Stamp) (files : FileTree) (events : List Event) :
    FileTree :=
  match journal.lines stamp events with
  | [] => files
  | lines =>
      match journal.openFile files with
      | .error _ => files
      | .ok files => journal.append files (String.join lines)

/-- The entries in the file of the journal, once logging has begun. -/
def contents (journal : Journal) (files : FileTree) : Option (List Entry) :=
  journal.active.map fun logging =>
    match files.read [] logging.file with
    | .ok text => Entry.read text
    | .error _ => []

end Journal

/-! ### Lost lines -/

/-- What is said of a line that cannot be written. -/
def FileFault.complaint (fault : FileFault) : String :=
  "[flexi_logger][ERRCODE::Write] writing failed, caused by " ++ fault.details ++
    "\n    See https://docs.rs/flexi_logger/latest/flexi_logger/error_info/index.html#write\n"

/-! ### Panics -/

/-- What a panic carries. -/
inductive PanicPayload where
  /-- A text. -/
  | text (text : String) : PanicPayload
  /-- Anything else. -/
  | other : PanicPayload
  deriving DecidableEq, Repr

/-- The most characters of a payload that are logged. -/
abbrev payloadLimit : Nat := 160

/-- The payload on one line and no longer than allowed. -/
def PanicPayload.line : PanicPayload → String
  | .text carried => Text.singleLine carried payloadLimit
  | .other => Text.singleLine "non-string panic payload" payloadLimit

end Contracts
