import Contracts.CommandLine
import Std.Time.Format

/-!
# The tool

The outer layer of the tool: it makes the directory of the journal, reads the files that
a request names, and prints what comes of the request.  What it prints is decided in
`Contracts.CommandLine`.
-/

namespace Contracts.Tool

/-- The fault that the system reports. -/
def fault : IO.Error → FileFault
  | .noFileOrDirectory .. => .notFound
  | .alreadyExists .. => .exists
  | .inappropriateType _ code _ => if code = 21 then .isDirectory else .notDirectory
  | .invalidArgument _ 36 _ => .nameTooLong
  | error => .other (toString error)

/-- Do something to files, and take note of a fault. -/
def attempt {α : Type} (act : IO α) : IO (Except FileFault α) := do
  try return .ok (← act)
  catch error => return .error (fault error)

/-- Make a directory, and those on the way to it. -/
def makeDirectories (path : String) : IO (Except FileFault Unit) :=
  attempt do
    try IO.FS.createDir path
    catch
      | .noFileOrDirectory .. | .alreadyExists .. =>
          IO.FS.createDirAll path
      | error => throw error

/-- Read a file as text. -/
def readText (path : String) : IO (Except FileFault String) := do
  match ← attempt (IO.FS.readBinFile path) with
  | .error fault => return .error fault
  | .ok bytes =>
      match String.fromUTF8? bytes with
      | some text => return .ok text
      | none => return .error .notText

/-- Write text at the end of a file, which is made if it is not there. -/
def append (file : String) (text : String) : IO (Except FileFault Unit) :=
  attempt do (← IO.FS.Handle.mk file .append).putStr text

/-- Run a course, as `Course.runAmong` does among the files of a tree; but old files of
the journal are left where they are. -/
def follow (journal : Journal) (stamp : Stamp) : Course → String → IO Verdict
  | .ended verdict, held => do
      if let some logging := journal.active then
        if !held.isEmpty then discard (append logging.file held)
      return verdict
  | .telling events rest, held => do
      match journal.active, journal.lines stamp events with
      | none, _ | _, [] => follow journal stamp rest held
      | some logging, lines =>
          match ← append logging.file "" with
          | .error fault =>
              for _ in lines do IO.eprint fault.complaint
              follow journal stamp rest held
          | .ok () =>
              let buffer := lines.foldl Buffer.add ⟨"", held⟩
              discard (append logging.file buffer.passed)
              follow journal stamp rest buffer.held
  | .reading path rest, held => do
      follow journal stamp (rest (← readText path)) held

/-- A time as it is written in the journal. -/
def timeText (time : Std.Time.Timestamp) : String :=
  (Std.Time.DateTime.ofTimestamp time .UTC).format "uuuu-MM-dd HH:mm:ss.SSSSSS xxx"

/-- A stamp for this run: a random series, and the time. -/
def stamp : IO Stamp := do
  let bytes ← IO.getRandomBytes 9
  let series := bytes.foldl (fun series byte => series * 256 + byte.toNat) 0
  return ⟨series, timeText (← Std.Time.Timestamp.now)⟩

/-- Answer a request. -/
def answer (request : Request) : IO Verdict := do
  let made ← match request.directory? with
    | some directory => makeDirectories directory
    | none => pure (.ok ())
  let (journal, course) := request.course made
  follow journal (← stamp) course ""

end Contracts.Tool

/-- Answer the request that the arguments make. -/
def main (arguments : List String) : IO UInt32 := do
  let exit ← match Contracts.Request.ofArguments arguments with
    | .ok request => (·.exit) <$> Contracts.Tool.answer request
    | .error fault => pure fault.exit
  IO.print exit.output
  IO.eprint exit.errors
  return exit.status.toUInt32
