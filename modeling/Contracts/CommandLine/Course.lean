import Contracts.CommandLine.Verdict

/-!
# Courses

The **course** of a command is what it does step by step: it tells events, and reads
files, whose contents decide how it goes on, until it ends.  Since the journal is a file
too, what is read can depend on what was told before.

## Main definitions

* `Course` — what is done, step by step.
* `Course.report` — how a course ends among files that do not change, and what it tells.
* `Outcome`, `Outcome.exit` — what comes of a course, and what is printed of it.
* `Course.runAmong` — what comes of a course among the files of a tree.
-/

namespace Contracts

/-- What is done, step by step. -/
inductive Course where
  /-- Nothing more: it has ended. -/
  | ended (verdict : Verdict) : Course
  /-- Tell events and go on. -/
  | telling (events : List Event) (rest : Course) : Course
  /-- Read a file, and go on with what comes of that. -/
  | reading (path : String) (rest : Except FileFault String → Course) : Course

/-- How paths lead to texts. -/
abbrev ReadText := String → Except FileFault String

/-- What a course brings about. -/
structure Report where
  /-- How it ends. -/
  verdict : Verdict
  /-- What it tells, in order. -/
  events : List Event

/-- What a course brings about among the files of a tree. -/
structure Outcome where
  /-- How it ends. -/
  verdict : Verdict
  /-- Why lines of the journal are lost, a fault for each line. -/
  lost : List FileFault
  /-- The files afterwards. -/
  files : FileTree

namespace Outcome

/-- More lines are lost before. -/
def losing (outcome : Outcome) (faults : List FileFault) : Outcome :=
  { outcome with lost := faults ++ outcome.lost }

/-- What is printed, and the exit status.  The lost lines are complained of first. -/
def exit (outcome : Outcome) : Exit :=
  let exit := outcome.verdict.exit
  { exit with
    errors := String.join (outcome.lost.map FileFault.complaint) ++ exit.errors }

end Outcome

namespace Course

/-- What a course brings about among files that do not change. -/
def report (read : ReadText) : Course → Report
  | ended verdict => ⟨verdict, []⟩
  | telling events rest =>
      let report := rest.report read
      { report with events := events ++ report.events }
  | reading path rest => (rest (read path)).report read

/-- Run a course among the files of a tree.  What is told goes through a buffer to the
file of the journal, which is opened with the first line; what is still held in the
buffer is written at the end.  Lines are lost as long as the file cannot be opened. -/
def runAmong (journal : Journal) (stamp : Stamp) (working : List String) :
    Course → FileTree → String → Outcome
  | ended verdict, files, held =>
      ⟨verdict, [], if held.isEmpty then files else journal.append files held⟩
  | telling events rest, files, held =>
      match journal.lines stamp events with
      | [] => rest.runAmong journal stamp working files held
      | lines =>
          match journal.openFile files with
          | .error fault =>
              (rest.runAmong journal stamp working files held).losing
                (lines.map fun _ => fault)
          | .ok files =>
              let buffer := lines.foldl Buffer.add ⟨"", held⟩
              rest.runAmong journal stamp working (journal.append files buffer.passed)
                buffer.held
  | reading path rest, files, held =>
      (rest (files.read working path)).runAmong journal stamp working files held

end Course

end Contracts
