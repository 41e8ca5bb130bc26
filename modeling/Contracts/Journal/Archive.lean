import Contracts.About

/-!
# Old files of a journal

Beside the file that is written to, a journal keeps old files in its directory.  Their
names start with that of the tool and, after one more character, a **mark**: the letter
`r` and digits, of which only the first is looked at.  They end in `.log`, or in `.gz` if
they were packed.  Some old files are kept; the others are outdated.

## Main definitions

* `Archive.current` — the name of the file that is written to.
* `Archive.isOld` — whether a name is that of an old file.
* `Archive.old` — the old files among others, the latest first.
* `Archive.outdated` — those that are not kept.
-/

namespace Contracts.Archive

/-- The name of the file that is written to. -/
def current : String := About.tool ++ "_rCURRENT.log"

/-- How many old files are kept. -/
abbrev kept : Nat := 3

/-! ### Names of old files -/

/-- The parts of a name before and after its last dot. -/
def splitLastDot : List Char → Option (List Char × List Char)
  | [] => none
  | c :: rest =>
      match splitLastDot rest with
      | some (stem, ending) => some (c :: stem, ending)
      | none => if c = '.' then some ([], rest) else none

/-- Whether characters are a mark.  It is longer than the letter and one digit. -/
def isMark : List Char → Bool
  | 'r' :: digit :: _ :: _ => digit.isDigit
  | _ => false

/-- The part of a stem in which a mark is looked for: after the name of the tool and one
more character, up to a dot. -/
def markPart (stem : List Char) : List Char :=
  (stem.drop (About.tool.length + 1)).takeWhile (· ≠ '.')

/-- Whether a name with a given ending is that of an old file. -/
def isOld (ending name : String) : Bool :=
  match splitLastDot name.toList with
  | none => false
  | some (stem, found) =>
      About.tool.toList.isPrefixOf stem && String.ofList found == ending &&
        isMark (markPart stem)

/-! ### Outdated files -/

/-- The old files with a given ending, the latest first. -/
def oldEnding (ending : String) (names : List String) : List String :=
  (names.filter (isOld ending)).mergeSort fun left right => !decide (left < right)

/-- The old files, the latest first; packed ones come after all others. -/
def old (names : List String) : List String := oldEnding "log" names ++ oldEnding "gz" names

/-- The old files that are not kept. -/
def outdated (names : List String) : List String := (old names).drop kept

end Contracts.Archive
