import Contracts.Journal
import Contracts.Policy

/-!
# Arguments

The arguments of the tool name a command, with settings before or after the name.  A
setting starts with two dashes; its value is attached by an equals sign or is the next
argument, which then must not start with a dash itself.  The settings for the journal go
on either side of the name, the others after it.  On either side no setting is given
twice, and the level of the journal only with its directory; if a setting is given on
both sides, the one after the name counts.

## Main definitions

* `Form` — what an argument looks like.
* `Setting`, `CommandName`, `Scope` — what can be given, and where.
* `Scope.scan` — read settings up to the first word.
* `Command`, `Request` — what is asked for.
* `Request.ofArguments` — the request that arguments make.
* `ArgumentFault` — why they make none.
-/

namespace Contracts

/-! ### The form of an argument -/

/-- What an argument looks like. -/
inductive Form where
  /-- A name or a value. -/
  | word (text : String) : Form
  /-- Two dashes alone: no setting follows. -/
  | separator : Form
  /-- Two dashes and a name, perhaps with a value. -/
  | long (name : String) (attached : Option String) : Form
  /-- A dash and letters. -/
  | short (letters : String) : Form
  deriving DecidableEq, Repr

namespace Form

/-- The parts before and after the first equals sign. -/
def splitEquals : List Char → List Char × Option (List Char)
  | [] => ([], none)
  | c :: rest =>
      if c = '=' then ([], some rest)
      else
        let (before, after) := splitEquals rest
        (c :: before, after)

/-- The form of an argument. -/
def of (argument : String) : Form :=
  match argument.toList with
  | ['-', '-'] => .separator
  | '-' :: '-' :: rest =>
      let (name, attached) := splitEquals rest
      .long (String.ofList name) (attached.map String.ofList)
  | ['-'] => .word argument
  | '-' :: letters => .short (String.ofList letters)
  | _ => .word argument

end Form

/-! ### Settings and commands -/

/-- What can be set. -/
inductive Setting where
  /-- Print the version, whatever follows. -/
  | version : Setting
  /-- The least level that is logged. -/
  | logLevel : Setting
  /-- The directory of the journal. -/
  | logDirectory : Setting
  /-- The file with the definitions. -/
  | definitions : Setting
  /-- The interface that is asked about. -/
  | interface : Setting
  /-- The file with the record. -/
  | record : Setting
  /-- Take the record as it is. -/
  | trustSeeds : Setting
  deriving DecidableEq, Repr

namespace Setting

/-- The name of a setting. -/
def name : Setting → String
  | .version => "version"
  | .logLevel => "log-level"
  | .logDirectory => "log-dir"
  | .definitions => "defs"
  | .interface => "interface"
  | .record => "record"
  | .trustSeeds => "trust-seeds"

/-- All settings. -/
def all : List Setting :=
  [.version, .logLevel, .logDirectory, .definitions, .interface, .record, .trustSeeds]

/-- Whether a setting has a value. -/
def takesValue : Setting → Bool
  | .version | .trustSeeds => false
  | _ => true

/-- Whether the value of a setting is a path, which is never empty. -/
def isPath : Setting → Bool
  | .logDirectory | .definitions | .record => true
  | _ => false

end Setting

/-- The names of the commands. -/
inductive CommandName where
  /-- Show that the library is there. -/
  | ping : CommandName
  /-- Check a record. -/
  | check : CommandName
  /-- Describe definitions. -/
  | describe : CommandName
  deriving DecidableEq, Repr

namespace CommandName

/-- The command that a word names. -/
def ofText? : String → Option CommandName
  | "ping" => some .ping
  | "check" => some .check
  | "describe" => some .describe
  | _ => none

/-- Whether a setting belongs to a command. -/
def has : CommandName → Setting → Bool
  | .check, .definitions | .check, .interface | .check, .record | .check, .trustSeeds => true
  | .describe, .definitions => true
  | _, _ => false

end CommandName

/-- Where an argument stands. -/
inductive Scope where
  /-- Before the name of the command. -/
  | before : Scope
  /-- After that name. -/
  | after (name : CommandName) : Scope
  deriving DecidableEq, Repr

/-- Whether a setting can be given somewhere. -/
def Scope.allows : Scope → Setting → Bool
  | _, .logLevel | _, .logDirectory => true
  | .before, .version => true
  | .after name, setting => name.has setting
  | _, _ => false

/-! ### Faults -/

/-- Why arguments make no request. -/
inductive ArgumentFault where
  /-- An argument has no meaning where it stands. -/
  | unexpected (argument : String) : ArgumentFault
  /-- A setting that has no value is given one. -/
  | unwantedValue (setting : Setting) : ArgumentFault
  /-- A setting is given without its value. -/
  | noValue (setting : Setting) : ArgumentFault
  /-- The value of a setting is not a path. -/
  | emptyPath (setting : Setting) : ArgumentFault
  /-- A setting is given twice. -/
  | repeated (setting : Setting) : ArgumentFault
  /-- A setting that is needed is not given. -/
  | missing (setting : Setting) : ArgumentFault
  /-- No command is named. -/
  | noCommand : ArgumentFault
  deriving DecidableEq, Repr

/-- The wording of a fault. -/
def ArgumentFault.message : ArgumentFault → String
  | .unexpected argument => "unexpected argument `" ++ argument ++ "`"
  | .unwantedValue setting => "`--" ++ setting.name ++ "` takes no value"
  | .noValue setting => "`--" ++ setting.name ++ "` needs a value"
  | .emptyPath setting => "`--" ++ setting.name ++ "` needs a path"
  | .repeated setting => "`--" ++ setting.name ++ "` is given twice"
  | .missing setting => "`--" ++ setting.name ++ "` is missing"
  | .noCommand => "no command; expected ping|check|describe"

/-! ### Reading settings -/

/-- Settings with their values, and what follows them. -/
structure Scan where
  /-- The settings as they were given; one without a value has an empty one. -/
  given : List (Setting × String)
  /-- The first word and the arguments after it; none if the arguments are read. -/
  rest : List String
  deriving DecidableEq, Repr

namespace Scan

/-- One more setting in front. -/
def add (scan : Scan) (setting : Setting) (value : String) : Scan :=
  { scan with given := (setting, value) :: scan.given }

/-- Whether a setting is given. -/
def gives (scan : Scan) (setting : Setting) : Bool := (scan.given.lookup setting).isSome

/-- The value of a setting, if it is given. -/
def value? (scan : Scan) (setting : Setting) : Option String := scan.given.lookup setting

/-- The value of a setting that is needed. -/
def require (scan : Scan) (setting : Setting) : Except ArgumentFault String :=
  match scan.value? setting with
  | some value => .ok value
  | none => .error (.missing setting)

/-- Whether settings are given once each, and paths for those that need one. -/
def check : List (Setting × String) → Except ArgumentFault Unit
  | [] => .ok ()
  | (setting, value) :: rest =>
      if setting.isPath && value.isEmpty then .error (.emptyPath setting)
      else if (rest.lookup setting).isSome then .error (.repeated setting)
      else check rest

/-- The level of the journal is given only with its directory. -/
def checkJournal (scan : Scan) : Except ArgumentFault Unit :=
  if scan.gives .logLevel && !scan.gives .logDirectory then .error (.missing .logDirectory)
  else .ok ()

end Scan

namespace Scope

/-- The setting that a name stands for. -/
def setting? (scope : Scope) (name : String) : Option Setting :=
  Setting.all.find? fun setting => setting.name == name && scope.allows setting

/-- Read settings up to the first word; the version ends the reading at once. -/
def scan (scope : Scope) : List String → Except ArgumentFault Scan
  | [] => .ok ⟨[], []⟩
  | argument :: rest =>
      match Form.of argument with
      | .word text => .ok ⟨[], text :: rest⟩
      | .separator =>
          match rest with
          | [] => .ok ⟨[], []⟩
          | extra :: _ => .error (.unexpected extra)
      | .short letters =>
          if scope.allows .version && letters.toList.head? == some 'V' then
            .ok ⟨[(.version, "")], []⟩
          else .error (.unexpected argument)
      | .long name attached =>
          match scope.setting? name with
          | none => .error (.unexpected argument)
          | some setting =>
              if setting.takesValue then
                match attached with
                | some value => (scope.scan rest).map fun scan => scan.add setting value
                | none =>
                    match rest with
                    | [] => .error (.noValue setting)
                    | value :: rest =>
                        match Form.of value with
                        | .word value =>
                            (scope.scan rest).map fun scan => scan.add setting value
                        | _ => .error (.noValue setting)
              else if attached.isSome then .error (.unwantedValue setting)
              else if setting = .version then .ok ⟨[(.version, "")], []⟩
              else (scope.scan rest).map fun scan => scan.add setting ""

end Scope

/-! ### Requests -/

/-- What is to be done. -/
inductive Command where
  /-- Show that the library is there. -/
  | ping : Command
  /-- Check the record of one file against an interface from another. -/
  | check (definitions interface record : String) (seeds : SeedPolicy) : Command
  /-- Describe the definitions of a file. -/
  | describe (definitions : String) : Command
  deriving DecidableEq, Repr

/-- A journal that is asked for. -/
structure JournalRequest where
  /-- The text for the level. -/
  level : String
  /-- The directory. -/
  directory : String
  deriving DecidableEq, Repr

/-- What is asked for. -/
inductive Request where
  /-- The version. -/
  | version : Request
  /-- A command, perhaps with a journal. -/
  | perform (journal : Option JournalRequest) (command : Command) : Request
  deriving DecidableEq, Repr

/-- The command that the settings after its name make. -/
def CommandName.command (name : CommandName) (scan : Scan) : Except ArgumentFault Command :=
  match name with
  | .ping => .ok .ping
  | .check => do
      let definitions ← scan.require .definitions
      let interface ← scan.require .interface
      let record ← scan.require .record
      return .check definitions interface record
        (if scan.gives .trustSeeds then .trust else .validate)
  | .describe => do return .describe (← scan.require .definitions)

namespace Request

/-- The journal that the settings on both sides ask for. -/
def journal? (before after : Scan) : Option JournalRequest :=
  match after.value? .logDirectory <|> before.value? .logDirectory with
  | none => none
  | some directory =>
      let level := after.value? .logLevel <|> before.value? .logLevel
      some ⟨level.getD Level.usual.text, directory⟩

/-- The request that arguments make. -/
def ofArguments (arguments : List String) : Except ArgumentFault Request := do
  let before ← Scope.before.scan arguments
  Scan.check before.given
  if before.gives .version then return .version
  before.checkJournal
  match before.rest with
  | [] => throw .noCommand
  | word :: rest =>
      match CommandName.ofText? word with
      | none => throw (.unexpected word)
      | some name =>
          let after ← (Scope.after name).scan rest
          Scan.check after.given
          after.checkJournal
          match after.rest with
          | extra :: _ => throw (.unexpected extra)
          | [] => return .perform (journal? before after) (← name.command after)

end Request

end Contracts
