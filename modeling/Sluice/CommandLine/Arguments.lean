/-!
# Arguments

The commands and their options.  An option takes one value, behind it or attached to it, and a value
is never empty.  Help and the version are asked for in passing: the first that comes up decides.
-/

set_option autoImplicit false

namespace Sluice

namespace CommandLine

inductive Topic where
  | program
  | list
  | describe
  | run
  deriving DecidableEq, Repr

structure RunArguments where
  settings : String
  files : List String
  records : Option String
  output : String
  deriving DecidableEq, Repr

inductive Command where
  | list
  | describe (key : String)
  | run (arguments : RunArguments)
  | help (topic : Topic)
  | version
  deriving DecidableEq, Repr

/-! ## Options of a run -/

inductive RunOption where
  | settings
  | file
  | records
  | output
  deriving DecidableEq, Repr

namespace RunOption

def ofLetter? : Char → Option RunOption
  | 'c' => some settings
  | 'f' => some file
  | 'r' => some records
  | 'o' => some output
  | _ => none

def ofName? (name : List Char) : Option RunOption :=
  if name = "config".toList then some settings
  else if name = "file".toList then some file
  else if name = "records".toList then some records
  else if name = "output".toList then some output
  else none

end RunOption

structure GivenOptions where
  settings : Option String
  files : List String
  records : Option String
  output : Option String
  deriving DecidableEq, Repr

namespace GivenOptions

def none : GivenOptions := ⟨.none, [], .none, .none⟩

/-- Notes a value; only files may be given more than once, and no value may be empty. -/
def add? (given : GivenOptions) (option : RunOption) (value : String) : Option GivenOptions :=
  if value.isEmpty then .none
  else
    match option with
    | .settings => if given.settings.isSome then .none else some { given with settings := value }
    | .file => some { given with files := given.files ++ [value] }
    | .records => if given.records.isSome then .none else some { given with records := value }
    | .output => if given.output.isSome then .none else some { given with output := value }

def toCommand? (given : GivenOptions) : Option Command := do
  some (.run ⟨← given.settings, given.files, given.records, ← given.output⟩)

end GivenOptions

/-- An argument that is an option; a lone dash is a value. -/
def isOption (argument : String) : Bool :=
  match argument.toList with
  | '-' :: _ :: _ => true
  | _ => false

/-- A name in front of an equals sign, and the value behind it if there is one. -/
def splitName (text : List Char) : List Char × Option String :=
  let name := text.takeWhile (· ≠ '=')
  match text.drop name.length with
  | [] => (name, none)
  | _ :: value => (name, some (String.ofList value))

inductive OptionArgument where
  | help
  | option (option : RunOption) (attached : Option String)
  | unknown

def readOption (argument : List Char) : OptionArgument :=
  match argument with
  | '-' :: '-' :: text =>
    let (name, attached) := splitName text
    if name = "help".toList && attached.isNone then .help
    else
      match RunOption.ofName? name with
      | some option => .option option attached
      | none => .unknown
  | '-' :: 'h' :: _ => .help
  | '-' :: letter :: text =>
    match RunOption.ofLetter? letter with
    | some option =>
      .option option (match text with
        | [] => none
        | '=' :: value => some (String.ofList value)
        | value => some (String.ofList value))
    | none => .unknown
  | _ => .unknown

def readRun : GivenOptions → List String → Option Command
  | given, [] => given.toCommand?
  | given, argument :: rest =>
    if argument = "--" then if rest.isEmpty then given.toCommand? else none
    else
      match readOption argument.toList with
      | .help => some (.help .run)
      | .unknown => none
      | .option option (some value) => do readRun (← given.add? option value) rest
      | .option option none =>
        match rest with
        | [] => none
        | value :: rest =>
          if isOption value then none
          else do readRun (← given.add? option value) rest

/-! ## Other commands -/

def asksHelp (argument : String) : Bool :=
  argument = "--help" || argument.toList.take 2 = ['-', 'h']

def readPlainCommand (command : Command) (topic : Topic) : List String → Option Command
  | [] => some command
  | argument :: rest =>
    if asksHelp argument then some (.help topic)
    else if argument = "--" && rest.isEmpty then some command
    else none

/-- The key to describe: the one argument, which may follow two dashes. -/
def readDescribe : Option String → List String → Option Command
  | key, [] => key.map Command.describe
  | key, argument :: rest =>
    if argument = "--" then
      match key, rest with
      | some key, [] => some (.describe key)
      | none, [key] => some (.describe key)
      | _, _ => none
    else if asksHelp argument then some (.help .describe)
    else if isOption argument || key.isSome then none
    else readDescribe (some argument) rest

def readHelp : List String → Option Command
  | [] => some (.help .program)
  | ["list"] => some (.help .list)
  | ["describe"] => some (.help .describe)
  | ["run"] => some (.help .run)
  | _ => none

/-- The command that the arguments make; none if they make none. -/
def readCommand : List String → Option Command
  | [] => none
  | argument :: rest =>
    if asksHelp argument then some (.help .program)
    else if argument = "--version" || argument.toList.take 2 = ['-', 'V'] then some .version
    else if argument = "list" then readPlainCommand .list .list rest
    else if argument = "describe" then readDescribe none rest
    else if argument = "run" then readRun .none rest
    else if argument = "help" then readHelp rest
    else none

end CommandLine

end Sluice
