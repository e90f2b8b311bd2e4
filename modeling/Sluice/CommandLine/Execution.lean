import Sluice.Catalog
import Sluice.CommandLine.Arguments
import Sluice.CommandLine.RunFile
import Sluice.Ndjson

/-!
# The command line

The commands list the functions, describe one, or run one over files and records of the disk and
write what it puts out to a folder: a file of records for each port with records, and a folder of
files for each port with files.  Everything is a function of the arguments and the disk.
-/

set_option autoImplicit false

namespace Sluice

namespace CommandLine

/-- What a command leaves behind. -/
structure Effect where
  code : Nat
  stdout : String
  stderr : String
  disk : Disk

/-! ## Texts -/

def programName : String := "portflow"
def programVersion : String := "0.1.0"

def helpText : Topic → String
  | .program => "Run record and file transformation functions

Usage: portflow <COMMAND>

Commands:
  list      List every registered function
  describe  Print a function's spec as YAML
  run       Run one function over local inputs
  help      Print this message or the help of the given subcommand(s)

Options:
  -h, --help     Print help
  -V, --version  Print version
"
  | .list => "List every registered function

Usage: portflow list

Options:
  -h, --help  Print help
"
  | .describe => "Print a function's spec as YAML

Usage: portflow describe <KEY>

Arguments:
  <KEY>  Function key (e.g. parseCSV)

Options:
  -h, --help  Print help
"
  | .run => "Run one function over local inputs

Usage: portflow run [OPTIONS] --config <CONFIG> --output <OUTPUT>

Options:
  -c, --config <CONFIG>    Path to a run file naming the function and its configuration
  -f, --file <FILE>        File fed to the default input port (repeatable)
  -r, --records <RECORDS>  NDJSON file whose lines are fed to the default input port as records
  -o, --output <OUTPUT>    Directory receiving one NDJSON file and one folder per output port
  -h, --help               Print help
"

def padded (text : String) (width : Nat) : String :=
  text ++ String.ofList (List.replicate (width - text.length) ' ')

def listLine (spec : FunctionSpec) : String :=
  padded spec.key 18 ++ " " ++ padded spec.category 6 ++ " " ++ spec.name ++ "\n"

/-- One member of a description; the lists of the built-in functions are empty. -/
def describeLine (name : String) : Json → String
  | .text text => name ++ ": " ++ text ++ "\n"
  | json => name ++ ": " ++ json.write ++ "\n"

def describeText (spec : FunctionSpec) : String :=
  String.join (spec.members.map fun pair => describeLine pair.1 pair.2)

/-! ## Running a function -/

def unknownFunction (key : String) : String := "Unknown function '" ++ key ++ "'"

def loadRunFile (disk : Disk) (path : String) : Except String RunFile :=
  match disk.readText path with
  | .error fault => .error ("Failed to read " ++ path ++ ": " ++ fault.message)
  | .ok text =>
    match RunFile.read? text with
    | some run => .ok run
    | none => .error ("Failed to parse " ++ path)

def openFailed (path : String) (fault : StreamFault) : String :=
  "Failed to open " ++ path ++ ": " ++ fault.message

def openFiles (disk : Disk) : List String → Except String (List Entry)
  | [] => .ok []
  | path :: rest =>
    match SourceFile.atPath disk path with
    | .error fault => .error (openFailed path fault)
    | .ok file => do .ok (.file file :: (← openFiles disk rest))

def loadRecords (disk : Disk) (path : String) : Except String (List Record) :=
  match disk.find path with
  | .error fault => .error (openFailed path fault)
  | .ok (place, _) =>
    let delivery := SourceFile.deliver disk ⟨path, .stored place⟩
    (Ndjson.read delivery).mapError fun fault =>
      "Failed to read records from " ++ path ++ ": " ++ fault.message

/-- The entries of a run: the files, and then the records. -/
def loadEntries (disk : Disk) (arguments : RunArguments) : Except String (List Entry) := do
  let files ← openFiles disk arguments.files
  match arguments.records with
  | none => .ok files
  | some path => .ok (files ++ (← loadRecords disk path).map Entry.record)

/-! ## Writing the output -/

/-- A disk that is being written and the lines that tell of it. -/
structure Written where
  disk : Disk
  lines : String

/-- Goes on from what was written, and keeps it when it fails. -/
abbrev Write := ExceptT String (StateM Written)

namespace Write

def pathIn (folder name : String) : Write String :=
  match Path.destination folder name with
  | .ok path => return path
  | .error failure => throw failure.message

def makeFolders (path : String) : Write Unit := do
  let (outcome, disk) := (← get).disk.createFolders path
  modify fun written => { written with disk := disk }
  match outcome with
  | .ok () => return ()
  | .error fault => throw ("Failed to create " ++ path ++ ": " ++ fault.message)

/-- Writes a file and tells of it; `verb` says what fails when it cannot be made. -/
def makeFile (verb path line : String) (bytes : Bytes) : Write Unit := do
  match (← get).disk.write path bytes with
  | .error fault => throw ("Failed to " ++ verb ++ " " ++ path ++ ": " ++ fault.message)
  | .ok disk => modify fun written => ⟨disk, written.lines ++ line ++ " -> " ++ path ++ "\n"⟩

def recordPort (folder port : String) (records : List Record) : Write Unit := do
  let path ← pathIn folder (port ++ ".ndjson")
  makeFile "create" path (toString records.length ++ " records")
    (Utf8.encode (Ndjson.write records))

def filesOf (folder : String) : List OutputFile → Write Unit
  | [] => return ()
  | file :: rest => do
    let path ← pathIn folder file.name
    makeFile "write" path (toString file.bytes.length ++ " bytes") file.bytes
    filesOf folder rest

def recordPorts (folder : String) : List (String × List Record) → Write Unit
  | [] => return ()
  | (port, records) :: rest => do
    recordPort folder port records
    recordPorts folder rest

def filePorts (folder : String) : List (String × List OutputFile) → Write Unit
  | [] => return ()
  | (port, files) :: rest => do
    let inner ← pathIn folder port
    makeFolders inner
    filesOf inner files
    filePorts folder rest

def output (folder : String) (output : Output) : Write Unit := do
  makeFolders folder
  recordPorts folder output.recordPorts
  filePorts folder output.filePorts

end Write

/-! ## Commands -/

def failed (disk : Disk) (stdout message : String) : Effect :=
  ⟨1, stdout, "Error: " ++ message ++ "\n", disk⟩

def prepare (catalog : Catalog) (disk : Disk) (arguments : RunArguments) :
    Except String (RunFile × CatalogEntry × List Entry) := do
  let run ← loadRunFile disk arguments.settings
  match catalog.find? run.function with
  | none => .error (unknownFunction run.function)
  | some found => .ok (run, found, ← loadEntries disk arguments)

def runFunction (catalog : Catalog) (disk : Disk) (arguments : RunArguments) : Effect :=
  match prepare catalog disk arguments with
  | .error message => failed disk "" message
  | .ok (run, found, entries) =>
    match found.run 0 run.settings (Session.on (Session.inputsOf entries) disk .none) with
    | (.error failure, session) =>
      failed session.disk "" (run.function ++ " failed: " ++ failure.message)
    | (.ok (), session) =>
      match (Write.output arguments.output session.output).run ⟨session.disk, ""⟩ with
      | (.error message, written) => failed written.disk written.lines message
      | (.ok (), written) => ⟨0, written.lines, "", written.disk⟩

def perform (catalog : Catalog) (disk : Disk) : Command → Effect
  | .list => ⟨0, String.join (catalog.specs.map listLine), "", disk⟩
  | .describe key =>
    match catalog.find? key with
    | some found => ⟨0, describeText found.spec, "", disk⟩
    | none => failed disk "" (unknownFunction key)
  | .run arguments => runFunction catalog disk arguments
  | .help topic => ⟨0, helpText topic, "", disk⟩
  | .version => ⟨0, programName ++ " " ++ programVersion ++ "\n", "", disk⟩

def execute (arguments : List String) (disk : Disk) : Effect :=
  match readCommand arguments with
  | some command => perform .builtins disk command
  | none => ⟨2, "", helpText .program, disk⟩

end CommandLine

end Sluice
