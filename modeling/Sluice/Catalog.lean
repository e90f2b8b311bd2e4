import Sluice.Derivation
import Sluice.Disk.Destination
import Sluice.Routing.Condition
import Sluice.Table.FixedWidth
import Sluice.Table.Writing

/-!
# The catalog of functions

A function is registered with a description.  A key may be registered more than once; the first one
is found.  A function is told how often its instance was run before.
-/

set_option autoImplicit false

namespace Sluice

/-- The description of a function.  Without declared ports the default ports are meant. -/
structure FunctionSpec where
  key : String
  name : String
  description : String
  category : String
  inputPorts : List String
  outputPorts : List String
  deriving DecidableEq, Repr

namespace FunctionSpec

/-- The members of a description, in the order in which they are written. -/
def members (spec : FunctionSpec) : List (String × Json) :=
  [("key", .text spec.key), ("name", .text spec.name), ("description", .text spec.description),
    ("category", .text spec.category), ("executionMode", .text "sync"),
    ("inputPorts", .list (spec.inputPorts.map Json.text)),
    ("outputPorts", .list (spec.outputPorts.map Json.text))]

end FunctionSpec

structure CatalogEntry where
  spec : FunctionSpec
  run : Nat → Settings → Run Unit

structure Catalog where
  entries : List CatalogEntry

namespace Catalog

def empty : Catalog := ⟨[]⟩

def register (catalog : Catalog) (entry : CatalogEntry) : Catalog :=
  ⟨catalog.entries ++ [entry]⟩

def find? (catalog : Catalog) (key : String) : Option CatalogEntry :=
  catalog.entries.find? fun entry => entry.spec.key = key

def specs (catalog : Catalog) : List FunctionSpec := catalog.entries.map CatalogEntry.spec

def contains (catalog : Catalog) (key : String) : Bool := (catalog.find? key).isSome

def size (catalog : Catalog) : Nat := catalog.entries.length

end Catalog

/-- A function of the default ports that is set up anew for each run. -/
structure BuiltinFunction where
  key : String
  name : String
  description : String
  category : String
  settle : Settings → Outcome Stage

namespace BuiltinFunction

def execute (function : BuiltinFunction) (settings : Settings) : Run Unit :=
  Run.perform (function.settle settings)

def entry (function : BuiltinFunction) : CatalogEntry :=
  ⟨⟨function.key, function.name, function.description, function.category, [], []⟩,
    fun _ => function.execute⟩

end BuiltinFunction

/-- Records to the ports that the rules on their fields choose. -/
def routeByField : BuiltinFunction :=
  ⟨"splitOnField", "Split Data by Field", "Splits the input data", "Data", FieldRouting.settle⟩

/-- Records to the ports that the conditions on their fields choose. -/
def routeByCondition : BuiltinFunction :=
  ⟨"splitOnFieldJS", "Split Data by Field - JS",
    "Splits the input data using Javascript for conditions/rules", "Data",
    ConditionRouting.settle CompiledRouting.handleRecord⟩

/-- Files, byte for byte, to the ports that the conditions on their names choose. -/
def routeFiles : BuiltinFunction :=
  ⟨"fileRouter", "File Router",
    "Routes input files to different outputs based on certain conditions", "File",
    ConditionRouting.settle CompiledRouting.handleFile⟩

/-- Records with the fields that rules compute. -/
def transformRecords : BuiltinFunction :=
  ⟨"transformData", "Adds a field", "Adds a field via expression based on existing field", "Data",
    DeriveRule.settle⟩

/-- Delimited files to records. -/
def parseDelimited : BuiltinFunction :=
  ⟨"parseCSV", "Parses Delimited Text File",
    "Parses delimited text files and outputs the records", "File", DelimitedFormat.settle⟩

/-- Files of fixed width to records. -/
def parseFixedWidth : BuiltinFunction :=
  ⟨"parseFixedLength", "Parses Fixed Length Text",
    "Parses a fixed length text file and outputs the records", "Data", FixedWidthFormat.settle⟩

/-- Records to one delimited file. -/
def generateDelimited : BuiltinFunction :=
  ⟨"generateCSV", "Writes a file to the data pipeline", "Writes a file to the data pipeline",
    "Data", DelimitedLayout.settle⟩

/-- Files to a folder of the disk. -/
def saveFiles : BuiltinFunction :=
  ⟨"writeFileToDisk", "Write File to Disk", "Writes all input files into the destinationFolder",
    "File", Path.settle⟩

def builtinFunctions : List BuiltinFunction :=
  [routeByField, routeByCondition, routeFiles, transformRecords, parseDelimited, parseFixedWidth,
    generateDelimited, saveFiles]

def Catalog.builtins : Catalog := ⟨builtinFunctions.map BuiltinFunction.entry⟩

end Sluice
