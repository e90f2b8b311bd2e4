import Sluice.Script.Fault

/-!
# Failures

Why a function fails, how a failure is classified, and its text.  Only a failure that concerns one
entry can be skipped; a failure of the settings or of the streams ends the run.
-/

set_option autoImplicit false

namespace Sluice

inductive StreamFault where
  | notFound
  | alreadyExists
  | notDirectory
  | isDirectory
  | invalidInput
  | nameTooLong
  | notUtf8
  | noFileName (path : String)
  | told (message : String)
  deriving DecidableEq, Repr

def StreamFault.message : StreamFault → String
  | notFound => "No such file or directory (os error 2)"
  | alreadyExists => "File exists (os error 17)"
  | notDirectory => "Not a directory (os error 20)"
  | isDirectory => "Is a directory (os error 21)"
  | invalidInput => "file name contained an unexpected NUL byte"
  | nameTooLong => "File name too long (os error 36)"
  | notUtf8 => "stream did not contain valid UTF-8"
  | noFileName path => path ++ " has no file name"
  | told message => message

/-- Where a row begins: rows, lines and bytes before it. -/
structure RowPosition where
  row : Nat
  line : Nat
  byte : Nat
  deriving DecidableEq, Repr

inductive DelimitedFault where
  | stream (fault : StreamFault)
  /-- A cell is no text: its index, and the bytes before its first malformed sequence. -/
  | notUtf8 (position : RowPosition) (cell validBytes : Nat)
  deriving DecidableEq, Repr

def DelimitedFault.message : DelimitedFault → String
  | stream fault => fault.message
  | notUtf8 position cell validBytes =>
    "CSV parse error: record " ++ toString position.row ++ " (line " ++ toString position.line ++
      ", field: " ++ toString cell ++ ", byte: " ++ toString position.byte ++
      "): invalid utf-8: invalid UTF-8 in field " ++ toString cell ++ " near byte index " ++
      toString validBytes

inductive FailureKind where
  | configuration
  | conversion
  | typeMismatch
  | unsupported
  | io
  deriving DecidableEq, Repr

inductive Failure where
  | settings (key reason : String)
  | conversion (field datatype raw reason : String)
  | typeMismatch (expected actual : String)
  | unsupported (what : String)
  | outOfBounds (field : String) (start stop line length : Nat)
  | script (source : String) (fault : ScriptFault)
  | pattern
  | delimited (fault : DelimitedFault)
  | port (port reason : String)
  | stream (fault : StreamFault)
  deriving DecidableEq, Repr

namespace Failure

def kind : Failure → FailureKind
  | settings .. => .configuration
  | conversion .. => .conversion
  | typeMismatch .. => .typeMismatch
  | unsupported .. => .unsupported
  | outOfBounds .. => .unsupported
  | script .. => .unsupported
  | pattern => .unsupported
  | delimited .. => .io
  | port .. => .io
  | stream .. => .io

/-- The failure concerns one entry and not the whole run. -/
def isEntryScoped (failure : Failure) : Bool :=
  match failure.kind with
  | .configuration => false
  | .io => false
  | _ => true

def message : Failure → String
  | settings key reason => "Invalid configuration for '" ++ key ++ "': " ++ reason
  | conversion field datatype raw reason =>
    "Cannot convert '" ++ raw ++ "' to " ++ datatype ++ " for field '" ++ field ++ "': " ++ reason
  | typeMismatch expected actual => "Type mismatch: expected " ++ expected ++ ", got " ++ actual
  | unsupported what => "Unsupported operation: " ++ what
  | outOfBounds field start stop line length =>
    "Column '" ++ field ++ "' slice [" ++ toString start ++ ", " ++ toString stop ++
      ") is out of bounds on line " ++ toString line ++ " (length " ++ toString length ++ ")"
  | script source fault =>
    "Script error in " ++ "`" ++ source ++ "`" ++ ": " ++ fault.message
  | pattern => "Invalid pattern"
  | delimited fault => "Delimited text error: " ++ fault.message
  | port name reason => "Port '" ++ name ++ "': " ++ reason
  | stream fault => "IO error: " ++ fault.message

end Failure

/-- What a computation yields, or why it fails. -/
abbrev Outcome (α : Type) := Except Failure α

end Sluice
