import Sluice.Exchange
import Sluice.Text.Lines

/-!
# Records as lines of JSON

One object per line.  Blank lines are skipped when reading.
-/

set_option autoImplicit false

namespace Sluice

namespace Ndjson

inductive Fault where
  | json
  | stream (fault : StreamFault)
  | notObject (line : Nat)
  deriving DecidableEq, Repr

def Fault.message : Fault → String
  | json => "JSON error"
  | stream fault => "IO error: " ++ fault.message
  | notObject line => "Line " ++ toString line ++ ": expected a JSON object"

def readLine (number : Nat) (line : List Char) : Except Fault Record :=
  match Json.read? line with
  | none => .error .json
  | some json =>
    match Record.ofJson? json with
    | some record => .ok record
    | none => .error (.notObject number)

/-- The records of the lines from a number onward, and then the fault that the lines end with. -/
def readLines (fault : Option StreamFault) :
    Nat → List (Except StreamFault (List Char)) → Except Fault (List Record)
  | _, [] =>
    match fault with
    | some fault => .error (.stream fault)
    | none => .ok []
  | _, .error fault :: _ => .error (.stream fault)
  | number, .ok line :: rest =>
    if line.all isBlank then readLines fault (number + 1) rest
    else do
      let record ← readLine number line
      .ok (record :: (← readLines fault (number + 1) rest))

def read (delivery : Delivery) : Except Fault (List Record) :=
  readLines delivery.fault 1 delivery.lines

def writeLine (record : Record) : List Char := record.toJson.chars ++ ['\n']

def write (records : List Record) : List Char := records.flatMap writeLine

structure Writer where
  text : List Char
  written : Nat
  deriving DecidableEq, Repr

def Writer.empty : Writer := ⟨[], 0⟩

def Writer.add (writer : Writer) (records : List Record) : Writer :=
  ⟨writer.text ++ write records, writer.written + records.length⟩

end Ndjson

end Sluice
