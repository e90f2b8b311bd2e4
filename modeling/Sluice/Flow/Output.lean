import Sluice.Failure
import Sluice.Record
import Sluice.Text.Utf8

/-!
# Outputs

What a run has put out: the records and the published files of each port, the ports in the order of
their first use, and how often the output was closed.  Nothing is accepted after the first close.
-/

set_option autoImplicit false

namespace Sluice

structure OutputFile where
  name : String
  bytes : Bytes
  deriving DecidableEq, Repr

/-- Adds items at the end of what a port holds; a new port comes last. -/
def addToPort {α : Type} (port : String) (items : List α) :
    List (String × List α) → List (String × List α)
  | [] => [(port, items)]
  | (name, held) :: rest =>
    if name = port then (name, held ++ items) :: rest
    else (name, held) :: addToPort port items rest

theorem lookup_addToPort {α : Type} (port other : String) (items : List α)
    (ports : List (String × List α)) :
    ((addToPort port items ports).lookup other).getD [] =
      (ports.lookup other).getD [] ++ if other = port then items else [] := by
  induction ports with
  | nil =>
    by_cases same : other = port
    · simp [addToPort, same]
    · simp [addToPort, List.lookup_cons, beq_eq_false_iff_ne.2 same, same]
  | cons first rest ih =>
    obtain ⟨name, held⟩ := first
    by_cases hit : name = port
    · subst hit
      by_cases same : other = name
      · simp [addToPort, same]
      · simp [addToPort, List.lookup_cons, beq_eq_false_iff_ne.2 same, same]
    · by_cases same : other = name
      · subst same
        simp [addToPort, hit]
      · simp [addToPort, hit, List.lookup_cons, beq_eq_false_iff_ne.2 same, ih]

structure Output where
  recordPorts : List (String × List Record)
  filePorts : List (String × List OutputFile)
  closes : Nat

namespace Output

def empty : Output := ⟨[], [], 0⟩

instance : Inhabited Output := ⟨empty⟩

def records (output : Output) (port : String) : List Record :=
  (output.recordPorts.lookup port).getD []

def files (output : Output) (port : String) : List OutputFile :=
  (output.filePorts.lookup port).getD []

def file? (output : Output) (port name : String) : Option OutputFile :=
  (output.files port).find? fun file => file.name = name

def recordCount (output : Output) : Nat :=
  output.recordPorts.foldl (fun count port => count + port.2.length) 0

def isClosed (output : Output) : Bool := decide (0 < output.closes)

/-- The failure of writing to a port of a closed output. -/
def writeAfterClose (port : String) : Failure := .port port "write after close"

def checkOpen (output : Output) (port : String) : Outcome Unit :=
  if output.isClosed then .error (writeAfterClose port) else .ok ()

def addRecord (output : Output) (port : String) (record : Record) : Outcome Output := do
  output.checkOpen port
  .ok { output with recordPorts := addToPort port [record] output.recordPorts }

/-- Opening a file lists its port, also if the file is never published. -/
def openFile (output : Output) (port : String) : Outcome Output := do
  output.checkOpen port
  .ok { output with filePorts := addToPort port [] output.filePorts }

def publish (output : Output) (port : String) (file : OutputFile) : Output :=
  { output with filePorts := addToPort port [file] output.filePorts }

def close (output : Output) : Output := { output with closes := output.closes + 1 }

end Output

end Sluice
