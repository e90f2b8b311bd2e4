import Sluice.Flow.Entry
import Sluice.Flow.Output

/-!
# Sessions

The surroundings of a run: the input ports, the output with at most one file being written, the
disk, a plan of faults, and the journal of all calls that the run has made.  The plan decides from
the journal and the call at hand whether the call fails.  A failing close still closes.

`Run` is a computation in a session that may fail; the session outlives the failure.
-/

set_option autoImplicit false

namespace Sluice

/-- The port that is read, and written, where no other is named. -/
def defaultPort : String := "default"

/-- A queue of entries, readable once it is opened. -/
structure InputPort where
  waiting : List Entry
  opened : Bool

/-- A call of a run on its surroundings. -/
inductive PortCall where
  | findInput (port : String)
  | openInput (port : String)
  | next (port : String)
  | writeRecord (port : String)
  | newFile (port name : String)
  | writeFile (bytes : Bytes)
  | flushFile
  | closeFile
  | close
  deriving DecidableEq, Repr

structure PortEvent where
  call : PortCall
  succeeded : Bool
  deriving DecidableEq, Repr

/-- Which calls fail, given the earlier calls, the latest first.  Writing to a file and flushing it
fail as streams, all other calls as ports. -/
structure FaultPlan where
  ofPort : List PortEvent → PortCall → Option Failure
  ofStream : List PortEvent → PortCall → Option StreamFault

def FaultPlan.none : FaultPlan := ⟨fun _ _ => .none, fun _ _ => .none⟩

/-- A file being written: its published part and, in front of that, the pieces that wait to be
written together, the latest first. -/
structure OpenFile where
  port : String
  name : String
  bytes : Bytes
  pending : List Bytes
  pendingSize : Nat
  deriving DecidableEq, Repr

structure Session where
  inputs : List (String × InputPort)
  output : Output
  openFile? : Option OpenFile
  disk : Disk
  plan : FaultPlan
  /-- All calls, the latest first. -/
  journal : List PortEvent

namespace Session

def on (inputs : List (String × InputPort)) (disk : Disk) (plan : FaultPlan) : Session :=
  ⟨inputs, .empty, none, disk, plan, []⟩

def inputsOf (entries : List Entry) : List (String × InputPort) := [(defaultPort, ⟨entries, false⟩)]

def ofEntries (entries : List Entry) : Session := on (inputsOf entries) .empty .none

def waiting (session : Session) (port : String) : List Entry :=
  ((session.inputs.lookup port).map InputPort.waiting).getD []

end Session

/-- A computation in a session that may fail. -/
def Run (α : Type) : Type := Session → Except Failure α × Session

namespace Run

instance : Monad Run where
  pure value := fun session => (.ok value, session)
  bind action next := fun session =>
    match action session with
    | (.ok value, session) => next value session
    | (.error failure, session) => (.error failure, session)

def ofOutcome {α : Type} (outcome : Outcome α) : Run α := fun session => (outcome, session)

def fail {α : Type} (failure : Failure) : Run α := ofOutcome (.error failure)

/-- The outcome of a computation as a value. -/
def attempt {α : Type} (action : Run α) : Run (Outcome α) := fun session =>
  let (outcome, session) := action session
  (.ok outcome, session)

def current : Run Session := fun session => (.ok session, session)

def currentFile : Run (Option OpenFile) := fun session => (.ok session.openFile?, session)

def modify (change : Session → Session) : Run Unit := fun session => (.ok (), change session)

def note (call : PortCall) (succeeded : Bool) : Run Unit :=
  modify fun session => { session with journal := ⟨call, succeeded⟩ :: session.journal }

/-- Makes a call: it fails as the plan says or else as the action does, and the journal holds it
either way. -/
def call {α : Type} (call : PortCall) (action : Session → Outcome (α × Session)) : Run α := do
  let session ← current
  let outcome : Outcome (α × Session) := match session.plan.ofPort session.journal call with
    | some failure => .error failure
    | none => action session
  match outcome with
  | .error failure =>
    note call false
    fail failure
  | .ok (value, session) =>
    modify fun _ => session
    note call true
    pure value

/-! ## Input -/

def noSuchPort (port : String) : Failure := .port port "no such input port"

def findInput (port : String) : Run Unit :=
  call (.findInput port) fun session =>
    match session.inputs.lookup port with
    | some _ => .ok ((), session)
    | none => .error (noSuchPort port)

def setPort (port : String) (input : InputPort) (session : Session) : Session :=
  { session with inputs := setPair port input session.inputs }

def openInput (port : String) : Run Unit :=
  call (.openInput port) fun session =>
    match session.inputs.lookup port with
    | some input => .ok ((), setPort port { input with opened := true } session)
    | none => .error (noSuchPort port)

def hasNext (port : String) : Run Bool := do
  match (← current).inputs.lookup port with
  | some input => pure (input.opened && !input.waiting.isEmpty)
  | none => pure false

def next (port : String) : Run Entry :=
  call (.next port) fun session =>
    match session.inputs.lookup port with
    | none => .error (noSuchPort port)
    | some ⟨_, false⟩ => .error (.port defaultPort "read before open")
    | some ⟨[], true⟩ => .error (.port defaultPort "no more entries")
    | some ⟨entry :: rest, true⟩ => .ok (entry, setPort port ⟨rest, true⟩ session)

def deliver (file : SourceFile) : Run Delivery := do
  pure (file.deliver (← current).disk)

/-! ## Output -/

def writeRecord (port : String) (record : Record) : Run Unit :=
  call (.writeRecord port) fun session => do
    .ok ((), { session with output := ← session.output.addRecord port record })

/-- Opens a file on a port; it is published when it is closed. -/
def newFile (port name : String) : Run Unit :=
  call (.newFile port name) fun session => do
    let output ← session.output.openFile port
    .ok ((), { session with output := output, openFile? := some ⟨port, name, [], [], 0⟩ })

def modifyFile (change : OpenFile → OpenFile) : Run Unit :=
  modify fun session => { session with openFile? := session.openFile?.map change }

/-- Makes a call on the stream of the file being written. -/
def stream (call : PortCall) (change : OpenFile → OpenFile) : Run (Except StreamFault Unit) := do
  let session ← current
  match session.plan.ofStream session.journal call with
  | some fault =>
    note call false
    pure (.error fault)
  | none =>
    modifyFile change
    note call true
    pure (.ok ())

def writeBytes (bytes : Bytes) : Run (Except StreamFault Unit) :=
  stream (.writeFile bytes) fun file => { file with bytes := file.bytes ++ bytes }

/-- Publishes the open file.  A close that fails publishes it first. -/
def closeFile : Run Unit := do
  match ← currentFile with
  | none => pure ()
  | some file =>
    modify fun session => { session with
      output := session.output.publish file.port ⟨file.name, file.bytes⟩, openFile? := none }
    call .closeFile fun session => .ok ((), session)

/-- Gives up the open file without publishing it. -/
def dropFile : Run Unit := modify fun session => { session with openFile? := none }

/-- Closes the output.  A close that fails closes it first. -/
def closeOutput : Run Unit := do
  modify fun session => { session with output := session.output.close }
  call .close fun session => .ok ((), session)

/-! ## Buffered writing -/

/-- How many bytes wait to be written together. -/
def bufferMax : Nat := 8192

/-- Writes what waits.  It goes on waiting if that fails. -/
def writePending : Run (Except StreamFault Unit) := do
  match ← currentFile with
  | none => pure (.ok ())
  | some file =>
    if file.pendingSize = 0 then pure (.ok ())
    else
      match ← writeBytes file.pending.reverse.flatten with
      | .error fault => pure (.error fault)
      | .ok () =>
        modifyFile fun file => { file with pending := [], pendingSize := 0 }
        pure (.ok ())

/-- Lets a piece wait; what waits is written first if the piece does not fit behind it. -/
def writePiece (piece : Bytes) : Run (Except StreamFault Unit) := do
  match ← currentFile with
  | none => pure (.ok ())
  | some file =>
    let room := decide (file.pendingSize + piece.length ≤ bufferMax)
    let outcome ← if room then pure (.ok ()) else writePending
    match outcome with
    | .error fault => pure (.error fault)
    | .ok () =>
      modifyFile fun file => { file with
        pending := piece :: file.pending, pendingSize := file.pendingSize + piece.length }
      pure (.ok ())

def writePieces : List Bytes → Run (Except StreamFault Unit)
  | [] => pure (.ok ())
  | piece :: rest => do
    match ← writePiece piece with
    | .error fault => pure (.error fault)
    | .ok () => writePieces rest

def flushFile : Run (Except StreamFault Unit) := do
  match ← writePending with
  | .error fault => pure (.error fault)
  | .ok () => stream .flushFile id

end Run

end Sluice
