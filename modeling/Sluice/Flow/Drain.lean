import Sluice.Flow.Session
import Sluice.Settings

/-!
# Draining and closing

The frame of every function: the output is closed once whatever happens, the default input port is
drained entry by entry, and a failure that concerns one entry alone can be skipped.
-/

set_option autoImplicit false

namespace Sluice

namespace Run

/-- Runs a body and then closes the output.  A failure of the body comes before one of the close. -/
def withOutput (body : Run Unit) : Run Unit := do
  let outcome ← attempt body
  let closed ← attempt closeOutput
  ofOutcome (outcome.bind fun _ => closed)

/-- How many entries were taken and how many of them were skipped. -/
structure DrainCounts where
  entries : Nat
  skipped : Nat
  deriving DecidableEq, Repr

/-- Whether a run goes on after an entry has failed. -/
def skips (policy : Settings.EntryPolicy) (failure : Failure) : Bool :=
  decide (policy = .skip) && failure.isEntryScoped

def drainEntries (policy : Settings.EntryPolicy) (handle : Entry → Run Unit) :
    Nat → DrainCounts → Run DrainCounts
  | 0, counts => pure counts
  | most + 1, counts => do
    if ← hasNext defaultPort then
      let entry ← next defaultPort
      match ← attempt (handle entry) with
      | .ok () => drainEntries policy handle most ⟨counts.entries + 1, counts.skipped⟩
      | .error failure =>
        if skips policy failure then
          drainEntries policy handle most ⟨counts.entries + 1, counts.skipped + 1⟩
        else fail failure
    else pure counts

/-- Hands every entry of the default input port to `handle`. -/
def drain (policy : Settings.EntryPolicy) (handle : Entry → Run Unit) : Run DrainCounts := do
  findInput defaultPort
  openInput defaultPort
  drainEntries policy handle ((← current).waiting defaultPort).length ⟨0, 0⟩

def writeChunks : Nat → Bytes → Run (Except StreamFault Unit)
  | 0, _ => pure (.ok ())
  | most + 1, bytes =>
    if bytes.isEmpty then pure (.ok ())
    else do
      match ← writeBytes (bytes.take bufferMax) with
      | .error fault => pure (.error fault)
      | .ok () => writeChunks most (bytes.drop bufferMax)

/-- Writes what a reader delivers to the open file and tells how much that was. -/
def copyDelivery (delivery : Delivery) : Run (Except StreamFault Nat) := do
  match ← writeChunks delivery.bytes.length delivery.bytes with
  | .error fault => pure (.error fault)
  | .ok () =>
    match delivery.fault with
    | some fault => pure (.error fault)
    | none => pure (.ok delivery.bytes.length)

def ofStream {α : Type} (wrap : StreamFault → Failure) (outcome : Except StreamFault α) :
    Run α :=
  match outcome with
  | .ok value => pure value
  | .error fault => fail (wrap fault)

/-- Copies what a reader delivers into a new file on a port.  The file is closed and published on
every path; a failure of the copying comes before one of the close. -/
def copyInto (port name : String) (delivery : Delivery) : Run Nat := do
  newFile port name
  let copied ← copyDelivery delivery
  let closed ← attempt closeFile
  let size ← ofStream .stream copied
  ofOutcome closed
  pure size

end Run

end Sluice
