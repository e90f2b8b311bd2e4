import Sluice.Catalog
import Sluice.Proofs.Flow.Run
import Sluice.Proofs.Outcome

/-!
# The stages of the functions

What the settings of each function come to.  All functions handle their entries and do nothing else
around that, except that the writer of delimited text keeps one file open.  So a relation between
sessions that allows for a few kinds of calls allows for every handler and for every function.
-/

set_option autoImplicit false

namespace Sluice

theorem Run.Streams.writeRow {relation : Session → Session → Prop} [IsPreorder Session relation]
    (streams : Run.Streams relation) (delimiter : UInt8) (cells : List String) :
    Run.Within relation (Run.writeRow delimiter cells) :=
  (streams.writePieces _).bind fun written => Run.Within.ofStream written

theorem Run.Streams.writeHeader {relation : Session → Session → Prop}
    [IsPreorder Session relation] (streams : Run.Streams relation) (layout : DelimitedLayout) :
    Run.Within relation layout.writeHeader := by
  rw [DelimitedLayout.writeHeader]
  split
  · exact streams.writeRow _ _
  · exact Run.Within.pure ()

/-- What is put out, record by record or a whole file at once, stays within the relation. -/
structure Run.Puts (relation : Session → Session → Prop) : Prop where
  records : ∀ port record, Run.Within relation (Run.writeRecord port record)
  files : ∀ port name delivery, Run.Within relation (Run.copyInto port name delivery)

theorem Run.Inward.puts {relation : Session → Session → Prop} [IsPreorder Session relation]
    (inward : Run.Inward relation) : Run.Puts relation :=
  ⟨inward.writeRecord, inward.copyInto⟩

/-! ## Handling an entry -/

section Handling

open Run

variable {relation : Session → Session → Prop} [IsPreorder Session relation]

theorem Run.Puts.writeRecords (puts : Puts relation) (port : String) (records : List Record) :
    Within relation (writeRecords port records) := by
  induction records with
  | nil => exact Within.pure ()
  | cons record rest ih => exact (puts.records port record).bind fun _ => ih

theorem FieldRouting.handle_within (routing : FieldRouting) (puts : Puts relation)
    (entry : Entry) : Within relation (routing.handle entry) := by
  refine (Within.ofOutcome _).bind fun record => ?_
  exact (Within.ofOutcome _).bind fun port => puts.records port record

theorem CompiledRouting.handleRecord_within (routing : CompiledRouting) (puts : Puts relation)
    (entry : Entry) : Within relation (routing.handleRecord entry) := by
  refine (Within.ofOutcome _).bind fun record => ?_
  exact (Within.ofOutcome _).bind fun port => puts.records port record

theorem CompiledRouting.handleFile_within (routing : CompiledRouting) (puts : Puts relation)
    (entry : Entry) : Within relation (routing.handleFile entry) := by
  refine (Within.ofOutcome _).bind fun file => ?_
  refine (Within.ofOutcome _).bind fun port => ?_
  refine (Within.deliver file).bind fun delivery => ?_
  exact (puts.files port file.name delivery).bind fun _ => Within.pure ()

theorem CompiledDerivation.handle_within (derivation : CompiledDerivation) (puts : Puts relation)
    (entry : Entry) : Within relation (derivation.handle entry) := by
  refine (Within.ofOutcome _).bind fun record => ?_
  exact (Within.ofOutcome _).bind fun _ => puts.records _ _

theorem Run.Puts.handleTable (puts : Puts relation)
    (readFile : String → Delivery → Outcome (List Record)) (entry : Entry) :
    Within relation (handleTable readFile entry) := by
  refine (Within.ofOutcome _).bind fun file => ?_
  refine (Within.deliver file).bind fun delivery => ?_
  exact (Within.ofOutcome _).bind fun records => puts.writeRecords _ records

/-- Of what saving a file does, only the disk shows anything. -/
theorem Run.handleSaving_within
    (disk : ∀ session disk, relation session { session with disk := disk }) (folder : String)
    (entry : Entry) : Within relation (handleSaving folder entry) := by
  have creates : ∀ path : String, Within relation (onDisk fun disk => disk.create path) := by
    intro path session
    rw [onDisk, current_bind]
    cases session.disk.create path with
    | error fault => exact refl_of relation session
    | ok created => exact disk session created.2
  have saves : ∀ file, Within relation (saveFile folder file) := by
    intro file
    refine (Within.ofOutcome _).bind fun path => (creates path).bind fun place => ?_
    refine (Within.deliver file).bind fun delivery => ?_
    refine Within.bind (fun session => disk session _) fun _ => ?_
    split
    · exact Within.ofOutcome _
    · exact Within.pure _
  exact (Within.ofOutcome _).bind fun file => (saves file).bind fun _ => Within.pure ()

theorem DelimitedLayout.handle_within (layout : DelimitedLayout) (streams : Streams relation)
    (entry : Entry) : Within relation (layout.handle entry) :=
  (Within.ofOutcome _).bind fun _ => streams.writeRow _ _

/-- What is done with the file between its opening and its closing: all that is written, and at the
end what still waits. -/
def DelimitedLayout.filling (layout : DelimitedLayout) (policy : Settings.EntryPolicy) :
    Run (Outcome Unit) := do
  let written ← attempt (layout.stage policy).work
  let _ ← flushFile
  pure written

theorem DelimitedLayout.stage_run (layout : DelimitedLayout) (policy : Settings.EntryPolicy) :
    (layout.stage policy).run = (newFile defaultPort layout.filename >>= fun _ =>
      layout.filling policy >>= fun written =>
        attempt closeFile >>= fun closed => ofOutcome (written.bind fun _ => closed)) := by
  simp only [filling, bind_assoc, pure_bind_eq]
  rfl

theorem DelimitedLayout.filling_within (layout : DelimitedLayout) {policy : Settings.EntryPolicy}
    (streams : Streams relation) (drains : Within relation (drain policy layout.handle)) :
    Within relation (layout.filling policy) := by
  have work : Within relation (layout.stage policy).work := by
    refine (streams.writeHeader layout).bind fun _ => drains.bind fun _ => ?_
    exact streams.flushFile.bind fun flushed => Within.ofStream flushed
  exact work.attempt.bind fun written => streams.flushFile.bind fun _ => Within.pure written

end Handling

inductive HandlesAlone : (Entry → Run Unit) → Prop where
  | byField (routing : FieldRouting) : HandlesAlone routing.handle
  | byCondition (routing : CompiledRouting) : HandlesAlone routing.handleRecord
  | ofFiles (routing : CompiledRouting) : HandlesAlone routing.handleFile
  | byRules (derivation : CompiledDerivation) : HandlesAlone derivation.handle
  | ofTables (readFile : String → Delivery → Outcome (List Record)) :
      HandlesAlone (Run.handleTable readFile)
  | saving (folder : String) : HandlesAlone (Run.handleSaving folder)

theorem HandlesAlone.within {relation : Session → Session → Prop} [IsPreorder Session relation]
    {handle : Entry → Run Unit} (alone : HandlesAlone handle) (puts : Run.Puts relation)
    (disk : ∀ session disk, relation session { session with disk := disk }) (entry : Entry) :
    Run.Within relation (handle entry) := by
  cases alone with
  | byField routing => exact routing.handle_within puts entry
  | byCondition routing => exact routing.handleRecord_within puts entry
  | ofFiles routing => exact routing.handleFile_within puts entry
  | byRules derivation => exact derivation.handle_within puts entry
  | ofTables readFile => exact puts.handleTable readFile entry
  | saving folder => exact Run.handleSaving_within disk folder entry

/-! ## Stages -/

inductive BuiltinStage : Stage → Prop where
  | handling (policy : Settings.EntryPolicy) {handle : Entry → Run Unit}
      (alone : HandlesAlone handle) : BuiltinStage (.handling policy handle)
  | writing (layout : DelimitedLayout) (policy : Settings.EntryPolicy) :
      BuiltinStage (layout.stage policy)

theorem FieldRouting.settle_eq_ok {settings : Settings} {stage : Stage} :
    settle settings = .ok stage ↔ ∃ routing policy, ofSettings settings = .ok routing ∧
      settings.entryPolicy = .ok policy ∧ stage = .handling policy routing.handle := by
  simp only [settle, Outcome.bind_eq_ok, Except.ok.injEq]
  grind

theorem ConditionRouting.settle_eq_ok {handle : CompiledRouting → Entry → Run Unit}
    {settings : Settings} {stage : Stage} :
    settle handle settings = .ok stage ↔ ∃ routing policy compiled,
      ofSettings settings = .ok routing ∧ settings.entryPolicy = .ok policy ∧
        routing.compile = .ok compiled ∧ stage = .handling policy (handle compiled) := by
  simp only [settle, Outcome.bind_eq_ok, Except.ok.injEq]
  grind

theorem DeriveRule.settle_eq_ok {settings : Settings} {stage : Stage} :
    settle settings = .ok stage ↔ ∃ rules policy derivation, ofSettings settings = .ok rules ∧
      settings.entryPolicy = .ok policy ∧ compile rules = .ok derivation ∧
        stage = .handling policy derivation.handle := by
  simp only [settle, Outcome.bind_eq_ok, Except.ok.injEq]
  grind

theorem DelimitedFormat.settle_eq_ok {settings : Settings} {stage : Stage} :
    settle settings = .ok stage ↔ ∃ format policy, ofSettings settings = .ok format ∧
      settings.entryPolicy = .ok policy ∧
        stage = .handling policy (Run.handleTable format.readFile) := by
  simp only [settle, Outcome.bind_eq_ok, Except.ok.injEq]
  grind

theorem FixedWidthFormat.settle_eq_ok {settings : Settings} {stage : Stage} :
    settle settings = .ok stage ↔ ∃ format policy, ofSettings settings = .ok format ∧
      settings.entryPolicy = .ok policy ∧
        stage = .handling policy (Run.handleTable fun _ delivery => format.readFile delivery) := by
  simp only [settle, Outcome.bind_eq_ok, Except.ok.injEq]
  grind

theorem DelimitedLayout.settle_eq_ok {settings : Settings} {stage : Stage} :
    settle settings = .ok stage ↔ ∃ layout policy, ofSettings settings = .ok layout ∧
      settings.entryPolicy = .ok policy ∧ stage = layout.stage policy := by
  simp only [settle, Outcome.bind_eq_ok, Except.ok.injEq]
  grind

theorem Path.settle_eq_ok {settings : Settings} {stage : Stage} :
    settle settings = .ok stage ↔ ∃ folder policy,
      settings.requiredText "destinationFolder" = .ok folder ∧
        settings.entryPolicy = .ok policy ∧ stage = .handling policy (Run.handleSaving folder) := by
  simp only [settle, Outcome.bind_eq_ok, Except.ok.injEq]
  grind

theorem builtinStage_of_settle {function : BuiltinFunction} (builtin : function ∈ builtinFunctions)
    {settings : Settings} {stage : Stage} (settled : function.settle settings = .ok stage) :
    BuiltinStage stage := by
  simp only [builtinFunctions, List.mem_cons, List.not_mem_nil, or_false] at builtin
  rcases builtin with rfl | rfl | rfl | rfl | rfl | rfl | rfl | rfl
  · obtain ⟨routing, policy, _, _, rfl⟩ := FieldRouting.settle_eq_ok.1 settled
    exact .handling policy (.byField routing)
  · obtain ⟨_, policy, compiled, _, _, _, rfl⟩ := ConditionRouting.settle_eq_ok.1 settled
    exact .handling policy (.byCondition compiled)
  · obtain ⟨_, policy, compiled, _, _, _, rfl⟩ := ConditionRouting.settle_eq_ok.1 settled
    exact .handling policy (.ofFiles compiled)
  · obtain ⟨_, policy, derivation, _, _, _, rfl⟩ := DeriveRule.settle_eq_ok.1 settled
    exact .handling policy (.byRules derivation)
  · obtain ⟨format, policy, _, _, rfl⟩ := DelimitedFormat.settle_eq_ok.1 settled
    exact .handling policy (.ofTables format.readFile)
  · obtain ⟨format, policy, _, _, rfl⟩ := FixedWidthFormat.settle_eq_ok.1 settled
    exact .handling policy (.ofTables fun _ delivery => format.readFile delivery)
  · obtain ⟨layout, policy, _, _, rfl⟩ := DelimitedLayout.settle_eq_ok.1 settled
    exact .writing layout policy
  · obtain ⟨folder, policy, _, _, rfl⟩ := Path.settle_eq_ok.1 settled
    exact .handling policy (.saving folder)

theorem Stage.handling_run (policy : Settings.EntryPolicy) (handle : Entry → Run Unit) :
    (Stage.handling policy handle).run =
      (Run.drain policy handle >>= fun _ => (pure () : Run Unit)) := by
  funext session
  simp only [run, handling, work, Run.pure_bind_eq, Run.attempt_bind]
  rfl

/-- What a function does before its output is closed stays within a relation that allows for its
parts: what is put out, what is done to the disk, the draining, and a table written whole. -/
theorem body_within {relation : Session → Session → Prop} [IsPreorder Session relation]
    (puts : Run.Puts relation)
    (disk : ∀ session disk, relation session { session with disk := disk })
    (drains : ∀ (policy : Settings.EntryPolicy) (handle : Entry → Run Unit),
      (∀ entry, Run.Within relation (handle entry)) →
        Run.Within relation (Run.drain policy handle))
    (writes : ∀ (layout : DelimitedLayout) (policy : Settings.EntryPolicy),
      Run.Within relation (layout.stage policy).run)
    {function : BuiltinFunction} (builtin : function ∈ builtinFunctions) (settings : Settings) :
    Run.Within relation (Run.body (function.settle settings)) := by
  cases settled : function.settle settings with
  | error failure => exact Run.Within.ofOutcome _
  | ok stage =>
      show Run.Within relation stage.run
      cases builtinStage_of_settle builtin settled with
      | handling policy alone =>
          rw [Stage.handling_run]
          exact (drains policy _ (alone.within puts disk)).bind fun _ => Run.Within.pure ()
      | writing layout policy => exact writes layout policy

end Sluice
