import Sluice.CommandLine.Execution
import Sluice.Proofs.Flow.Use
import Sluice.Proofs.Release

/-!
# Which ports are listed

An output lists the ports of its records and those of its files.  A port is listed as soon as a file
is opened on it, so that a file that is given up may leave a port behind to which nothing came.  The
functions give no file up: whatever fails, what they have opened they close.
-/

set_option autoImplicit false

namespace Sluice

namespace Output

def ListsRecords (output : Output) : Prop :=
  ∀ port, port ∈ output.recordPorts.map Prod.fst ↔ output.records port ≠ []

def ListsFiles (output : Output) : Prop :=
  ∀ port, port ∈ output.filePorts.map Prod.fst ↔ output.files port ≠ []

end Output

/-- A file was opened on the port and given up. -/
def OutputLog.GivenUp (log : OutputLog) (port : String) : Prop :=
  ∃ name pieces, OutputUse.file port name pieces false ∈ log.succeeded

/-! ## Any uses -/

theorem onPort_ne_nil {α : Type} {items : List (String × α)} {port : String} :
    onPort items port ≠ [] ↔ port ∈ items.map Prod.fst := by
  simp [onPort, List.filter_eq_nil_iff]

theorem OutputUse.mem_opens {use : OutputUse} {port : String} :
    port ∈ use.opens ↔ port ∈ use.files.map Prod.fst ∨
      ∃ name pieces, use = .file port name pieces false := by
  cases use with
  | record other item => simp [opens, files]
  | close => simp [opens, files]
  | file other name pieces publishes => cases publishes <;> simp [opens, files, eq_comm]

theorem OutputLog.mem_opened {log : OutputLog} {port : String} :
    port ∈ log.opened ↔ port ∈ log.published.map Prod.fst ∨ log.GivenUp port := by
  simp only [opened, published, GivenUp, List.map_flatMap, List.mem_flatMap]
  constructor
  · rintro ⟨use, made, opens⟩
    rcases OutputUse.mem_opens.1 opens with publishes | ⟨name, pieces, rfl⟩
    · exact .inl ⟨use, made, publishes⟩
    · exact .inr ⟨name, pieces, made⟩
  · rintro (⟨use, made, publishes⟩ | ⟨name, pieces, made⟩)
    · exact ⟨use, made, OutputUse.mem_opens.2 (.inl publishes)⟩
    · exact ⟨_, made, OutputUse.mem_opens.2 (.inr ⟨name, pieces, rfl⟩)⟩

namespace Output.HoldsLog

variable {output : Output} {log : OutputLog}

theorem listsRecords (holds : output.HoldsLog log) : output.ListsRecords := by
  intro port
  rw [holds.recordPorts, List.mem_eraseDups, holds.records, onPort_ne_nil]

theorem mem_filePorts (holds : output.HoldsLog log) (port : String) :
    port ∈ output.filePorts.map Prod.fst ↔ output.files port ≠ [] ∨ log.GivenUp port := by
  rw [holds.filePorts, List.mem_eraseDups, holds.files, onPort_ne_nil, OutputLog.mem_opened]

theorem listsFiles_iff (holds : output.HoldsLog log) :
    output.ListsFiles ↔ ∀ port, log.GivenUp port → output.files port ≠ [] := by
  simp only [ListsFiles, holds.mem_filePorts]
  constructor
  · exact fun lists port givenUp => (lists port).1 (.inr givenUp)
  · exact fun filled port => ⟨fun listed => listed.elim id (filled port), .inl⟩

end Output.HoldsLog

/-! ## The ports while a file is written -/

theorem listed_of_held {α : Type} {ports : List (String × List α)} {port : String}
    (holds : (ports.lookup port).getD [] ≠ []) : port ∈ ports.map Prod.fst := by
  cases found : ports.lookup port with
  | none => simp [found] at holds
  | some items => exact List.mem_map.2 ⟨(port, items), mem_of_lookup found, rfl⟩

/-- Every port that is listed holds something, save that a file being written may be the first one
of its port. -/
structure Output.Backed (writing : Option String) (output : Output) : Prop where
  distinct : (output.filePorts.map Prod.fst).Nodup
  records : ∀ port ∈ output.recordPorts.map Prod.fst, output.records port ≠ []
  files : ∀ port ∈ output.filePorts.map Prod.fst, output.files port = [] → writing = some port

namespace Output.Backed

variable {output after : Output} {writing : Option String} {port : String}

theorem empty : Output.empty.Backed none where
  distinct := List.nodup_nil
  records _ listed := by cases listed
  files _ listed := by cases listed

theorem listsRecords (backed : output.Backed writing) : output.ListsRecords :=
  fun port => ⟨backed.records port, listed_of_held⟩

theorem listsFiles (backed : output.Backed none) : output.ListsFiles := by
  refine fun port => ⟨fun listed nothing => ?_, listed_of_held⟩
  cases backed.files port listed nothing

/-- No port stands without a file where the folders of the ports are made from. -/
theorem no_port_without_file (backed : output.Backed none) (port : String) :
    (port, []) ∉ output.filePorts := by
  intro member
  have listed : port ∈ output.filePorts.map Prod.fst := List.mem_map.2 ⟨_, member, rfl⟩
  refine (backed.listsFiles port).1 listed ?_
  rw [Output.files, lookup_of_mem backed.distinct member, Option.getD_some]

theorem close (backed : output.Backed writing) : output.close.Backed writing :=
  ⟨backed.distinct, backed.records, backed.files⟩

theorem mem_addToPort {α : Type} {other : String} {items : List α} {ports : List (String × List α)}
    (listed : other ∈ (addToPort port items ports).map Prod.fst) :
    other = port ∨ other ∈ ports.map Prod.fst := by
  rw [map_fst_addToPort] at listed
  split at listed
  · exact .inr listed
  · rw [List.mem_append, List.mem_singleton] at listed
    exact listed.symm

theorem distinct_addToPort {α : Type} {ports : List (String × List α)}
    (distinct : (ports.map Prod.fst).Nodup) (port : String) (items : List α) :
    ((addToPort port items ports).map Prod.fst).Nodup := by
  rw [map_fst_addToPort]
  split
  · exact distinct
  · next fresh =>
      refine List.nodup_append.2 ⟨distinct, List.pairwise_singleton _ port, ?_⟩
      intro other listed last member same
      obtain rfl := List.mem_singleton.1 member
      exact fresh (same ▸ listed)

theorem addRecord (backed : output.Backed writing) {record : Record}
    (adds : output.addRecord port record = .ok after) : after.Backed writing := by
  obtain ⟨_, _, same⟩ := Outcome.bind_eq_ok.1 adds
  cases same
  refine ⟨backed.distinct, fun other listed => ?_, backed.files⟩
  rw [Output.records, lookup_addToPort]
  rcases mem_addToPort listed with rfl | earlier
  · simp
  · exact fun nothing => backed.records other earlier (List.append_eq_nil_iff.1 nothing).1

theorem openFile (backed : output.Backed none) (opens : output.openFile port = .ok after) :
    after.Backed (some port) := by
  obtain ⟨_, _, same⟩ := Outcome.bind_eq_ok.1 opens
  cases same
  refine ⟨distinct_addToPort backed.distinct port _, backed.records, fun other listed nothing => ?_⟩
  rw [Output.files, lookup_addToPort, ite_self, List.append_nil] at nothing
  rcases mem_addToPort listed with rfl | earlier
  · rfl
  · cases backed.files other earlier nothing

/-- The file that was being written makes its port hold something. -/
theorem publish (backed : output.Backed (some port)) (file : OutputFile) :
    (output.publish port file).Backed none := by
  refine ⟨distinct_addToPort backed.distinct port _, backed.records, fun other listed nothing => ?_⟩
  rw [Output.files, Output.publish, lookup_addToPort] at nothing
  obtain ⟨nothingBefore, notHere⟩ := List.append_eq_nil_iff.1 nothing
  have elsewhere : other ≠ port := by
    rintro rfl
    simp at notHere
  have earlier := (mem_addToPort listed).resolve_left elsewhere
  exact absurd (Option.some.inj (backed.files other earlier nothingBefore)).symm elsewhere

end Output.Backed

/-! ## Runs -/

structure Session.Backed (writing : Option String) (session : Session) : Prop where
  file : session.openFile?.map OpenFile.port = writing
  output : session.output.Backed writing

namespace Run

variable {α β : Type} {writing : Option String} {port name : String} {before after : Session}

/-- What is listed stays backed, and the file being written stays the same or stays away. -/
def KeepsBacked (writing : Option String) (before after : Session) : Prop :=
  before.Backed writing → after.Backed writing

instance : IsPreorder Session (KeepsBacked writing) where
  refl _ := id
  trans _ _ _ first second := second ∘ first

theorem blind_backed : Blind (KeepsBacked writing) where
  inputs _ _ backed := ⟨backed.file, backed.output⟩
  journal _ _ _ backed := ⟨backed.file, backed.output⟩

theorem backed_changed {change : OpenFile → OpenFile}
    (keeps : ∀ file, (change file).port = file.port) (session : Session) :
    KeepsBacked writing session (changed change session) := by
  intro backed
  refine ⟨?_, backed.output⟩
  have same : OpenFile.port ∘ change = OpenFile.port := funext keeps
  rw [changed, Option.map_map, same, backed.file]

theorem backed_stream (made : PortCall) {change : OpenFile → OpenFile}
    (keeps : ∀ file, (change file).port = file.port) :
    Within (KeepsBacked writing) (stream made change) := by
  intro session
  rcases stream_cases made change session with ⟨_, _, result⟩ | ⟨_, result⟩
  · rw [result]
    exact blind_backed.journal session made false
  · rw [result]
    exact trans_of _ (backed_changed keeps session) (blind_backed.journal _ made true)

theorem streams_backed : Streams (KeepsBacked writing) where
  writes _ := backed_stream _ fun _ => rfl
  flushes := backed_stream _ fun _ => rfl
  changes _ keeps := backed_changed keeps

theorem backed_writeRecord (port : String) (record : Record) :
    Within (KeepsBacked writing) (writeRecord port record) := by
  refine Within.call blind_backed.journal fun before value after done backed => ?_
  obtain ⟨output, adds, same⟩ := Outcome.bind_eq_ok.1 done
  cases same
  exact ⟨backed.file, backed.output.addRecord adds⟩

theorem newFile_backed (opens : newFile port name before = (.ok (), after))
    (backed : before.Backed none) : after.Backed (some port) := by
  rw [newFile] at opens
  rcases call_cases (α := Unit) _ _ before with ⟨_, result, _⟩ | ⟨_, middle, _, done, result⟩
  · cases result.symm.trans opens
  · cases result.symm.trans opens
    obtain ⟨output, listed, same⟩ := Outcome.bind_eq_ok.1 done
    cases same
    exact ⟨rfl, backed.output.openFile listed⟩

/-- Also a close that fails publishes its file. -/
theorem closeFile_backed (backed : before.Backed (some port)) :
    (closeFile before).2.Backed none := by
  obtain ⟨file, opened, rfl⟩ := Option.map_eq_some_iff.1 backed.file
  rcases closeFile_cases opened with ⟨_, _, result⟩ | ⟨_, result⟩ <;>
  · rw [result]
    exact ⟨rfl, backed.output.publish _⟩

theorem file_backed {inside : Run α} {ending : α → Outcome Unit → Run β}
    (keeps : Within (KeepsBacked (some port)) inside) (total : Total inside)
    (still : ∀ value closed session, (ending value closed session).2 = session) :
    Within (KeepsBacked none) (newFile port name >>= fun _ =>
      inside >>= fun value => attempt closeFile >>= fun closed => ending value closed) := by
  intro session backed
  rcases file_cases total still port name session with ends | ⟨opened, opening, ends⟩
  · rw [ends]
    exact blind_backed.journal session _ false backed
  · rw [ends]
    exact closeFile_backed (keeps opened (newFile_backed opening backed))

theorem puts_backed : Puts (KeepsBacked none) where
  records := backed_writeRecord
  files port name delivery := by
    refine file_backed (streams_backed.copyDelivery delivery) (total_copyDelivery delivery) ?_
    intro copied closed session
    cases copied with
    | error fault => rfl
    | ok size => cases closed <;> rfl

end Run

open Run

theorem DelimitedLayout.stage_backed (layout : DelimitedLayout) (policy : Settings.EntryPolicy) :
    Within (KeepsBacked none) (layout.stage policy).run := by
  have inside : Within (KeepsBacked (some defaultPort)) (layout.filling policy) :=
    layout.filling_within streams_backed
      (blind_backed.drain (layout.handle_within streams_backed))
  rw [layout.stage_run]
  exact file_backed inside (layout.total_filling policy) fun _ _ _ => rfl

theorem execute_backed {function : BuiltinFunction} (builtin : function ∈ builtinFunctions)
    (settings : Settings) {session : Session} (backed : session.Backed none) :
    (function.execute settings session).2.output.Backed none := by
  have body : Within (KeepsBacked none) (body (function.settle settings)) :=
    body_within puts_backed (fun _ _ backed => ⟨backed.file, backed.output⟩)
      (fun _ _ => blind_backed.drain) DelimitedLayout.stage_backed builtin settings
  rw [BuiltinFunction.execute, perform, withOutput_apply, closeOutput_output]
  exact (body session backed).output.close

/-- **Ports are listed for what came to them.**  However an output is used, the ports listed for
records are those to which a record came.  The ports listed for files are those to which a file came
and those on which one was given up, so that the list is exact unless a file was given up on a port
to which none ever came.  The functions give no file up: whatever they are given and whatever calls
fail, both lists are exact when they end, and among the ports that get a folder with their files
there is none without a file. -/
theorem ports_listed_or_given_up (inputs : List (String × InputPort)) (disk : Disk) :
    (∀ uses : List OutputUse,
      ∃ log final, OutputUse.runAll uses (.on inputs disk .none) = (.ok log, final) ∧
        log.map Prod.fst = uses ∧ final.output.ListsRecords ∧
        (∀ port, port ∈ final.output.filePorts.map Prod.fst ↔
          final.output.files port ≠ [] ∨ log.GivenUp port) ∧
        (final.output.ListsFiles ↔ ∀ port, log.GivenUp port → final.output.files port ≠ [])) ∧
    ∀ function ∈ builtinFunctions, ∀ (settings : Settings) (plan : FaultPlan),
      let final := (function.execute settings (.on inputs disk plan)).2
      final.output.ListsRecords ∧ final.output.ListsFiles ∧
        ∀ port, (port, []) ∉ final.output.filePorts := by
  refine ⟨fun uses => ?_, fun function builtin settings plan => ?_⟩
  · have begins : (Session.on inputs disk .none).output.HoldsLog [] := .empty
    obtain ⟨log, final, runs, whole, _, holds⟩ := OutputUse.runAll_holds rfl begins uses
    rw [List.nil_append] at holds
    exact ⟨log, final, runs, whole, holds.listsRecords, holds.mem_filePorts, holds.listsFiles_iff⟩
  · have begins : (Session.on inputs disk plan).Backed none := ⟨rfl, .empty⟩
    have backed := execute_backed builtin settings begins
    exact ⟨backed.listsRecords, backed.listsFiles, backed.no_port_without_file⟩

/-- A file is given up and another one published on its port; the writer of delimited text cannot
write anything and still leaves an empty file behind. -/
theorem ports_listed_or_given_up_later_file :
    let uses : List OutputUse := [.file "a" "x" [[1]] false, .file "a" "y" [] true]
    let settings : Settings := [("delimiter", .text ","), ("filename", .text "out.csv"),
      ("header", .text "true"), ("headerValue", .list [.text "name"])]
    let final := (generateDelimited.execute settings
      (.on (Session.inputsOf [.record .empty]) .empty brokenOutput)).2
    (∃ log final, OutputUse.runAll uses (.on [] .empty .none) = (.ok log, final) ∧
      log.GivenUp "a" ∧ final.output.ListsFiles) ∧
    generateDelimited ∈ builtinFunctions ∧ final.output.ListsFiles ∧
      final.output.files "default" = [⟨"out.csv", []⟩] := by
  intro uses settings final
  obtain ⟨ofUses, _⟩ := ports_listed_or_given_up [] .empty
  obtain ⟨_, ofFunctions⟩ := ports_listed_or_given_up (Session.inputsOf [.record .empty]) .empty
  have builtin : generateDelimited ∈ builtinFunctions := by simp [builtinFunctions]
  obtain ⟨log, last, runs, _, _, _, exact_iff⟩ := ofUses uses
  have logged : log = uses.map fun use => (use, .ok ()) := by
    obtain ⟨same, _⟩ := Prod.mk.inj runs
    exact (Except.ok.inj same).symm
  obtain rfl := (Prod.mk.inj runs).2
  have made : log.succeeded = uses := by
    rw [logged]
    rfl
  refine ⟨⟨log, _, runs, ⟨"x", [[1]], ?_⟩, exact_iff.2 ?_⟩, builtin,
    (ofFunctions _ builtin _ _).2.1, by decide +kernel⟩
  · rw [made]
    exact List.mem_cons_self ..
  · rintro port ⟨name, pieces, member⟩
    rw [made] at member
    obtain ⟨rfl, _⟩ : port = "a" ∧ name = "x" ∧ pieces = [[1]] := by simpa [uses] using member
    rw [show Output.files _ "a" = [⟨"y", []⟩] from rfl]
    exact List.cons_ne_nil _ _

/-- The port of a file that was given up is listed without a file, and gets a folder with none. -/
theorem port_listed_without_file :
    let final := (OutputUse.runAll [.file "p" "x" [[1]] false] (.on [] .empty .none)).2
    ¬ final.output.ListsFiles ∧ final.output.filePorts.map Prod.fst = ["p"] ∧
      final.output.files "p" = [] ∧
      let disk := ((CommandLine.Write.output "out" final.output).run ⟨.empty, ""⟩).2.disk
      disk.below disk.working = [(["out"], .folder), (["out", "p"], .folder)] := by
  intro final
  have listed : final.output.filePorts.map Prod.fst = ["p"] := by rfl
  have nothing : final.output.files "p" = [] := by rfl
  refine ⟨fun lists => ?_, listed, nothing, by decide +kernel⟩
  exact (lists "p").1 (listed ▸ List.mem_singleton_self "p") nothing

end Sluice
