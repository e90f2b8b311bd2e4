import Mathlib.Data.List.Forall2
import Mathlib.Data.List.Nodup
import Sluice.CommandLine.Execution
import Sluice.Proofs.Disk.Below
import Sluice.Proofs.Ndjson

/-!
# What the command line leaves in its output folder

The command line writes a file for each port with records and one for each published file.  Nothing
keeps two of them from going to one place, where only the last one is left.
-/

set_option autoImplicit false

namespace Sluice

namespace CommandLine

namespace Write

variable {α β : Type}

/-! ## Writes that succeed -/

theorem bind_eq_ok {first : Write α} {next : α → Write β} {start finish : Written} {value : β} :
    (first >>= next).run start = (.ok value, finish) ↔
      ∃ middle reached, first.run start = (.ok middle, reached) ∧
        (next middle).run reached = (.ok value, finish) := by
  have unfolded : (first >>= next).run start =
      match first.run start with
      | (.ok middle, reached) => (next middle).run reached
      | (.error message, reached) => (.error message, reached) := by
    show (ExceptT.bindCont next (first.run start).1) (first.run start).2 = _
    rcases first.run start with ⟨_ | _, _⟩ <;> rfl
  rw [unfolded]
  constructor
  · intro runs
    rcases result : first.run start with ⟨_ | middle, reached⟩
    · rw [result] at runs
      cases runs
    · rw [result] at runs
      exact ⟨middle, reached, rfl, runs⟩
  · rintro ⟨middle, reached, runs, continues⟩
    rw [runs]
    exact continues

theorem pathIn_eq_ok {folder name path : String} {start finish : Written}
    (succeeds : (pathIn folder name).run start = (.ok path, finish)) :
    Path.destination folder name = .ok path ∧ finish = start := by
  rw [pathIn] at succeeds
  cases found : Path.destination folder name with
  | ok other =>
      rw [found] at succeeds
      obtain ⟨same, rfl⟩ := Prod.mk.inj succeeds
      obtain rfl := Except.ok.inj same
      exact ⟨rfl, rfl⟩
  | error failure =>
      rw [found] at succeeds
      cases succeeds

theorem makeFolders_extends {path : String} {start finish : Written}
    (succeeds : (makeFolders path).run start = (.ok (), finish)) :
    start.disk.Extends finish.disk := by
  have grows := Disk.createFolders_extends start.disk path
  rw [makeFolders] at succeeds
  obtain ⟨_, _, gets, succeeds⟩ := bind_eq_ok.1 succeeds
  obtain ⟨same, rfl⟩ := Prod.mk.inj gets
  obtain rfl := Except.ok.inj same
  rcases made : Disk.createFolders _ path with ⟨outcome, disk⟩
  rw [made] at succeeds grows
  obtain ⟨_, _, modifies, succeeds⟩ := bind_eq_ok.1 succeeds
  obtain ⟨_, rfl⟩ := Prod.mk.inj modifies
  cases outcome with
  | error fault => cases succeeds
  | ok value =>
      obtain ⟨_, rfl⟩ := Prod.mk.inj succeeds
      exact grows

theorem makeFile_eq_ok {verb path line : String} {bytes : Bytes} {start finish : Written}
    (succeeds : (makeFile verb path line bytes).run start = (.ok (), finish)) :
    start.disk.write path bytes = .ok finish.disk := by
  obtain ⟨_, _, gets, succeeds⟩ := bind_eq_ok.1 succeeds
  obtain ⟨same, rfl⟩ := Prod.mk.inj gets
  obtain rfl := Except.ok.inj same
  cases result : Disk.write _ path bytes with
  | error fault =>
      rw [result] at succeeds
      cases succeeds
  | ok disk =>
      rw [result] at succeeds
      obtain ⟨_, rfl⟩ := Prod.mk.inj succeeds
      rfl

/-! ## Targets -/

def IsRecordTarget (folder : String) (port : String × List Record) (target : String × Bytes) :
    Prop :=
  Path.destination folder (port.1 ++ ".ndjson") = .ok target.1 ∧
    ∃ text, target.2 = Utf8.encode text ∧ Ndjson.OneLineEach port.2 text

def IsFileTarget (folder : String) (file : OutputFile) (target : String × Bytes) : Prop :=
  Path.destination folder file.name = .ok target.1 ∧ target.2 = file.bytes

def ArePortTargets (folder : String) (port : String × List OutputFile)
    (targets : List (String × Bytes)) : Prop :=
  ∃ inner, Path.destination folder port.1 = .ok inner ∧
    List.Forall₂ (IsFileTarget inner) port.2 targets

/-- The files that an output comes to below a folder: one for each port with records, and one for
each published file. -/
inductive Targets (folder : String) (output : Output) : List (String × Bytes) → Prop where
  | both {ofRecords : List (String × Bytes)} {ofFiles : List (List (String × Bytes))}
      (records : List.Forall₂ (IsRecordTarget folder) output.recordPorts ofRecords)
      (files : List.Forall₂ (ArePortTargets folder) output.filePorts ofFiles) :
      Targets folder output (ofRecords ++ ofFiles.flatten)

theorem recordPorts_receives {folder : String} {ports : List (String × List Record)}
    {start finish : Written} (succeeds : (recordPorts folder ports).run start = (.ok (), finish)) :
    ∃ targets, List.Forall₂ (IsRecordTarget folder) ports targets ∧
      start.disk.Receives targets finish.disk := by
  induction ports generalizing start with
  | nil =>
      obtain ⟨_, rfl⟩ := Prod.mk.inj succeeds
      exact ⟨[], .nil, .done start.disk⟩
  | cons port rest ih =>
      obtain ⟨name, records⟩ := port
      obtain ⟨_, middle, writes, writesRest⟩ := bind_eq_ok.1 succeeds
      obtain ⟨path, reached, names, makes⟩ := bind_eq_ok.1 writes
      obtain ⟨leads, rfl⟩ := pathIn_eq_ok names
      obtain ⟨targets, others, receives⟩ := ih writesRest
      have first : IsRecordTarget folder (name, records)
          (path, Utf8.encode (Ndjson.write records)) :=
        ⟨leads, _, rfl, Ndjson.oneLineEach_write records⟩
      exact ⟨_, .cons first others, .file (makeFile_eq_ok makes) receives⟩

theorem filesOf_receives {folder : String} {files : List OutputFile} {start finish : Written}
    (succeeds : (filesOf folder files).run start = (.ok (), finish)) :
    ∃ targets, List.Forall₂ (IsFileTarget folder) files targets ∧
      start.disk.Receives targets finish.disk := by
  induction files generalizing start with
  | nil =>
      obtain ⟨_, rfl⟩ := Prod.mk.inj succeeds
      exact ⟨[], .nil, .done start.disk⟩
  | cons file rest ih =>
      obtain ⟨path, reached, names, writes⟩ := bind_eq_ok.1 succeeds
      obtain ⟨_, middle, makes, writesRest⟩ := bind_eq_ok.1 writes
      obtain ⟨leads, rfl⟩ := pathIn_eq_ok names
      obtain ⟨targets, others, receives⟩ := ih writesRest
      have first : IsFileTarget folder file (path, file.bytes) := ⟨leads, rfl⟩
      exact ⟨_, .cons first others, .file (makeFile_eq_ok makes) receives⟩

theorem filePorts_receives {folder : String} {ports : List (String × List OutputFile)}
    {start finish : Written} (succeeds : (filePorts folder ports).run start = (.ok (), finish)) :
    ∃ targets, List.Forall₂ (ArePortTargets folder) ports targets ∧
      start.disk.Receives targets.flatten finish.disk := by
  induction ports generalizing start with
  | nil =>
      obtain ⟨_, rfl⟩ := Prod.mk.inj succeeds
      exact ⟨[], .nil, .done start.disk⟩
  | cons port rest ih =>
      obtain ⟨name, files⟩ := port
      obtain ⟨inner, reached, names, follows⟩ := bind_eq_ok.1 succeeds
      obtain ⟨_, made, makes, writes⟩ := bind_eq_ok.1 follows
      obtain ⟨_, middle, writesFirst, writesRest⟩ := bind_eq_ok.1 writes
      obtain ⟨leads, rfl⟩ := pathIn_eq_ok names
      obtain ⟨ofPort, first, receivesFirst⟩ := filesOf_receives writesFirst
      obtain ⟨others, rests, receivesRest⟩ := ih writesRest
      refine ⟨ofPort :: others, .cons ⟨inner, leads, first⟩ rests, ?_⟩
      exact .grows (makeFolders_extends makes) (receivesFirst.append receivesRest)

/-! ## The pieces of the targets' paths -/

def piecesBelow (output : Output) : List (List String) :=
  output.recordPorts.map (fun port => Disk.walkNames (port.1 ++ ".ndjson").toList) ++
    output.filePorts.flatMap fun port => port.2.map fun file =>
      Disk.walkNames port.1.toList ++ Disk.walkNames file.name.toList

theorem map_eq_of_forall₂ {γ : Type} {related : α → β → Prop} {left : α → γ} {right : β → γ}
    {xs : List α} {ys : List β} (all : List.Forall₂ related xs ys)
    (same : ∀ x y, related x y → right y = left x) : ys.map right = xs.map left := by
  induction all with
  | nil => rfl
  | cons first _ ih => rw [List.map_cons, List.map_cons, same _ _ first, ih]

theorem forall_of_forall₂ {related : α → β → Prop} {holds : β → Prop} {xs : List α} {ys : List β}
    (all : List.Forall₂ related xs ys) (each : ∀ x y, related x y → holds y) :
    ∀ y ∈ ys, holds y := by
  induction all with
  | nil => exact fun _ member => (List.not_mem_nil member).elim
  | cons first _ ih => exact List.forall_mem_cons.2 ⟨each _ _ first, ih⟩

variable {folder : String} {output : Output} {targets : List (String × Bytes)}

theorem ArePortTargets.goesBelow {port : String × List OutputFile}
    (complete : ArePortTargets folder port targets) :
    ∀ target ∈ targets, Disk.GoesBelow folder target.1 := by
  obtain ⟨inner, leads, files⟩ := complete
  refine forall_of_forall₂ files fun file target ofFile => ?_
  exact (Disk.destination_goesBelow leads).trans (Disk.destination_goesBelow ofFile.1)

theorem Targets.goesBelow (complete : Targets folder output targets) :
    ∀ target ∈ targets, Disk.GoesBelow folder target.1 := by
  obtain ⟨records, files⟩ := complete
  intro target member
  rcases List.mem_append.1 member with member | member
  · exact forall_of_forall₂ records (fun _ _ ofPort => Disk.destination_goesBelow ofPort.1) _ member
  · obtain ⟨ofPort, listed, held⟩ := List.mem_flatten.1 member
    exact forall_of_forall₂ files (fun _ _ complete => complete.goesBelow) _ listed _ held

theorem ArePortTargets.pieces {port : String × List OutputFile}
    (complete : ArePortTargets folder port targets) :
    targets.map (fun target => Disk.walkNames target.1.toList) = port.2.map fun file =>
      Disk.walkNames folder.toList ++
        (Disk.walkNames port.1.toList ++ Disk.walkNames file.name.toList) := by
  obtain ⟨inner, leads, files⟩ := complete
  refine map_eq_of_forall₂ files fun file target ofFile => ?_
  rw [(Disk.destination_eq_ok ofFile.1).2, (Disk.destination_eq_ok leads).2, List.append_assoc]

theorem Targets.pieces (complete : Targets folder output targets) :
    targets.map (fun target => Disk.walkNames target.1.toList) =
      (piecesBelow output).map (Disk.walkNames folder.toList ++ ·) := by
  obtain ⟨records, files⟩ := complete
  have ofRecords := map_eq_of_forall₂ records fun _ _ ofPort => (Disk.destination_eq_ok ofPort.1).2
  have ofFiles := map_eq_of_forall₂ files fun _ _ complete => complete.pieces
  rw [List.map_append, ofRecords, List.map_flatten, ofFiles]
  simp [piecesBelow, List.flatMap_def, List.map_flatten, Function.comp_def]

/-! ## The whole output -/

theorem output_receives {start finish : Written}
    (succeeds : (Write.output folder output).run start = (.ok (), finish)) :
    ∃ targets, Targets folder output targets ∧ start.disk.Receives targets finish.disk := by
  obtain ⟨_, begun, makes, writes⟩ := bind_eq_ok.1 succeeds
  obtain ⟨_, middle, writesRecords, writesFiles⟩ := bind_eq_ok.1 writes
  obtain ⟨ofRecords, records, receivesRecords⟩ := recordPorts_receives writesRecords
  obtain ⟨ofFiles, files, receivesFiles⟩ := filePorts_receives writesFiles
  refine ⟨_, .both records files, ?_⟩
  exact .grows (makeFolders_extends makes) (receivesRecords.append receivesFiles)

/-- When an output was written below a folder, each port with records and each published file has a
path, and all of them are found there with their contents exactly if no two that differ have paths
of the same pieces. -/
theorem output_kept_iff (folder : String) (output : Output) (start : Written)
    (succeeds : ((Write.output folder output).run start).1 = .ok ()) :
    let disk := ((Write.output folder output).run start).2.disk
    ∃ targets, Targets folder output targets ∧
      ((∀ target ∈ targets, disk.read target.1 = .ok target.2) ↔
        ∀ target ∈ targets, ∀ other ∈ targets,
          Disk.walkNames target.1.toList = Disk.walkNames other.1.toList →
            target.2 = other.2) := by
  rcases result : (Write.output folder output).run start with ⟨outcome, finish⟩
  rw [result] at succeeds
  obtain rfl : outcome = .ok () := succeeds
  obtain ⟨targets, complete, receives⟩ := output_receives result
  exact ⟨targets, complete, receives.kept_below_iff complete.goesBelow⟩

/-- Nothing is lost if no two records' files and published files belong to one place below the
folder. -/
theorem output_kept_of_distinct {start finish : Written}
    (succeeds : (Write.output folder output).run start = (.ok (), finish))
    (distinct : (piecesBelow output).Nodup) :
    ∃ targets, Targets folder output targets ∧
      ∀ target ∈ targets, finish.disk.read target.1 = .ok target.2 := by
  obtain ⟨targets, complete, receives⟩ := output_receives succeeds
  refine ⟨targets, complete, (receives.kept_below_iff complete.goesBelow).2 ?_⟩
  have apart : (targets.map fun target => Disk.walkNames target.1.toList).Nodup := by
    rw [complete.pieces]
    exact List.Nodup.map (List.append_right_injective _) distinct
  intro target member other listed same
  rw [List.inj_on_of_nodup_map apart member listed same]

/-- Two ports have folders of their own for files of one name. -/
theorem output_kept_iff_two_ports :
    let output : Output := ⟨[("p", [.empty])], [("p", [⟨"x", [1]⟩]), ("q", [⟨"x", [2]⟩])], 1⟩
    ((Write.output "out" output).run ⟨.empty, ""⟩).1 = .ok () ∧
      let disk := ((Write.output "out" output).run ⟨.empty, ""⟩).2.disk
      (disk.read "out/p/x" = .ok [1] ∧ disk.read "out/q/x" = .ok [2]) ∧
        ∃ targets, Targets "out" output targets ∧
          ((∀ target ∈ targets, disk.read target.1 = .ok target.2) ↔
            ∀ target ∈ targets, ∀ other ∈ targets,
              Disk.walkNames target.1.toList = Disk.walkNames other.1.toList →
                target.2 = other.2) := by
  intro output
  have outcome : ((Write.output "out" output).run ⟨.empty, ""⟩).1 = .ok () := by decide +kernel
  have kept := output_kept_iff "out" output ⟨.empty, ""⟩ outcome
  exact ⟨outcome, ⟨by decide +kernel, by decide +kernel⟩, kept⟩

/-- Files of one name from two folders come out on one port.  Both are written, with success, and
only the second is left. -/
theorem output_lost_same_name :
    let settings : Settings := [("defaultOutputPort", .text "p"), ("rules", .list [])]
    let disk : Disk := ⟨[], [(["a"], .folder), (["a", "x.txt"], .file [1]), (["b"], .folder),
      (["b", "x.txt"], .file [2])]⟩
    ∃ entries, openFiles disk ["a/x.txt", "b/x.txt"] = .ok entries ∧
      let ran := routeFiles.execute settings (.on (Session.inputsOf entries) disk .none)
      ran.1 = .ok () ∧ ran.2.output.files "p" = [⟨"x.txt", [1]⟩, ⟨"x.txt", [2]⟩] ∧
        let ended := (Write.output "out" ran.2.output).run ⟨ran.2.disk, ""⟩
        ended.1 = .ok () ∧ Path.destination "out" "p" = .ok "out/p" ∧
          Path.destination "out/p" "x.txt" = .ok "out/p/x.txt" ∧
          ended.2.disk.read "out/p/x.txt" = .ok [2] := by
  intro settings disk
  have opens : openFiles disk ["a/x.txt", "b/x.txt"] =
      .ok [.file ⟨"x.txt", .stored ["a", "x.txt"]⟩, .file ⟨"x.txt", .stored ["b", "x.txt"]⟩] := by
    rfl
  exact ⟨_, opens, by decide +kernel, by decide +kernel, by decide +kernel, by decide +kernel,
    by decide +kernel, by decide +kernel⟩

end Write

end CommandLine

end Sluice
