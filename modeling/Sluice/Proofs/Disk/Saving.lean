import Sluice.Proofs.Disk.Below
import Sluice.Proofs.Flow.Disk
import Sluice.Proofs.Handlers

/-!
# Saving files below a folder

A destination is refused exactly if the name is empty or absolute or has a component that leads
back.  All others go on below the folder, so that a run that saves files changes the disk only
there, and nothing there that is a folder.
-/

set_option autoImplicit false

namespace Sluice

/-! ## Accepted names -/

namespace Path

theorem pieces_eq_splitOn (path : List Char) : pieces path = path.splitOn '/' := by
  induction path with
  | nil => rfl
  | cons c rest ih =>
      rw [pieces, List.splitOn, List.splitOnP_cons_eq_if_modifyHead, ← List.splitOn, ← ih]
      by_cases slash : c = '/'
      · simp [slash]
      · rw [if_neg slash, if_neg (by simpa using slash)]
        cases cut : pieces rest with
        | nil => exact (pieces_ne_nil rest cut).elim
        | cons piece more => rfl

structure Plain (name : String) : Prop where
  named : name ≠ ""
  relative : name.toList.head? ≠ some '/'
  onward : ['.', '.'] ∉ name.toList.splitOn '/'

theorem Plain.isAbsolute_eq_false {name : String} (plain : Plain name) :
    isAbsolute name.toList = false := by
  rw [isAbsolute]
  exact decide_eq_false plain.relative

theorem ofPiece_staysBelow_iff (piece : List Char) :
    (∀ component, ofPiece piece = some component → staysBelow component = true) ↔
      piece ≠ ['.', '.'] := by
  rw [ofPiece]
  split
  · next skipped =>
      have other : piece ≠ ['.', '.'] := by
        rintro rfl
        simp at skipped
      simp [other]
  · split
    · next back => simp [back, staysBelow]
    · next onward => simp [onward, staysBelow]

theorem all_staysBelow_iff (path : List Char) :
    (components path).all staysBelow = true ↔
      path.head? ≠ some '/' ∧ ['.', '.'] ∉ path.splitOn '/' := by
  have pieceWise : ((pieces path).filterMap ofPiece).all staysBelow = true ↔
      ['.', '.'] ∉ path.splitOn '/' := by
    rw [List.all_eq_true, ← pieces_eq_splitOn]
    constructor
    · intro stays listed
      exact (ofPiece_staysBelow_iff ['.', '.']).1 (fun component made =>
        stays component (List.mem_filterMap.2 ⟨_, listed, made⟩)) rfl
    · intro onward component member
      obtain ⟨piece, listed, made⟩ := List.mem_filterMap.1 member
      refine (ofPiece_staysBelow_iff piece).2 ?_ component made
      rintro rfl
      exact onward listed
  rw [components, List.all_append, Bool.and_eq_true, pieceWise]
  refine and_congr_left fun _ => ?_
  by_cases absolute : path.head? = some '/'
  · simp [isAbsolute, absolute, staysBelow]
  · rw [isAbsolute, if_neg (by simpa using absolute)]
    split <;> simp [staysBelow, absolute]

theorem accepts_iff (name : String) :
    (!name.isEmpty && (components name.toList).all staysBelow) = true ↔ Plain name := by
  rw [Bool.and_eq_true, all_staysBelow_iff, Bool.not_eq_true', String.isEmpty_eq_false_iff]
  exact ⟨fun h => ⟨h.1, h.2.1, h.2.2⟩, fun h => ⟨h.named, h.relative, h.onward⟩⟩

instance (name : String) : Decidable (Plain name) := decidable_of_iff _ (accepts_iff name)

theorem destination_of_plain {name : String} (plain : Plain name) (folder : String) :
    destination folder name = .ok (String.ofList (join folder.toList name.toList)) := by
  rw [destination, if_pos ((accepts_iff name).2 plain)]

theorem destination_of_not_plain {name : String} (strays : ¬ Plain name) (folder : String) :
    destination folder name = .error (refusal name) := by
  rw [destination, if_neg fun accepts => strays ((accepts_iff name).1 accepts)]

theorem destination_isOk_iff (folder name : String) :
    (∃ path, destination folder name = .ok path) ↔ Plain name := by
  constructor
  · rintro ⟨path, leads⟩
    by_cases plain : Plain name
    · exact plain
    · rw [destination_of_not_plain plain] at leads
      cases leads
  · exact fun plain => ⟨_, destination_of_plain plain folder⟩

/-! ## The components of a destination -/

/-- The components of a path but for single dots. -/
def steps (path : List Char) : List Component := (components path).filter (· ≠ .here)

theorem steps_eq (path : List Char) :
    steps path = (if isAbsolute path then [.root] else []) ++ (pieces path).filterMap ofPiece := by
  have counted : ((pieces path).filterMap ofPiece).filter (· ≠ .here) =
      (pieces path).filterMap ofPiece := by
    refine List.filter_eq_self.2 fun component member => ?_
    obtain ⟨piece, _, made⟩ := List.mem_filterMap.1 member
    rw [ofPiece] at made
    split at made
    · cases made
    · split at made <;> cases made <;> rfl
  rw [steps, components, List.filter_append, counted]
  split
  · rfl
  · split <;> rfl

theorem steps_slash {folder : List Char} (named : folder ≠ []) {name : List Char}
    (relative : isAbsolute name = false) :
    steps (folder ++ '/' :: name) = steps folder ++ steps name := by
  simp only [steps_eq, isAbsolute_append named, pieces_slash, List.filterMap_append, relative,
    Bool.false_eq_true, if_false, List.nil_append, List.append_assoc]

theorem steps_join {name : List Char} (relative : isAbsolute name = false) (folder : List Char) :
    steps (join folder name) = steps folder ++ steps name := by
  rw [join, relative, Bool.false_or]
  by_cases bare : folder = []
  · subst bare
    rfl
  · have named : folder.isEmpty = false := by simpa using bare
    rw [named, if_neg Bool.false_ne_true]
    split
    · next slash =>
        obtain ⟨front, rfl⟩ := List.getLast?_eq_some_iff.1 slash
        rw [List.append_assoc, List.singleton_append]
        by_cases top : front = []
        · have onward : steps name = (pieces name).filterMap ofPiece := by
            rw [steps_eq, relative]
            rfl
          subst top
          rw [onward]
          simp [steps_eq, isAbsolute, pieces, ofPiece]
        · have empty : steps [] = [] := rfl
          rw [steps_slash top relative, steps_slash top rfl, empty, List.append_nil]
    · exact steps_slash bare relative

theorem steps_destination {folder name path : String} (leads : destination folder name = .ok path) :
    steps path.toList = steps folder.toList ++ steps name.toList := by
  have plain := (destination_isOk_iff folder name).1 ⟨path, leads⟩
  rw [destination_of_plain plain] at leads
  cases leads
  rw [String.toList_ofList]
  exact steps_join plain.isAbsolute_eq_false _

end Path

/-! ## What saving does to a disk -/

namespace Disk

variable {before middle after : Disk} {folder path : String} {place : Place}

/-- The place is inside the folder that a path leads to. -/
def Inside (disk : Disk) (folder : String) (place : Place) : Prop :=
  ∃ base names, disk.walk (disk.start folder.toList) (walkNames folder.toList) = .ok base ∧
    disk.node? base = some .folder ∧ names ≠ [] ∧ place = base ++ names

/-- A walk goes on from folders only. -/
theorem folder_of_walk {disk : Disk} {start : Place} {names : List String} (more : names ≠ [])
    (walks : disk.walk start names = .ok place) : disk.node? start = some .folder := by
  cases names with
  | nil => exact absurd rfl more
  | cons name rest =>
      obtain ⟨_, enters, _⟩ := Outcome.bind_eq_ok.1 walks
      exact enter_eq_ok.1 enters

theorem pathEnd_join {name : List Char} (relative : Path.isAbsolute name = false)
    (folder : List Char) : pathEnd (Path.join folder name) = pathEnd name := by
  have joined : ∀ front : List Char, pathEnd (front ++ '/' :: name) = pathEnd name := by
    intro front
    have last := List.getLast?_isSome.2 (Path.pieces_ne_nil name)
    rw [pathEnd, pathEnd, Path.pieces_slash, List.getLast?_append, Option.or_of_isSome last]
  rw [Path.join, relative, Bool.false_or]
  split
  · rfl
  · split
    · next slash =>
        obtain ⟨front, rfl⟩ := List.getLast?_eq_some_iff.1 slash
        rw [List.append_assoc, List.singleton_append, joined]
    · exact joined folder

theorem walkNames_ne_nil {path : List Char} (ending : pathEnd path = .name) :
    walkNames path ≠ [] := by
  intro bare
  rw [walkNames, List.map_eq_nil_iff, List.filter_eq_nil_iff] at bare
  cases last : (Path.pieces path).getLast? with
  | none => exact Path.pieces_ne_nil path (List.getLast?_eq_none_iff.1 last)
  | some piece =>
      have counts := bare piece (List.mem_of_getLast? last)
      rw [pathEnd, last] at ending
      grind

/-- What may change on a disk when entries are saved to a folder: an accepted file that leads to a
place inside the folder, other than a folder, is written there. -/
structure Saves (folder : String) (entries : List Entry) (before after : Disk) : Prop where
  working : after.working = before.working
  node : ∀ place, after.node? place = before.node? place ∨
    ∃ file path, .file file ∈ entries ∧ Path.destination folder file.name = .ok path ∧
      before.locate path = .ok place ∧ before.Inside folder place ∧
      before.node? place ≠ some .folder ∧
      ∃ disk, after.node? place = some (.file (file.deliver disk).bytes)

variable {entries : List Entry}

theorem inside_of_destination {name : String} (leads : Path.destination folder name = .ok path)
    (ending : pathEnd path.toList = .name) (goes : before.locate path = .ok place) :
    before.Inside folder place := by
  have plain := (Path.destination_isOk_iff folder name).1 ⟨path, leads⟩
  obtain ⟨down, joined⟩ := destination_eq_ok leads
  have more : walkNames name.toList ≠ [] := by
    rw [Path.destination_of_plain plain] at leads
    cases leads
    rw [String.toList_ofList, pathEnd_join plain.isAbsolute_eq_false] at ending
    exact walkNames_ne_nil ending
  obtain ⟨_, walks⟩ := locate_eq_ok.1 goes
  rw [(destination_goesBelow leads).start, joined, walk_append] at walks
  obtain ⟨base, first, second⟩ := Outcome.bind_eq_ok.1 walks
  exact ⟨base, _, first, folder_of_walk more second, more, walk_down down second⟩

theorem saves_of_write {file : SourceFile} {made : Disk} (member : .file file ∈ entries)
    (leads : Path.destination folder file.name = .ok path)
    (writes : before.write path (file.deliver made).bytes = .ok after) :
    Saves folder entries before after := by
  obtain ⟨working, target, goes, ending, other, holds⟩ := write_eq_ok writes
  refine ⟨working, fun place => ?_⟩
  by_cases hit : place = target
  · subst hit
    exact .inr ⟨file, path, member, leads, goes, inside_of_destination leads ending goes, other,
      made, by rw [holds, if_pos rfl]⟩
  · exact .inl (by rw [holds, if_neg hit])

theorem Saves.refl (disk : Disk) : Saves folder entries disk disk := ⟨rfl, fun _ => .inl rfl⟩

/-- Folders neither come nor go. -/
theorem Saves.folder_iff (saves : Saves folder entries before after) (place : Place) :
    after.node? place = some .folder ↔ before.node? place = some .folder := by
  rcases saves.node place with same | ⟨_, _, _, _, _, _, other, _, written⟩
  · rw [same]
  · constructor
    · intro here
      cases written.symm.trans here
    · exact fun here => absurd here other

theorem Saves.trans {later : List Entry} (one : Saves folder entries before middle)
    (two : Saves folder later middle after) (subset : later ⊆ entries) :
    Saves folder entries before after := by
  -- The folders are the same in both disks, so a path leads where it would have led before.
  have keeps : KeepsFolders middle before :=
    ⟨one.working.symm, fun place => (one.folder_iff place).1⟩
  refine ⟨two.working.trans one.working, fun place => ?_⟩
  rcases two.node place with same |
    ⟨file, path, member, leads, goes, ⟨base, names, walks, here, more, below⟩, other, written⟩
  · rw [same]
    exact one.node place
  · have inside : before.Inside folder place := by
      rw [← keeps.start] at walks
      exact ⟨base, names, keeps.walk walks, keeps.folder _ here, more, below⟩
    exact .inr ⟨file, path, subset member, leads, keeps.locate goes, inside,
      fun there => other ((one.folder_iff place).2 there), written⟩

end Disk

/-! ## What saving does to a session -/

open Run

theorem handleSaving_of_not_plain {file : SourceFile} (strays : ¬ Path.Plain file.name)
    (folder : String) (session : Session) :
    handleSaving folder (.file file) session = (.error (Path.refusal file.name), session) := by
  rw [handleSaving_eq, Entry.asFile, ofOutcome_ok_bind, Path.destination_of_not_plain strays]
  rfl

theorem fillPlace_session (place : Place) (delivery : Delivery) (session : Session) :
    (fillPlace place delivery session).2 =
      { session with disk := session.disk.fill place delivery.bytes } := by
  rw [fillPlace, bind_of_ok (modify_apply _ _)]
  cases delivery.fault <;> rfl

/-- Handling an entry fails at once or writes one file, whole or as far as it can be read. -/
theorem handleSaving_cases (folder : String) (entry : Entry) (session : Session) :
    (handleSaving folder entry session).2 = session ∨
    ∃ file path made after, entry = .file file ∧ Path.destination folder file.name = .ok path ∧
      session.disk.write path (file.deliver made).bytes = .ok after ∧
      (handleSaving folder entry session).2 = { session with disk := after } := by
  rw [handleSaving_eq]
  cases entry with
  | record record => exact .inl rfl
  | file file =>
      rw [Entry.asFile, ofOutcome_ok_bind]
      cases leads : Path.destination folder file.name with
      | error failure => exact .inl rfl
      | ok path =>
          rw [ofOutcome_ok_bind, onDisk]
          cases creates : session.disk.create path with
          | error fault =>
              left
              rw [bind_assoc, current_bind, creates]
              rfl
          | ok created =>
              obtain ⟨place, made⟩ := created
              refine .inr ⟨file, path, made, made.fill place (file.deliver made).bytes, rfl, leads,
                ?_, ?_⟩
              · rw [Disk.write, creates]
                rfl
              · have fills := fillPlace_session place (file.deliver made)
                  { session with disk := made }
                rw [bind_assoc, current_bind, creates, bind_assoc, bind_of_ok (modify_apply _ _),
                  pure_bind_eq, bind_of_ok (deliver_apply _ _), bind_apply]
                rcases filled : fillPlace place (file.deliver made)
                    { session with disk := made } with ⟨_ | _, _⟩ <;>
                · rw [filled] at fills
                  exact fills

namespace Session

structure Saves (folder : String) (before after : Session) : Prop where
  waiting : after.waiting defaultPort ⊆ before.waiting defaultPort
  disk : before.disk.Saves folder (before.waiting defaultPort) after.disk

instance (folder : String) : IsPreorder Session (Saves folder) where
  refl session := ⟨fun _ member => member, .refl session.disk⟩
  trans _ _ _ first second :=
    ⟨List.Subset.trans second.waiting first.waiting,
      first.disk.trans second.disk first.waiting⟩

variable {folder : String} {before after : Session}

theorem Saves.of_same (waiting : after.waiting defaultPort ⊆ before.waiting defaultPort)
    (disk : after.disk = before.disk) : Saves folder before after :=
  ⟨waiting, disk ▸ .refl _⟩

end Session

namespace Run

variable {folder : String}

theorem saves_call {α : Type} {made : PortCall} {action : Session → Outcome (α × Session)}
    (same : ∀ before value after, action before = .ok (value, after) →
      after.waiting defaultPort ⊆ before.waiting defaultPort ∧ after.disk = before.disk) :
    Within (Session.Saves folder) (call made action) := by
  refine Within.call (fun _ _ _ => .of_same (fun _ member => member) rfl) ?_
  intro before value after done
  obtain ⟨waiting, disk⟩ := same before value after done
  exact .of_same waiting disk

theorem saves_findInput : Within (Session.Saves folder) (findInput defaultPort) := by
  refine saves_call fun before value after done => ?_
  split at done
  · cases done
    exact ⟨fun _ member => member, rfl⟩
  · cases done

theorem saves_openInput : Within (Session.Saves folder) (openInput defaultPort) := by
  refine saves_call fun before value after done => ?_
  split at done
  · next input held =>
      cases done
      refine ⟨?_, rfl⟩
      rw [Session.waiting_of_held (lookup_setPort _ _), Session.waiting_of_held held]
      exact fun _ member => member
  · cases done

theorem saves_takes : Within (Session.Saves folder)
    (next defaultPort >>= fun entry => attempt (handleSaving folder entry)) := by
  intro before
  rcases next_cases defaultPort before with ⟨_, fails⟩ | ⟨entry, rest, held, takes⟩
  · rw [bind_of_error fails]
    exact .of_same (fun _ member => member) rfl
  · have waits := Session.waiting_of_held held
    have left : (setPort defaultPort ⟨rest, true⟩ before).waiting defaultPort = rest :=
      Session.waiting_of_held (lookup_setPort before _)
    have fewer : rest ⊆ before.waiting defaultPort := by
      rw [waits]
      exact List.subset_cons_self entry rest
    rw [bind_of_ok takes, attempt_apply]
    rcases handleSaving_cases folder entry
        (noted (.next defaultPort) true (setPort defaultPort ⟨rest, true⟩ before)) with
      same | ⟨file, path, made, after, rfl, leads, writes, ends⟩
    · rw [same]
      exact .of_same (left.symm ▸ fewer) rfl
    · rw [ends]
      refine ⟨left.symm ▸ fewer, ?_⟩
      exact Disk.saves_of_write (waits ▸ List.mem_cons_self ..) leads writes

theorem saves_closeOutput : Within (Session.Saves folder) closeOutput := by
  intro session
  rcases closeOutput_cases session with ⟨_, _, result⟩ | ⟨_, result⟩ <;>
  · rw [result]
    exact .of_same (fun _ member => member) rfl

end Run

theorem saves_execute {settings : Settings} {folder : String}
    (known : settings.requiredText "destinationFolder" = .ok folder) :
    Within (Session.Saves folder) (saveFiles.execute settings) := by
  refine Within.bind (Within.attempt ?_) fun _ =>
    (saves_closeOutput.attempt).bind fun _ => Within.ofOutcome _
  cases settled : saveFiles.settle settings with
  | error failure => exact Within.ofOutcome _
  | ok stage =>
      obtain ⟨other, policy, knownToo, _, rfl⟩ := Path.settle_eq_ok.1 settled
      cases known.symm.trans knownToo
      show Within _ (Stage.handling policy (handleSaving folder)).run
      rw [Stage.handling_run]
      exact (Within.drain saves_findInput saves_openInput saves_takes).bind fun _ => Within.pure ()

/-- Without a folder nothing is saved. -/
theorem execute_without_folder {settings : Settings} {failure : Failure}
    (missing : settings.requiredText "destinationFolder" = .error failure) (session : Session) :
    (saveFiles.execute settings session).2.disk = session.disk := by
  have settled : saveFiles.settle settings = .error failure := by
    show Path.settle settings = _
    rw [Path.settle, missing]
    rfl
  rw [BuiltinFunction.execute, settled]
  exact inward_sameDisk.withOutput (Within.ofOutcome _) session

/-- **Files are saved below the folder.**  A name is accepted exactly if it is there, is not
absolute and has no component that leads back; its destination has the components of the folder and
then those of the name.  Whatever entries a run is given and whatever calls fail, the disk changes
only by accepted files that are written inside the folder, and a refused file changes nothing at
all. -/
theorem saving_stays_below :
    (∀ folder name : String, (∃ path, Path.destination folder name = .ok path) ↔ Path.Plain name) ∧
    (∀ folder name path : String, Path.destination folder name = .ok path →
      Path.steps path.toList = Path.steps folder.toList ++ Path.steps name.toList) ∧
    (∀ (settings : Settings) (entries : List Entry) (disk : Disk) (plan : FaultPlan),
      let final := (saveFiles.execute settings (.on (Session.inputsOf entries) disk plan)).2
      (∀ folder, settings.requiredText "destinationFolder" = .ok folder →
        disk.Saves folder entries final.disk) ∧
      ∀ failure, settings.requiredText "destinationFolder" = .error failure → final.disk = disk) ∧
    (∀ (folder : String) (file : SourceFile) (session : Session), ¬ Path.Plain file.name →
      handleSaving folder (.file file) session = (.error (Path.refusal file.name), session)) := by
  refine ⟨Path.destination_isOk_iff, fun _ _ _ => Path.steps_destination,
    fun settings entries disk plan => ⟨fun folder known => ?_, fun failure missing => ?_⟩,
    fun folder file session strays => handleSaving_of_not_plain strays folder session⟩
  · exact (saves_execute known (.on (Session.inputsOf entries) disk plan)).disk
  · exact execute_without_folder missing (.on (Session.inputsOf entries) disk plan)

/-- Far from the working folder, a name that leads back is skipped, and one that only looks like it
is written in a subfolder. -/
theorem saving_stays_below_dots :
    let settings : Settings :=
      [("destinationFolder", .text "/srv/out"), ("onEntryError", .text "skip")]
    let disk : Disk := ⟨["home"], [(["srv"], .folder), (["srv", "out"], .folder),
      (["srv", "out", "sub"], .folder)]⟩
    let entries := [Entry.file (.ofBytes "../x" [1]), .file (.ofBytes "sub//./..x" [2])]
    let final := (saveFiles.execute settings (.on (Session.inputsOf entries) disk .none)).2
    (∃ path, Path.destination "/srv/out" "sub//./..x" = .ok path) ∧
    final.disk.node? ["srv", "out", "sub", "..x"] = some (.file [2]) ∧
    disk.Inside "/srv/out" ["srv", "out", "sub", "..x"] ∧
    final.disk.node? ["srv", "x"] = none := by
  intro settings disk entries final
  obtain ⟨accepted, _, saved, _⟩ := saving_stays_below
  have written : final.disk.node? ["srv", "out", "sub", "..x"] = some (.file [2]) := by
    decide +kernel
  refine ⟨(accepted _ _).2 (by decide), written, ?_, by decide +kernel⟩
  rcases ((saved settings entries disk .none).1 "/srv/out" rfl).node
    ["srv", "out", "sub", "..x"] with same | ⟨_, _, _, _, _, inside, _⟩
  · cases written.symm.trans same
  · exact inside

end Sluice
