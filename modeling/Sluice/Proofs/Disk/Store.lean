import Sluice.Disk.Store
import Sluice.Proofs.Outcome

/-!
# Writing to a disk

Folders that are there stay, so that a path goes on leading to the place that it led to.  Making
folders changes nothing else, and a file holds what was written to its place last.
-/

set_option autoImplicit false

namespace Sluice

namespace Disk

variable {before middle after disk : Disk} {path : String} {place : Place} {bytes : Bytes}

/-! ## What stays -/

structure KeepsFolders (before after : Disk) : Prop where
  working : after.working = before.working
  folder : ∀ place, before.node? place = some .folder → after.node? place = some .folder

structure Extends (before after : Disk) : Prop where
  working : after.working = before.working
  node : ∀ place node, before.node? place = some node → after.node? place = some node

theorem Extends.keepsFolders (grows : Extends before after) : KeepsFolders before after :=
  ⟨grows.working, fun place => grows.node place .folder⟩

theorem Extends.refl (disk : Disk) : Extends disk disk := ⟨rfl, fun _ _ here => here⟩

theorem Extends.trans (one : Extends before middle) (two : Extends middle after) :
    Extends before after :=
  ⟨two.working.trans one.working,
    fun place node here => two.node place node (one.node place node here)⟩

theorem KeepsFolders.refl (disk : Disk) : KeepsFolders disk disk := (Extends.refl disk).keepsFolders

theorem KeepsFolders.trans (one : KeepsFolders before middle) (two : KeepsFolders middle after) :
    KeepsFolders before after :=
  ⟨two.working.trans one.working, fun place here => two.folder place (one.folder place here)⟩

theorem enter_eq_ok : disk.enter place = .ok () ↔ disk.node? place = some .folder := by
  rw [enter]
  split
  · simp_all
  · simp_all
  · simp_all

theorem KeepsFolders.walk (keeps : KeepsFolders before after) {names : List String} {start : Place}
    (walks : before.walk start names = .ok place) : after.walk start names = .ok place := by
  induction names generalizing start with
  | nil => exact walks
  | cons name rest ih =>
      obtain ⟨_, enters, walks⟩ := Outcome.bind_eq_ok.1 walks
      obtain ⟨next, steps, walksRest⟩ := Outcome.bind_eq_ok.1 walks
      have entersAfter : after.enter start = .ok () :=
        enter_eq_ok.2 (keeps.folder _ (enter_eq_ok.1 enters))
      rw [Disk.walk, entersAfter, steps]
      exact ih walksRest

/-- The path can be walked at all. -/
def Walkable (path : String) : Prop :=
  ¬ path.toList.contains '\x00' ∧ ¬ path.toList.isEmpty ∧ ¬ pathMax < Utf8.size path.toList

theorem locate_eq_ok : disk.locate path = .ok place ↔
    Walkable path ∧ disk.walk (disk.start path.toList) (walkNames path.toList) = .ok place := by
  constructor
  · intro leads
    rw [locate] at leads
    split at leads
    · cases leads
    split at leads
    · cases leads
    split at leads
    · cases leads
    · next nul empty long => exact ⟨⟨nul, empty, long⟩, leads⟩
  · rintro ⟨⟨nul, empty, long⟩, walks⟩
    rw [locate, if_neg nul, if_neg empty, if_neg long]
    exact walks

theorem KeepsFolders.start (keeps : KeepsFolders before after) (path : List Char) :
    after.start path = before.start path := by
  rw [Disk.start, Disk.start, keeps.working]

/-- A path goes on leading to the place that it led to. -/
theorem KeepsFolders.locate (keeps : KeepsFolders before after)
    (leads : before.locate path = .ok place) : after.locate path = .ok place := by
  obtain ⟨walkable, walks⟩ := locate_eq_ok.1 leads
  refine locate_eq_ok.2 ⟨walkable, ?_⟩
  rw [keeps.start]
  exact keeps.walk walks

/-! ## Making folders -/

theorem extends_put (free : disk.node? place = none) (node : DiskNode) :
    Extends disk (disk.put place node) := by
  refine ⟨rfl, fun other held here => ?_⟩
  have differs : other ≠ place := by
    rintro rfl
    cases free.symm.trans here
  have apart : disk.node? place ≠ some .folder := by
    rw [free]
    exact nofun
  rw [node?_put apart, if_neg differs, here]

theorem makeFolder_extends (makes : before.makeFolder path = .ok after) :
    Extends before after := by
  obtain ⟨place, leads, makes⟩ := Outcome.bind_eq_ok.1 makes
  have reached {last : Except StreamFault Disk}
      (goes : (if pathEnd path.toList = .dot then before.enter place >>= fun _ => last
        else last) = .ok after) : last = .ok after := by
    by_cases dotted : pathEnd path.toList = .dot
    · rw [if_pos dotted] at goes
      obtain ⟨_, _, goes⟩ := Outcome.bind_eq_ok.1 goes
      exact goes
    · rw [if_neg dotted] at goes
      exact goes
  cases free : before.node? place with
  | some node =>
      rw [free] at makes
      cases reached makes
  | none =>
      rw [free] at makes
      obtain rfl := Except.ok.inj (reached makes)
      exact extends_put free .folder

theorem makeFolders_extends (fuel : Nat) (disk : Disk) (path : List Char) :
    Extends disk (makeFolders fuel disk path).2 := by
  induction fuel generalizing disk path with
  | zero => exact .refl disk
  | succ fuel ih =>
      rw [makeFolders]
      split
      · exact .refl disk
      · dsimp only
        split
        · next made makes => exact makeFolder_extends makes
        · have first := ih disk (parentPath path)
          split
          · next above result =>
              rw [result] at first
              exact first
          · next above result =>
              rw [result] at first
              split
              · next made makes => exact first.trans (makeFolder_extends makes)
              · split <;> exact first
        · split <;> exact .refl disk

theorem createFolders_extends (disk : Disk) (path : String) :
    Extends disk (disk.createFolders path).2 := makeFolders_extends _ disk _

/-! ## Writing a file -/

theorem write_eq_ok (writes : before.write path bytes = .ok after) :
    after.working = before.working ∧
    ∃ place, before.locate path = .ok place ∧ pathEnd path.toList = .name ∧
      before.node? place ≠ some .folder ∧
      ∀ other, after.node? other =
        if other = place then some (.file bytes) else before.node? other := by
  obtain ⟨⟨place, made⟩, creates, fills⟩ := Outcome.bind_eq_ok.1 writes
  obtain ⟨found, leads, creates⟩ := Outcome.bind_eq_ok.1 creates
  obtain rfl := Except.ok.inj fills
  cases ending : pathEnd path.toList with
  | slash =>
      rw [ending] at creates
      cases creates
  | dot =>
      rw [ending] at creates
      obtain ⟨_, _, creates⟩ := Outcome.bind_eq_ok.1 creates
      cases creates
  | name =>
      rw [ending] at creates
      dsimp only at creates
      split at creates
      · cases creates
      · next notFolder =>
          obtain ⟨rfl, rfl⟩ := Prod.mk.inj (Except.ok.inj creates)
          have apart : before.node? found ≠ some .folder := notFolder
          have empty : (before.put found (.file [])).node? found ≠ some .folder := by
            rw [node?_put apart, if_pos rfl]
            exact nofun
          refine ⟨rfl, found, leads, rfl, apart, fun other => ?_⟩
          rw [fill, node?_put empty, node?_put apart]
          split <;> rfl

theorem write_keepsFolders (writes : before.write path bytes = .ok after) :
    KeepsFolders before after := by
  obtain ⟨working, place, _, _, notFolder, holds⟩ := write_eq_ok writes
  refine ⟨working, fun other here => ?_⟩
  have differs : other ≠ place := by
    rintro rfl
    exact notFolder here
  rw [holds, if_neg differs, here]

/-! ## Writing many files -/

/-- Files are written one after the other, and nothing else changes what is there. -/
inductive Receives : Disk → List (String × Bytes) → Disk → Prop where
  | done (disk : Disk) : Receives disk [] disk
  | grows {before middle after : Disk} {files : List (String × Bytes)}
      (kept : Extends before middle) (rest : Receives middle files after) :
      Receives before files after
  | file {before middle after : Disk} {path : String} {bytes : Bytes}
      {files : List (String × Bytes)} (writes : before.write path bytes = .ok middle)
      (rest : Receives middle files after) : Receives before ((path, bytes) :: files) after

variable {files : List (String × Bytes)}

theorem Receives.append {more : List (String × Bytes)} (one : Receives before files middle)
    (two : Receives middle more after) : Receives before (files ++ more) after := by
  induction one with
  | done disk => exact two
  | grows grows _ ih => exact .grows grows (ih two)
  | file writes _ ih => exact .file writes (ih two)

theorem Receives.keepsFolders (receives : Receives before files after) :
    KeepsFolders before after := by
  induction receives with
  | done disk => exact .refl disk
  | grows grows _ ih => exact grows.keepsFolders.trans ih
  | file writes _ ih => exact (write_keepsFolders writes).trans ih

/-- A file goes on holding its bytes, unless others are written to its place: it then holds what one
of these brought. -/
theorem Receives.holds (receives : Receives before files after)
    (here : before.node? place = some (.file bytes)) :
    after.node? place = some (.file bytes) ∨
      ∃ file ∈ files, after.locate file.1 = .ok place ∧
        after.node? place = some (.file file.2) := by
  induction receives generalizing bytes with
  | done disk => exact .inl here
  | grows grows _ ih => exact ih (grows.node place _ here)
  | @file before middle after path written files writes rest ih =>
      obtain ⟨_, target, leads, _, _, holds⟩ := write_eq_ok writes
      have leadsAfter := rest.keepsFolders.locate ((write_keepsFolders writes).locate leads)
      by_cases hit : place = target
      · subst hit
        have replaced : middle.node? place = some (.file written) := by rw [holds, if_pos rfl]
        rcases ih replaced with kept | ⟨file, member, leadsFile, holdsFile⟩
        · exact .inr ⟨(path, written), List.mem_cons_self .., leadsAfter, kept⟩
        · exact .inr ⟨file, List.mem_cons_of_mem _ member, leadsFile, holdsFile⟩
      · have untouched : middle.node? place = some (.file bytes) := by rw [holds, if_neg hit, here]
        rcases ih untouched with kept | ⟨file, member, leadsFile, holdsFile⟩
        · exact .inl kept
        · exact .inr ⟨file, List.mem_cons_of_mem _ member, leadsFile, holdsFile⟩

/-- Where a file was written, one of the files that go to this place is found. -/
theorem Receives.found (receives : Receives before files after) {file : String × Bytes}
    (member : file ∈ files) :
    ∃ place, after.locate file.1 = .ok place ∧ pathEnd file.1.toList = .name ∧
      ∃ last ∈ files, after.locate last.1 = .ok place ∧
        after.node? place = some (.file last.2) := by
  induction receives with
  | done disk => cases member
  | grows _ _ ih => exact ih member
  | @file before middle after path bytes files writes rest ih =>
      rcases List.mem_cons.1 member with rfl | member
      · obtain ⟨_, place, leads, ending, _, holds⟩ := write_eq_ok writes
        have leadsAfter := rest.keepsFolders.locate ((write_keepsFolders writes).locate leads)
        have written : middle.node? place = some (.file bytes) := by rw [holds, if_pos rfl]
        refine ⟨place, leadsAfter, ending, ?_⟩
        rcases rest.holds written with kept | ⟨last, later, leadsLast, holdsLast⟩
        · exact ⟨(path, bytes), List.mem_cons_self .., leadsAfter, kept⟩
        · exact ⟨last, List.mem_cons_of_mem _ later, leadsLast, holdsLast⟩
      · obtain ⟨place, leads, ending, last, later, leadsLast, holdsLast⟩ := ih member
        exact ⟨place, leads, ending, last, List.mem_cons_of_mem _ later, leadsLast, holdsLast⟩

theorem read_of_holds (leads : disk.locate path = .ok place)
    (ending : pathEnd path.toList = .name) (holds : disk.node? place = some (.file bytes)) :
    disk.read path = .ok bytes := by
  simp [read, find, bytesAt, leads, ending, holds]

/-- All files keep what was written to them exactly if no two of them go to one place with different
bytes. -/
theorem Receives.kept_iff (receives : Receives before files after) :
    (∀ file ∈ files, after.read file.1 = .ok file.2) ↔
      ∀ file ∈ files, ∀ other ∈ files, after.locate file.1 = after.locate other.1 →
        file.2 = other.2 := by
  constructor
  · intro kept file member other listed same
    obtain ⟨place, leads, ending, last, _, _, holds⟩ := receives.found member
    obtain ⟨_, leadsOther, endingOther, _⟩ := receives.found listed
    obtain rfl := Except.ok.inj (leadsOther.symm.trans (same.symm.trans leads))
    have one := (read_of_holds leads ending holds).symm.trans (kept file member)
    have two := (read_of_holds leadsOther endingOther holds).symm.trans (kept other listed)
    exact (Except.ok.inj one).symm.trans (Except.ok.inj two)
  · intro unique file member
    obtain ⟨place, leads, ending, last, listed, leadsLast, holds⟩ := receives.found member
    rw [unique file member last listed (leads.trans leadsLast.symm)]
    exact read_of_holds leads ending holds

end Disk

end Sluice
