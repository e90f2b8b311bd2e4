import Sluice.Disk.Destination
import Sluice.Proofs.Disk.Store

/-!
# Places below a folder

A name that a destination accepts does not lead back, so its pieces are the names of the place below
the folder's own.  Two such names lead to one place exactly if they have the same pieces.
-/

set_option autoImplicit false

namespace Sluice

/-! ## Pieces -/

namespace Path

theorem pieces_ne_nil (path : List Char) : pieces path ≠ [] := by
  cases path with
  | nil => exact List.cons_ne_nil _ _
  | cons c rest =>
      rw [pieces]
      split
      · exact List.cons_ne_nil _ _
      · split <;> exact List.cons_ne_nil _ _

theorem pieces_slash (folder name : List Char) :
    pieces (folder ++ '/' :: name) = pieces folder ++ pieces name := by
  induction folder with
  | nil => simp [pieces]
  | cons c rest ih =>
      rw [List.cons_append, pieces, pieces, ih]
      by_cases slash : c = '/'
      · rw [if_pos slash, if_pos slash, List.cons_append]
      · rw [if_neg slash, if_neg slash]
        cases cut : pieces rest with
        | nil => exact (pieces_ne_nil rest cut).elim
        | cons piece more => rfl

theorem relative_of_stays {path : List Char} (stays : (components path).all staysBelow = true) :
    isAbsolute path = false := by
  cases absolute : isAbsolute path with
  | false => rfl
  | true => simp [components, absolute, staysBelow] at stays

theorem isAbsolute_append {folder : List Char} (named : folder ≠ []) (more : List Char) :
    isAbsolute (folder ++ more) = isAbsolute folder := by
  cases folder with
  | nil => exact absurd rfl named
  | cons c rest => rfl

theorem isAbsolute_join {name : List Char} (relative : isAbsolute name = false)
    (folder : List Char) : isAbsolute (join folder name) = isAbsolute folder := by
  rw [join, relative, Bool.false_or]
  by_cases bare : folder = []
  · subst bare
    exact relative
  · have named : folder.isEmpty = false := by simpa using bare
    rw [named, if_neg Bool.false_ne_true]
    split <;> exact isAbsolute_append bare _

end Path

namespace Disk

variable {disk : Disk} {folder name path : List Char}

theorem walkNames_slash (folder name : List Char) :
    walkNames (folder ++ '/' :: name) = walkNames folder ++ walkNames name := by
  simp [walkNames, Path.pieces_slash]

theorem walkNames_join (relative : Path.isAbsolute name = false) :
    walkNames (Path.join folder name) = walkNames folder ++ walkNames name := by
  rw [Path.join, relative, Bool.false_or]
  by_cases bare : folder = []
  · subst bare
    rfl
  · have named : folder.isEmpty = false := by simpa using bare
    rw [named, if_neg Bool.false_ne_true]
    split
    · next slash =>
        obtain ⟨front, rfl⟩ := List.getLast?_eq_some_iff.1 slash
        rw [List.append_assoc, List.singleton_append, walkNames_slash, walkNames_slash]
        have none : walkNames [] = [] := rfl
        rw [none, List.append_nil]
    · exact walkNames_slash folder name

theorem parent_of_back (back : ".." ∈ walkNames path) : .parent ∈ Path.components path := by
  obtain ⟨piece, member, named⟩ := List.mem_map.1 back
  obtain rfl : piece = ['.', '.'] := by rw [← String.toList_ofList (l := piece), named]; rfl
  have listed : ['.', '.'] ∈ Path.pieces path := (List.mem_filter.1 member).1
  exact List.mem_append_right _ (List.mem_filterMap.2 ⟨_, listed, rfl⟩)

/-! ## Walks -/

theorem walk_append (disk : Disk) (start : Place) (names more : List String) :
    disk.walk start (names ++ more) =
      disk.walk start names >>= fun place => disk.walk place more := by
  induction names generalizing start with
  | nil => rfl
  | cons name rest ih =>
      rw [List.cons_append, walk, walk]
      cases disk.enter start with
      | error fault => rfl
      | ok _ =>
          cases stepTo start name with
          | error fault => rfl
          | ok next => exact ih next

/-- Without a step back, the names that are walked are those of the place. -/
theorem walk_down {names : List String} {start place : Place} (down : ".." ∉ names)
    (walks : disk.walk start names = .ok place) : place = start ++ names := by
  induction names generalizing start with
  | nil =>
      obtain rfl := Except.ok.inj walks
      exact (List.append_nil start).symm
  | cons name rest ih =>
      obtain ⟨_, _, walks⟩ := Outcome.bind_eq_ok.1 walks
      obtain ⟨next, steps, walksRest⟩ := Outcome.bind_eq_ok.1 walks
      have notBack : name ≠ ".." := by
        rintro rfl
        exact down (List.mem_cons_self ..)
      have downRest : ".." ∉ rest := fun member => down (List.mem_cons_of_mem _ member)
      rw [stepTo, if_neg notBack] at steps
      split at steps
      · cases steps
      · obtain rfl := Except.ok.inj steps
        rw [ih downRest walksRest, List.append_assoc, List.singleton_append]

/-- The path begins where the folder's own does, and goes on below it without a step back. -/
def GoesBelow (folder : String) (path : String) : Prop :=
  Path.isAbsolute path.toList = Path.isAbsolute folder.toList ∧
    ∃ names, ".." ∉ names ∧ walkNames path.toList = walkNames folder.toList ++ names

theorem GoesBelow.start {folder path : String} (below : GoesBelow folder path) (disk : Disk) :
    disk.start path.toList = disk.start folder.toList := by
  rw [Disk.start, Disk.start, below.1]

theorem GoesBelow.trans {outer inner path : String} (one : GoesBelow outer inner)
    (two : GoesBelow inner path) : GoesBelow outer path := by
  obtain ⟨begins, names, down, first⟩ := one
  obtain ⟨beginsToo, more, downMore, second⟩ := two
  refine ⟨beginsToo.trans begins, names ++ more, ?_, ?_⟩
  · rw [List.mem_append]
    exact not_or.2 ⟨down, downMore⟩
  · rw [second, first, List.append_assoc]

theorem destination_eq_ok {folder name path : String}
    (leads : Path.destination folder name = .ok path) :
    ".." ∉ walkNames name.toList ∧
      walkNames path.toList = walkNames folder.toList ++ walkNames name.toList := by
  rw [Path.destination] at leads
  split at leads
  · next accepted =>
      obtain rfl := Except.ok.inj leads
      obtain ⟨_, stays⟩ := Bool.and_eq_true_iff.1 accepted
      refine ⟨?_, ?_⟩
      · intro back
        have parent := List.all_eq_true.1 stays _ (parent_of_back back)
        cases parent
      · rw [String.toList_ofList, walkNames_join (Path.relative_of_stays stays)]
  · cases leads

theorem isAbsolute_destination {folder name path : String}
    (leads : Path.destination folder name = .ok path) :
    Path.isAbsolute path.toList = Path.isAbsolute folder.toList := by
  rw [Path.destination] at leads
  split at leads
  · next accepted =>
      obtain rfl := Except.ok.inj leads
      obtain ⟨_, stays⟩ := Bool.and_eq_true_iff.1 accepted
      rw [String.toList_ofList, Path.isAbsolute_join (Path.relative_of_stays stays)]
  · cases leads

theorem destination_goesBelow {folder name path : String}
    (leads : Path.destination folder name = .ok path) : GoesBelow folder path :=
  ⟨isAbsolute_destination leads, _, destination_eq_ok leads⟩

theorem GoesBelow.locate {folder path : String} (below : GoesBelow folder path) {place : Place}
    (leads : disk.locate path = .ok place) :
    ∃ base names, disk.walk (disk.start folder.toList) (walkNames folder.toList) = .ok base ∧
      walkNames path.toList = walkNames folder.toList ++ names ∧ place = base ++ names := by
  obtain ⟨_, walks⟩ := locate_eq_ok.1 leads
  rw [below.start] at walks
  obtain ⟨_, names, down, pieces⟩ := below
  rw [pieces, walk_append] at walks
  obtain ⟨base, first, second⟩ := Outcome.bind_eq_ok.1 walks
  exact ⟨base, names, first, pieces, walk_down down second⟩

/-- Paths below one folder lead to one place exactly if they have the same pieces. -/
theorem locate_eq_iff {folder path other : String} (below : GoesBelow folder path)
    (otherBelow : GoesBelow folder other) {place otherPlace : Place}
    (leads : disk.locate path = .ok place) (otherLeads : disk.locate other = .ok otherPlace) :
    place = otherPlace ↔ walkNames path.toList = walkNames other.toList := by
  obtain ⟨base, names, walks, pieces, rfl⟩ := below.locate leads
  obtain ⟨base', names', walks', pieces', rfl⟩ := otherBelow.locate otherLeads
  obtain rfl := Except.ok.inj (walks.symm.trans walks')
  rw [pieces, pieces', List.append_cancel_left_eq, List.append_cancel_left_eq]

/-- Files written below one folder are all kept exactly if no two that differ have paths with the
same pieces. -/
theorem Receives.kept_below_iff {folder : String} {before after : Disk}
    {files : List (String × Bytes)} (receives : Receives before files after)
    (below : ∀ file ∈ files, GoesBelow folder file.1) :
    (∀ file ∈ files, after.read file.1 = .ok file.2) ↔
      ∀ file ∈ files, ∀ other ∈ files,
        walkNames file.1.toList = walkNames other.1.toList → file.2 = other.2 := by
  rw [receives.kept_iff]
  refine forall₄_congr fun file member other listed => ?_
  obtain ⟨place, leads, _⟩ := receives.found member
  obtain ⟨otherPlace, otherLeads, _⟩ := receives.found listed
  rw [leads, otherLeads, Except.ok.injEq,
    locate_eq_iff (below file member) (below other listed) leads otherLeads]

end Disk

end Sluice
