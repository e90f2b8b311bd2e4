import Sluice.Script.Engine

/-!
# What an expression depends on

An expression can ask for variables and for functions.  Two environments that agree on the variables
it names give it the same value, unless it calls one of the functions that look at the environment.
Folding constants adds nothing to what is asked for.
-/

set_option autoImplicit false

namespace Sluice

namespace Script

inductive Mention where
  | reads (name : String)
  | calls (name : String)
  deriving DecidableEq, Repr

mutual

def Expr.mentions : Expr → List Mention
  | .constant _ => []
  | .reference name => [.reads name]
  | .template parts => mentionsOfAll parts
  | .list items => mentionsOfAll items
  | .map entries => mentionsOfEntries entries
  | .call name arguments => .calls name :: mentionsOfAll arguments
  | .unary _ operand => operand.mentions
  | .binary _ left right => left.mentions ++ right.mentions
  | .within item container => item.mentions ++ container.mentions
  | .both left right => left.mentions ++ right.mentions
  | .either left right => left.mentions ++ right.mentions
  | .coalesce left right => left.mentions ++ right.mentions
  | .conditional guard yes no => guard.mentions ++ (yes.mentions ++ no.mentions)
  | .choice subject branches otherwise =>
    subject.mentions ++ (mentionsOfBranches branches ++ otherwise.mentions)
  | .chain root links => root.mentions ++ mentionsOfLinks links

def mentionsOfAll : List Expr → List Mention
  | [] => []
  | e :: rest => e.mentions ++ mentionsOfAll rest

def mentionsOfEntries : List (String × Expr) → List Mention
  | [] => []
  | (_, e) :: rest => e.mentions ++ mentionsOfEntries rest

def mentionsOfLinks : List Link → List Mention
  | [] => []
  | link :: rest => link.mentions ++ mentionsOfLinks rest

/-- A method is none of the functions that look at the environment. -/
def Link.mentions : Link → List Mention
  | .property _ _ => []
  | .method _ arguments _ => mentionsOfAll arguments
  | .index index _ => index.mentions

def mentionsOfBranches : List Branch → List Mention
  | [] => []
  | .case _ guard value :: rest => guard.mentions ++ (value.mentions ++ mentionsOfBranches rest)

end

def mentionsOf (source : String) : List Mention :=
  ((parse? (plainSource source.toList)).map Expr.mentions).getD []

/-! ## Folding -/

theorem mentions_foldBinary (op : BinaryOperator) (left right : Expr) :
    (foldBinary op left right).mentions ⊆ left.mentions ++ right.mentions := by
  unfold foldBinary
  split
  · split
    · split
      · exact List.nil_subset _
      · exact List.Subset.refl _
    · exact List.Subset.refl _
  · exact List.Subset.refl _

theorem mentions_foldBoth (left right : Expr) :
    (foldBoth left right).mentions ⊆ left.mentions ++ right.mentions := by
  unfold foldBoth
  split
  · exact List.subset_append_right _ _
  · exact List.nil_subset _
  · exact List.subset_append_left _ _
  · exact List.Subset.refl _

theorem mentions_foldEither (left right : Expr) :
    (foldEither left right).mentions ⊆ left.mentions ++ right.mentions := by
  unfold foldEither
  split
  · exact List.subset_append_right _ _
  · exact List.nil_subset _
  · exact List.subset_append_left _ _
  · exact List.Subset.refl _

theorem mentions_foldCoalesce (left right : Expr) :
    (foldCoalesce left right).mentions ⊆ left.mentions ++ right.mentions := by
  unfold foldCoalesce
  split
  · exact List.subset_append_right _ _
  · exact List.nil_subset _
  · exact List.Subset.refl _

theorem mentions_foldConditional (guard yes no : Expr) :
    (foldConditional guard yes no).mentions ⊆
      guard.mentions ++ (yes.mentions ++ no.mentions) := by
  unfold foldConditional
  split
  · exact List.subset_append_of_subset_right _ (List.subset_append_left _ _)
  · exact List.subset_append_of_subset_right _ (List.subset_append_right _ _)
  · exact List.Subset.refl _

theorem append_subset_append {α : Type} {first second third fourth : List α}
    (one : first ⊆ third) (two : second ⊆ fourth) : first ++ second ⊆ third ++ fourth :=
  List.append_subset.2 ⟨List.subset_append_of_subset_left _ one,
    List.subset_append_of_subset_right _ two⟩

mutual

theorem Expr.mentions_fold : ∀ e : Expr, e.fold.mentions ⊆ e.mentions
  | .constant _ => List.Subset.refl _
  | .reference _ => List.Subset.refl _
  | .template parts => mentions_foldAll parts
  | .list items => mentions_foldAll items
  | .map entries => mentions_foldEntries entries
  | .call _ arguments => List.cons_subset_cons _ (mentions_foldAll arguments)
  | .unary _ operand => operand.mentions_fold
  | .binary op left right => List.Subset.trans (mentions_foldBinary op _ _)
      (append_subset_append left.mentions_fold right.mentions_fold)
  | .within item container => append_subset_append item.mentions_fold container.mentions_fold
  | .both left right => List.Subset.trans (mentions_foldBoth _ _)
      (append_subset_append left.mentions_fold right.mentions_fold)
  | .either left right => List.Subset.trans (mentions_foldEither _ _)
      (append_subset_append left.mentions_fold right.mentions_fold)
  | .coalesce left right => List.Subset.trans (mentions_foldCoalesce _ _)
      (append_subset_append left.mentions_fold right.mentions_fold)
  | .conditional guard yes no => List.Subset.trans (mentions_foldConditional _ _ _)
      (append_subset_append guard.mentions_fold
        (append_subset_append yes.mentions_fold no.mentions_fold))
  | .choice subject branches otherwise => append_subset_append subject.mentions_fold
      (append_subset_append (mentions_foldBranches branches) otherwise.mentions_fold)
  | .chain root links => append_subset_append root.mentions_fold (mentions_foldLinks links)

theorem mentions_foldAll : ∀ items : List Expr, mentionsOfAll (foldAll items) ⊆ mentionsOfAll items
  | [] => List.Subset.refl _
  | e :: rest => append_subset_append e.mentions_fold (mentions_foldAll rest)

theorem mentions_foldEntries : ∀ entries : List (String × Expr),
    mentionsOfEntries (foldEntries entries) ⊆ mentionsOfEntries entries
  | [] => List.Subset.refl _
  | (_, e) :: rest => append_subset_append e.mentions_fold (mentions_foldEntries rest)

theorem mentions_foldLinks : ∀ links : List Link,
    mentionsOfLinks (foldLinks links) ⊆ mentionsOfLinks links
  | [] => List.Subset.refl _
  | link :: rest => append_subset_append link.mentions_fold (mentions_foldLinks rest)

theorem Link.mentions_fold : ∀ link : Link, link.fold.mentions ⊆ link.mentions
  | .property _ _ => List.Subset.refl _
  | .method _ arguments _ => mentions_foldAll arguments
  | .index index _ => index.mentions_fold

theorem mentions_foldBranches : ∀ branches : List Branch,
    mentionsOfBranches (foldBranches branches) ⊆ mentionsOfBranches branches
  | [] => List.Subset.refl _
  | .case _ guard value :: rest => append_subset_append guard.mentions_fold
      (append_subset_append value.mentions_fold (mentions_foldBranches rest))

end

theorem mentions_compiled {source : String} {tree : Expr} (compiles : compile? source = some tree) :
    tree.mentions ⊆ mentionsOf source := by
  rw [compile?, compilePlain?] at compiles
  obtain ⟨parsed, parses, rfl⟩ := Option.map_eq_some_iff.1 compiles
  rw [mentionsOf, parses]
  exact parsed.mentions_fold

/-! ## Evaluation -/

/-- The environments give the same values to the variables that are asked for, and no function is
asked for that could look at anything else of them. -/
structure SeeAlike (mentions : List Mention) (env other : Environment) : Prop where
  reads : ∀ name, .reads name ∈ mentions → env.find name = other.find name
  noLookup : .calls "is_def_var" ∉ mentions
  noRun : .calls "eval" ∉ mentions

namespace SeeAlike

variable {first second : List Mention} {env other : Environment}

theorem subset (alike : SeeAlike second env other) (fewer : first ⊆ second) :
    SeeAlike first env other where
  reads name member := alike.reads name (fewer member)
  noLookup member := alike.noLookup (fewer member)
  noRun member := alike.noRun (fewer member)

theorem left (alike : SeeAlike (first ++ second) env other) : SeeAlike first env other :=
  alike.subset (List.subset_append_left _ _)

theorem right (alike : SeeAlike (first ++ second) env other) : SeeAlike second env other :=
  alike.subset (List.subset_append_right _ _)

theorem tail {mention : Mention} (alike : SeeAlike (mention :: second) env other) :
    SeeAlike second env other :=
  alike.subset (List.subset_cons_self _ _)

theorem invoke {name : String} (alike : SeeAlike (.calls name :: second) env other)
    (values : List Datum) : invoke env name values = Script.invoke other name values := by
  have notLookup : name ≠ "is_def_var" := by
    rintro rfl
    exact alike.noLookup (List.mem_cons_self ..)
  have notRun : name ≠ "eval" := by
    rintro rfl
    exact alike.noRun (List.mem_cons_self ..)
  unfold Script.invoke
  split
  · exact absurd rfl notLookup
  · exact absurd rfl notRun
  · rfl
  · rfl
  · rfl

end SeeAlike

variable {env other : Environment}

mutual

/-- The value of an expression depends on the variables that it names. -/
theorem Expr.eval_alike : ∀ e : Expr, SeeAlike e.mentions env other → e.eval env = e.eval other
  | .constant _, _ => rfl
  | .reference name, alike => by
      simp only [Expr.eval, Environment.read, alike.reads name (List.mem_singleton_self _)]
  | .template parts, alike => by simp only [Expr.eval, evalAll_alike parts alike]
  | .list items, alike => by simp only [Expr.eval, evalAll_alike items alike]
  | .map entries, alike => by simp only [Expr.eval, evalEntries_alike entries alike]
  | .call name [], alike => alike.invoke []
  | .call name (first :: rest), alike => by
      have arguments : SeeAlike (first.mentions ++ mentionsOfAll rest) env other := alike.tail
      simp only [Expr.eval, first.eval_alike arguments.left, evalAll_alike rest arguments.right,
        alike.invoke]
  | .unary _ operand, alike => by simp only [Expr.eval, operand.eval_alike alike]
  | .binary _ left right, alike => by
      simp only [Expr.eval, left.eval_alike alike.left, right.eval_alike alike.right]
  | .within item container, alike => by
      simp only [Expr.eval, item.eval_alike alike.left, container.eval_alike alike.right]
  | .both left right, alike => by
      simp only [Expr.eval, left.eval_alike alike.left, right.eval_alike alike.right]
  | .either left right, alike => by
      simp only [Expr.eval, left.eval_alike alike.left, right.eval_alike alike.right]
  | .coalesce left right, alike => by
      simp only [Expr.eval, left.eval_alike alike.left, right.eval_alike alike.right]
  | .conditional guard yes no, alike => by
      simp only [Expr.eval, guard.eval_alike alike.left, yes.eval_alike alike.right.left,
        no.eval_alike alike.right.right]
  | .choice subject branches otherwise, alike => by
      simp only [Expr.eval, subject.eval_alike alike.left,
        evalBranches_alike branches alike.right.left, otherwise.eval_alike alike.right.right]
  | .chain root links, alike => by
      simp only [Expr.eval, root.eval_alike alike.left, evalLinks_alike links alike.right]

theorem evalAll_alike : ∀ items : List Expr, SeeAlike (mentionsOfAll items) env other →
    evalAll env items = evalAll other items
  | [], _ => rfl
  | e :: rest, alike => by
      simp only [evalAll, e.eval_alike alike.left, evalAll_alike rest alike.right]

theorem evalEntries_alike : ∀ entries : List (String × Expr),
    SeeAlike (mentionsOfEntries entries) env other →
      evalEntries env entries = evalEntries other entries
  | [], _ => rfl
  | (_, e) :: rest, alike => by
      simp only [evalEntries, e.eval_alike alike.left, evalEntries_alike rest alike.right]

theorem evalLinks_alike : ∀ links : List Link, SeeAlike (mentionsOfLinks links) env other →
    evalLinks env links = evalLinks other links
  | [], _ => rfl
  | link :: rest, alike => by
      simp only [evalLinks, link.evalArguments_alike alike.left, evalLinks_alike rest alike.right]

theorem Link.evalArguments_alike : ∀ link : Link, SeeAlike link.mentions env other →
    link.evalArguments env = link.evalArguments other
  | .property _ _, _ => rfl
  | .method _ arguments _, alike => evalAll_alike arguments alike
  | .index index _, alike => by simp only [Link.evalArguments, index.eval_alike alike]

theorem evalBranches_alike : ∀ branches : List Branch,
    SeeAlike (mentionsOfBranches branches) env other → ∀ chosen,
      evalBranches env chosen branches = evalBranches other chosen branches
  | [], _, _ => rfl
  | .case _ guard value :: rest, alike, chosen => by
      simp only [evalBranches, guard.eval_alike alike.left, value.eval_alike alike.right.left,
        evalBranches_alike rest alike.right.right]

end

end Script

end Sluice
