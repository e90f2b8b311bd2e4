import Sluice.Failure

/-!
# Outcomes

Taking a chain of computations that may fail apart.
-/

set_option autoImplicit false

namespace Sluice

namespace Outcome

variable {ε α β : Type}

theorem bind_eq_ok {first : Except ε α} {next : α → Except ε β} {value : β} :
    (first >>= next) = .ok value ↔ ∃ middle, first = .ok middle ∧ next middle = .ok value := by
  cases first with
  | error failure => simp [bind, Except.bind]
  | ok middle => simp [bind, Except.bind]

theorem bind_eq_error {first : Except ε α} {next : α → Except ε β} {failure : ε} :
    (first >>= next) = .error failure ↔
      first = .error failure ∨ ∃ middle, first = .ok middle ∧ next middle = .error failure := by
  cases first with
  | error met => simp [bind, Except.bind]
  | ok middle => simp [bind, Except.bind]

theorem map_eq_ok {outcome : Except ε α} {change : α → β} {value : β} :
    outcome.map change = .ok value ↔ ∃ result, outcome = .ok result ∧ change result = value := by
  cases outcome with
  | error failure => simp [Except.map]
  | ok result => simp [Except.map]

@[simp] theorem ok_bind (middle : α) (next : α → Except ε β) :
    (Except.ok middle >>= next) = next middle := rfl

theorem mapError_bind {φ : Type} (first : Except ε α) (next : α → Except ε β) (change : ε → φ) :
    (first >>= next).mapError change =
      first.mapError change >>= fun value => (next value).mapError change := by
  cases first with
  | error failure => rfl
  | ok middle => rfl

/-- What follows a check succeeds where the check lets it. -/
theorem checked_eq_ok {bad : Prop} [Decidable bad] {failure : ε} {next : PUnit → Except ε α}
    {value : α} : (if bad then throw failure >>= next else next ⟨⟩) = .ok value ↔
      ¬ bad ∧ next ⟨⟩ = .ok value := by
  by_cases refused : bad
  · simp only [refused, if_true, not_true, false_and, iff_false]
    exact nofun
  · simp only [refused, if_false, not_false_eq_true, true_and]

theorem eq_ok_of_toOption {outcome : Except ε α} {value : α}
    (found : outcome.toOption = some value) : outcome = .ok value := by
  cases outcome with
  | error failure => cases found
  | ok result => exact congrArg Except.ok (Option.some.inj found)

/-! ## Lists of outcomes -/

/-- The results of a list of outcomes, unless one of them is a failure: the first decides. -/
def gather : List (Except ε α) → Except ε (List α)
  | [] => .ok []
  | outcome :: rest => do
    let first ← outcome
    .ok (first :: (← gather rest))

variable {outcomes : List (Except ε α)}

theorem gather_eq_ok {results : List α} :
    gather outcomes = .ok results ↔ outcomes = results.map .ok := by
  induction outcomes generalizing results with
  | nil =>
      rw [gather, Except.ok.injEq, eq_comm, eq_comm (a := []), List.map_eq_nil_iff]
  | cons outcome rest ih =>
      simp only [gather, bind_eq_ok, ih, Except.ok.injEq]
      constructor
      · rintro ⟨first, rfl, others, rfl, rfl⟩
        rfl
      · intro same
        obtain ⟨first, others, rfl, rfl, rfl⟩ := List.map_eq_cons_iff.1 same.symm
        exact ⟨first, rfl, others, rfl, rfl⟩

/-- The failure is that of the least position at which there is one. -/
theorem gather_eq_error {failure : ε} :
    gather outcomes = .error failure ↔ ∃ position : Nat,
      outcomes[position]? = some (.error failure) ∧
        ∀ earlier < position, ∃ result, outcomes[earlier]? = some (.ok result) := by
  induction outcomes with
  | nil => simp [gather]
  | cons outcome rest ih =>
      cases outcome with
      | error met =>
          constructor
          · intro same
            obtain rfl := Except.error.inj same
            exact ⟨0, rfl, fun earlier less => (Nat.not_lt_zero _ less).elim⟩
          · rintro ⟨_ | position, fails, passed⟩
            · exact congrArg _ (Except.error.inj (Option.some.inj fails))
            · obtain ⟨result, same⟩ := passed 0 (Nat.succ_pos _)
              cases same
      | ok first =>
          have following : gather (.ok first :: rest) = .error failure ↔
              gather rest = .error failure := by
            rw [gather, ok_bind]
            cases gather rest with
            | error met => exact Iff.rfl
            | ok others => exact ⟨nofun, nofun⟩
          rw [following, ih]
          constructor
          · rintro ⟨position, fails, passed⟩
            refine ⟨position + 1, fails, fun earlier less => ?_⟩
            cases earlier with
            | zero => exact ⟨first, rfl⟩
            | succ earlier => exact passed earlier (Nat.lt_of_succ_lt_succ less)
          · rintro ⟨_ | position, fails, passed⟩
            · cases Option.some.inj fails
            · exact ⟨position, fails, fun earlier less => passed (earlier + 1) (by omega)⟩

theorem exists_gather_iff :
    (∃ results, gather outcomes = .ok results) ↔
      ∀ outcome ∈ outcomes, ∃ result, outcome = .ok result := by
  constructor
  · rintro ⟨results, gathers⟩ outcome member
    rw [gather_eq_ok.1 gathers] at member
    obtain ⟨result, _, rfl⟩ := List.mem_map.1 member
    exact ⟨result, rfl⟩
  · intro each
    cases gathers : gather outcomes with
    | ok results => exact ⟨results, rfl⟩
    | error failure =>
        obtain ⟨position, fails, _⟩ := gather_eq_error.1 gathers
        obtain ⟨result, same⟩ := each _ (List.mem_of_getElem? fails)
        cases same

/-! ## Two outcomes -/

inductive Agree (related : α → β → Prop) : Except ε α → Except ε β → Prop where
  | failed (one two : ε) : Agree related (.error one) (.error two)
  | done {one : α} {two : β} (relates : related one two) : Agree related (.ok one) (.ok two)

section Agree

variable {γ δ : Type}

theorem Agree.map {related : α → β → Prop} {following : γ → δ → Prop} {one : Except ε α}
    {two : Except ε β} {change : α → γ} {changeToo : β → δ} (agree : Agree related one two)
    (follows : ∀ first second, one = .ok first → related first second →
      following (change first) (changeToo second)) :
    Agree following (one.map change) (two.map changeToo) := by
  cases agree with
  | failed one two => exact .failed one two
  | done relates => exact .done (follows _ _ rfl relates)

theorem Agree.bind {related : α → β → Prop} {following : γ → δ → Prop} {one : Except ε α}
    {two : Except ε β} {next : α → Except ε γ} {nextToo : β → Except ε δ}
    (agree : Agree related one two)
    (follows : ∀ first second, related first second →
      Agree following (next first) (nextToo second)) :
    Agree following (one >>= next) (two >>= nextToo) := by
  cases agree with
  | failed one two => exact .failed one two
  | done relates => exact follows _ _ relates

theorem Agree.trans {related : α → α → Prop} {one two three : Except ε α}
    (first : Agree related one two) (second : Agree related two three)
    (joins : ∀ one two three, related one two → related two three → related one three) :
    Agree related one three := by
  cases first with
  | failed one two =>
      cases second with
      | failed _ three => exact .failed one three
  | done relates =>
      cases second with
      | done relatesToo => exact .done (joins _ _ _ relates relatesToo)

end Agree

/-- Where outcomes change places, so do their results; but another failure may come first. -/
theorem gather_perm {others : List (Except ε α)} (perm : outcomes.Perm others) :
    Agree List.Perm (gather outcomes) (gather others) := by
  induction perm with
  | nil => exact .done .nil
  | cons outcome _ ih =>
      cases outcome with
      | error failure => exact .failed failure failure
      | ok result => exact ih.bind fun _ _ perm => .done (perm.cons result)
  | swap one two rest =>
      -- The first failure may be another one now, but there still is one.
      simp only [gather]
      rcases one with failure | one <;> rcases two with other | two <;>
        rcases gather rest with last | results
      all_goals first | exact .failed _ _ | exact .done (.swap ..)
  | trans _ _ ih ihToo => exact ih.trans ihToo fun _ _ _ => List.Perm.trans

end Outcome

end Sluice
