import Sluice.Proofs.Script.PlainForm

/-!
# Plain forms are normal

Outside its literals the plain form has neither single quotes nor strict comparisons, unless a
fourth character could join what is left of one, and what has neither is its own plain form.
Rewriting twice is therefore the same as rewriting once.
-/

set_option autoImplicit false

namespace Sluice

namespace Script

/-! ## What the plain form is free of -/

def strictRuns : Context → List (List Char)
  | .code => [['\''], ['=', '=', '='], ['!', '=', '=']]
  | _ => []

/-- Outside all literals, a strict comparison and one character more that would join what is left of
it. -/
def overlongRuns : Context → List (List Char)
  | .code => [['=', '=', '=', '='], ['!', '=', '=', '=']]
  | _ => []

theorem no_strictRun {c : Char} {rest : List Char} (notSingle : c ≠ '\'')
    (ends : c = '=' ∨ c = '!' → ¬ ['=', '='] <+: rest) :
    ∀ run ∈ strictRuns .code, ¬ run <+: c :: rest := by
  simp only [strictRuns, List.forall_mem_cons, List.cons_prefix_cons]
  refine ⟨fun single => notSingle single.1.symm, fun equals => ?_, fun unequals => ?_, nofun⟩
  · exact ends (.inl equals.1.symm) equals.2
  · exact ends (.inr unequals.1.symm) unequals.2

theorem no_strictRun_quote {quote : Char} (kept : IsKept quote) (rest : List Char) :
    ∀ run ∈ strictRuns .code, ¬ run <+: quote :: rest := by
  rcases kept with rfl | rfl
  · exact no_strictRun (by decide) fun comparison => absurd comparison (by decide)
  · exact no_strictRun (by decide) fun comparison => absurd comparison (by decide)

/-- A comparison of two characters is not one of three if no `=` follows. -/
theorem strictRuns_comparison {c : Char} (comparison : c = '=' ∨ c = '!') {rest : List Char}
    (ends : rest.head? ≠ some '=') (avoids : Context.code.Avoids strictRuns rest) :
    Context.code.Avoids strictRuns (c :: '=' :: rest) := by
  have opens := isComparison_opens comparison
  refine Context.avoids_cons.2 ⟨no_strictRun opens.2.2 fun _ equals => ?_, ?_⟩
  · exact not_prefix_of_head ends [] (List.cons_prefix_cons.1 equals).2
  · rw [Context.step_code opens]
    refine Context.avoids_cons.2 ⟨no_strictRun (by decide) fun _ => ?_, avoids⟩
    exact not_prefix_of_head ends ['=']

/-- A literal in front of what is free of them. -/
theorem strictRuns_literal {quote : Char} (kept : IsKept quote) {body rest : List Char}
    (closes : LiteralBody quote body) (avoids : Context.code.Avoids strictRuns rest) :
    Context.code.Avoids strictRuns (quote :: (body ++ quote :: rest)) := by
  refine Context.avoids_cons.2 ⟨no_strictRun_quote kept _, ?_⟩
  rw [kept.step_code]
  exact Context.avoids_body ⟨rfl, rfl⟩ closes (Context.avoids_closing rfl kept.ne_backslash avoids)

/-- Where a literal is left open, nothing follows. -/
theorem strictRuns_leftOpen {quote : Char} (kept : IsKept quote) {body : List Char}
    (inside : LeftOpen quote body) :
    Context.code.Avoids strictRuns (quote :: body) := by
  refine Context.avoids_cons.2 ⟨no_strictRun_quote kept _, ?_⟩
  rw [kept.step_code]
  rcases inside with inside | ⟨body, inside, rfl⟩
  · have ends : (Context.within quote).Avoids strictRuns [] := Context.avoids_nil.2 nofun
    simpa using Context.avoids_body ⟨rfl, rfl⟩ inside ends
  · refine Context.avoids_body ⟨rfl, rfl⟩ inside ?_
    exact Context.avoids_cons.2 ⟨nofun, Context.avoids_nil.2 nofun⟩

theorem PlainForm.avoids_strictRuns {text plain : List Char} (form : PlainForm text plain)
    (free : Context.code.Avoids overlongRuns text) :
    Context.code.Avoids strictRuns plain := by
  have empty : Context.code.Avoids strictRuns [] := Context.avoids_nil.2 (by decide)
  induction form with
  | nil => exact empty
  | @char c rest plain opens alone form ih =>
      have freeRest := (Context.avoids_cons.1 free).2
      rw [Context.step_code opens] at freeRest
      have ends := fun which => not_prefix_of_head (form.head_ne (by decide) (alone which)) ['=']
      refine Context.avoids_cons.2 ⟨no_strictRun opens.2.2 ends, ?_⟩
      rw [Context.step_code opens]
      exact ih freeRest
  | @loose c rest plain comparison ends form ih =>
      have freeRest : Context.code.Avoids overlongRuns rest :=
        free.behind_unquoted [c, '='] (by simp [isComparison_opens comparison])
      exact strictRuns_comparison comparison (form.head_ne (by decide) ends) (ih freeRest)
  | @strict c rest plain comparison form ih =>
      have freeRest : Context.code.Avoids overlongRuns rest :=
        free.behind_unquoted [c, '=', '='] (by simp [isComparison_opens comparison])
      have ends : rest.head? ≠ some '=' := by
        intro follows
        obtain ⟨others, rfl⟩ := List.head?_eq_some_iff.1 follows
        rcases comparison with rfl | rfl
        · exact free [] _ rfl ['=', '=', '=', '='] (.head _) ⟨others, rfl⟩
        · exact free [] _ rfl ['!', '=', '=', '='] (.tail _ (.head _)) ⟨others, rfl⟩
      exact strictRuns_comparison comparison (form.head_ne (by decide) ends) (ih freeRest)
  | kept kept closes _ ih =>
      exact strictRuns_literal kept closes
        (ih (free.behind_literal kept.step_code kept.ne_backslash closes))
  | single requoted _ ih =>
      exact strictRuns_literal (.inl rfl) requoted.2.1
        (ih (free.behind_literal rfl (by decide) requoted.1))
  | leftOpen kept inside => exact strictRuns_leftOpen kept inside
  | closed requoted => exact strictRuns_literal (.inl rfl) requoted.2.1 empty
  | escaped requoted =>
      exact strictRuns_leftOpen (.inl rfl) (.inl (requoted.2.1.append (.escape .nil)))

/-- What is free of them is not rewritten; no literal in single quotes begins there. -/
theorem PlainForm.eq_of_avoids {text plain : List Char} (form : PlainForm text plain)
    (free : Context.code.Avoids strictRuns text) : plain = text := by
  have noSingle : ∀ {rest : List Char}, ¬ Context.code.Avoids strictRuns ('\'' :: rest) :=
    fun avoids => avoids [] _ rfl ['\''] (.head _) ⟨_, rfl⟩
  induction form with
  | nil => rfl
  | char opens _ _ ih => rw [ih (free.behind_unquoted [_] (by simpa using opens))]
  | loose comparison _ _ ih =>
      rw [ih (free.behind_unquoted [_, '='] (by simp [isComparison_opens comparison]))]
  | @strict c rest _ comparison _ _ =>
      rcases comparison with rfl | rfl
      · exact (free [] _ rfl ['=', '=', '='] (.tail _ (.head _)) ⟨rest, rfl⟩).elim
      · exact (free [] _ rfl ['!', '=', '='] (.tail _ (.tail _ (.head _))) ⟨rest, rfl⟩).elim
  | kept kept closes _ ih =>
      rw [ih (free.behind_literal kept.step_code kept.ne_backslash closes)]
  | leftOpen => rfl
  | single => exact (noSingle free).elim
  | closed => exact (noSingle free).elim
  | escaped => exact (noSingle free).elim

theorem normalize_eq_of_avoids {source : String}
    (free : Context.code.Avoids strictRuns source.toList) : normalize source = source := by
  rw [normalize, (plainForm_iff.2 rfl).eq_of_avoids free, String.ofList_toList]

/-- If neither `====` nor `!===` stands outside the literals of a source, then neither a single
quote nor `===` nor `!==` stands outside those of its plain form, which is its own plain form; and a
source that has none of them outside its literals is its own plain form. -/
theorem plain_form_is_normal :
    (∀ source : String, Context.code.Avoids overlongRuns source.toList →
      Context.code.Avoids strictRuns (normalize source).toList ∧
        normalize (normalize source) = normalize source) ∧
    ∀ source : String, Context.code.Avoids strictRuns source.toList →
      normalize source = source := by
  refine ⟨fun source free => ?_, fun source => normalize_eq_of_avoids⟩
  have normal : Context.code.Avoids strictRuns (normalize source).toList := by
    rw [normalize, String.toList_ofList]
    exact (plainForm_iff.2 rfl).avoids_strictRuns free
  exact ⟨normal, normalize_eq_of_avoids normal⟩

/-- Comparisons that touch each other and a literal, and an escape that the source does not end. -/
theorem plain_form_is_normal_cut_escape :
    let source := "!a!=='b\\'\"===' && `c === 'd'`===e ||'\\"
    Context.code.Avoids overlongRuns source.toList ∧
      normalize source = "!a!=\"b'\\\"===\" && `c === 'd'`==e ||\"\\\"" ∧
        normalize (normalize source) = normalize source := by
  have free : Context.code.Avoids overlongRuns
      "!a!=='b\\'\"===' && `c === 'd'`===e ||'\\".toList := by decide +kernel
  exact ⟨free, by decide +kernel, (plain_form_is_normal.1 _ free).2⟩

/-- A fourth `=` joins what is left of the first three. -/
example : normalize "a ==== b" = "a === b" ∧ normalize "a === b" = "a == b" := by decide +kernel

end Script

end Sluice
