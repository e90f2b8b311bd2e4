import Sluice.Proofs.Script.Engine
import Sluice.Proofs.Script.Quoting

/-!
# Literals left open

The plain form of a source ends where the source does: outside all literals, or inside one that is
not closed.  Only a literal in single quotes is closed where the source ends, unless it ends behind
a backslash.  Where a literal is open in the end no tokens are read, so that the source does not
compile.
-/

set_option autoImplicit false

namespace Sluice

namespace Script

/-! ## Where the plain form ends -/

/-- Where the plain form has come to when its source ends: single quotes are closed, and behind a
backslash the quote that is to close them is part of an escape. -/
def Context.rewritten : Context → Context
  | .within '\'' => .code
  | .escaping '\'' => .within '"'
  | context => context

namespace Context

theorem after_leftOpen {quote : Char} (opens : code.step quote = within quote) {body : List Char}
    (inside : LeftOpen quote body) :
    code.after (quote :: body) = within quote ∨ code.after (quote :: body) = escaping quote := by
  rw [after_cons, opens]
  rcases inside with inside | ⟨body, inside, rfl⟩
  · exact .inl (after_body inside)
  · right
    rw [after_append, after_body inside]
    rfl

theorem rewritten_kept {quote : Char} (kept : IsKept quote) :
    (within quote).rewritten = within quote ∧ (escaping quote).rewritten = escaping quote := by
  rcases kept with rfl | rfl <;> exact ⟨rfl, rfl⟩

theorem rewritten_eq_code {context : Context} :
    context.rewritten = code ↔ context = code ∨ context = within '\'' := by
  unfold rewritten
  split <;> simp_all

end Context

theorem PlainForm.after_eq {text plain : List Char} (form : PlainForm text plain) :
    Context.code.after plain = (Context.code.after text).rewritten := by
  have equals : Context.code.step '=' = .code := rfl
  induction form with
  | nil => rfl
  | char opens _ _ ih => simpa [Context.step_code opens] using ih
  | loose comparison _ _ ih =>
      simpa [Context.step_code (isComparison_opens comparison), equals] using ih
  | strict comparison _ ih =>
      simpa [Context.step_code (isComparison_opens comparison), equals] using ih
  | kept kept closes _ ih =>
      rw [Context.after_literal_append kept.step_code kept.ne_backslash closes,
        Context.after_literal_append kept.step_code kept.ne_backslash closes, ih]
  | single requoted _ ih =>
      rw [Context.after_literal_append rfl (by decide) requoted.2.1,
        Context.after_literal_append rfl (by decide) requoted.1, ih]
  | leftOpen kept inside =>
      rcases Context.after_leftOpen kept.step_code inside with same | same
      · rw [same, (Context.rewritten_kept kept).1]
      · rw [same, (Context.rewritten_kept kept).2]
  | closed requoted =>
      rw [Context.after_literal rfl (by decide) requoted.2.1]
      exact (congrArg Context.rewritten (Context.after_body requoted.1)).symm
  | @escaped body literal requoted =>
      have reads : Context.code.after ('\'' :: (body ++ ['\\'])) = .escaping '\'' := by
        rw [Context.after_cons, Context.after_append]
        exact congrArg (Context.step · '\\') (Context.after_body requoted.1)
      rw [reads]
      exact Context.after_body (requoted.2.1.append (.escape .nil))

/-- A source that ends in single quotes is rewritten as if it closed them. -/
theorem PlainForm.close {text plain : List Char} (form : PlainForm text plain)
    (within : Context.code.after text = .within '\'') : PlainForm (text ++ ['\'']) plain := by
  have equals : Context.code.step '=' = .code := rfl
  have follows : ['\''].head? ≠ some '=' := by decide
  induction form with
  | nil => cases within
  | char opens alone _ ih =>
      rw [Context.after_cons, Context.step_code opens] at within
      exact .char opens (fun which => head_append_ne (alone which) follows) (ih within)
  | loose comparison ends _ ih =>
      rw [Context.after_cons, Context.step_code (isComparison_opens comparison)] at within
      exact .loose comparison (head_append_ne ends follows) (ih within)
  | strict comparison _ ih =>
      rw [Context.after_cons, Context.step_code (isComparison_opens comparison)] at within
      exact .strict comparison (ih within)
  | kept kept closes _ ih =>
      rw [Context.after_literal_append kept.step_code kept.ne_backslash closes] at within
      simpa using PlainForm.kept kept closes (ih within)
  | single requoted _ ih =>
      rw [Context.after_literal_append rfl (by decide) requoted.1] at within
      simpa using PlainForm.single requoted (ih within)
  | leftOpen kept inside =>
      rcases Context.after_leftOpen kept.step_code inside with same | same
      · rw [same] at within
        rcases kept with rfl | rfl <;> cases within
      · rw [same] at within
        cases within
  | closed requoted => exact .single requoted .nil
  | escaped requoted =>
      rw [Context.after_cons, Context.after_append] at within
      have reads := congrArg (Context.step · '\\') (Context.after_body requoted.1)
      cases reads.symm.trans within

/-! ## The plain form is read alike -/

/-- Whether a run begins a text is decided before the first character that is not in it. -/
theorem prefix_before {c : Char} {run text first second : List Char} (missing : c ∉ run)
    (begins : run <+: text ++ c :: first) : run <+: text ++ c :: second := by
  have stops : text ++ [c] <+: text ++ c :: first := ⟨first, by simp⟩
  rcases List.prefix_or_prefix_of_prefix begins stops with inside | beyond
  · exact inside.trans ⟨second, by simp⟩
  · exact (missing (beyond.subset (by simp))).elim

theorem cons_prefix_before {c d : Char} (text : List Char) {run first second : List Char}
    (missing : d ∉ run.tail) (begins : run <+: c :: (text ++ d :: first)) :
    run <+: c :: (text ++ d :: second) := by
  cases run with
  | nil => exact List.nil_prefix
  | cons e run =>
      obtain ⟨rfl, others⟩ := List.cons_prefix_cons.1 begins
      exact List.cons_prefix_cons.2 ⟨rfl, prefix_before missing others⟩

namespace Context

theorem misread_unquoted {c : Char} (opens : c ≠ '"' ∧ c ≠ '`' ∧ c ≠ '\'') {rest : List Char} :
    code.Avoids misread (c :: rest) ↔
      (c = '/' → rest.head? ≠ some '/' ∧ rest.head? ≠ some '*') ∧ code.Avoids misread rest := by
  rw [avoids_cons, step_code opens]
  refine and_congr_left fun _ => ?_
  simp only [misread, List.forall_mem_cons, List.cons_prefix_cons]
  constructor
  · rintro ⟨line, block, _⟩ rfl
    refine ⟨fun follows => ?_, fun follows => ?_⟩
    · obtain ⟨others, rfl⟩ := List.head?_eq_some_iff.1 follows
      exact line ⟨rfl, others, rfl⟩
    · obtain ⟨others, rfl⟩ := List.head?_eq_some_iff.1 follows
      exact block ⟨rfl, others, rfl⟩
  · intro noComment
    refine ⟨fun line => ?_, fun block => ?_, nofun⟩
    · exact not_prefix_of_head (noComment line.1.symm).1 [] line.2
    · exact not_prefix_of_head (noComment block.1.symm).2 [] block.2

theorem misread_comparison {c : Char} (comparison : c = '=' ∨ c = '!') {rest : List Char} :
    code.Avoids misread (c :: rest) ↔ code.Avoids misread rest := by
  rw [misread_unquoted (isComparison_opens comparison)]
  refine and_iff_right ?_
  rintro rfl
  exact absurd comparison (by decide)

theorem misread_kept {quote : Char} (kept : IsKept quote) {rest : List Char} :
    code.Avoids misread (quote :: rest) ↔ (within quote).Avoids misread rest := by
  rw [avoids_cons, kept.step_code]
  refine and_iff_right ?_
  simp only [misread, List.forall_mem_cons, List.cons_prefix_cons]
  rcases kept with rfl | rfl <;> exact ⟨nofun, nofun, nofun⟩

/-- What follows a literal does not change how the literal is read. -/
theorem misread_body {quote : Char} (kept : IsKept quote) {body rest plain : List Char}
    (closes : LiteralBody quote body)
    (alike : (within quote).Avoids misread (body ++ quote :: rest))
    (later : code.Avoids misread plain) :
    (within quote).Avoids misread (body ++ quote :: plain) := by
  have missing : ∀ run ∈ (within quote).misread ++ (escaping quote).misread, quote ∉ run.tail := by
    rcases kept with rfl | rfl <;> decide
  obtain ⟨missingWithin, missingEscaping⟩ := List.forall_mem_append.1 missing
  induction closes with
  | nil =>
      refine avoids_cons.2 ⟨?_, ?_⟩
      · rcases kept with rfl | rfl
        · exact nofun
        · simp only [misread, List.forall_mem_cons, List.cons_prefix_cons]
          exact ⟨nofun, nofun⟩
      · rwa [step, if_neg kept.ne_backslash, if_pos rfl]
  | plain inside _ ih =>
      obtain ⟨here, behind⟩ := avoids_cons.1 alike
      rw [step_within inside] at behind
      refine avoids_cons.2 ⟨fun run member begins => here run member ?_, ?_⟩
      · exact cons_prefix_before _ (missingWithin run member) begins
      · rw [step_within inside]
        exact ih behind
  | @escape c body _ ih =>
      obtain ⟨here, escaped⟩ := avoids_cons.1 alike
      obtain ⟨there, behind⟩ := avoids_cons.1 escaped
      refine avoids_cons.2 ⟨fun run member begins => here run member ?_,
        avoids_cons.2 ⟨fun run member begins => there run member ?_, ih behind⟩⟩
      · exact cons_prefix_before (c :: body) (missingWithin run member) begins
      · exact cons_prefix_before body (missingEscaping run member) begins

end Context

theorem PlainForm.avoids_misread {text plain : List Char} (form : PlainForm text plain)
    (alike : Context.code.Avoids Context.misread text) :
    Context.code.Avoids Context.misread plain := by
  have double : ∀ {literal rest : List Char}, LiteralBody '"' literal →
      (Context.within '"').Avoids Context.misread rest →
      Context.code.Avoids Context.misread ('"' :: (literal ++ rest)) :=
    fun closes behind =>
      (Context.misread_kept (.inl rfl)).2 (Context.avoids_body ⟨rfl, rfl⟩ closes behind)
  have closing : ∀ {rest : List Char}, Context.code.Avoids Context.misread rest →
      (Context.within '"').Avoids Context.misread ('"' :: rest) :=
    Context.avoids_closing rfl (by decide)
  have ends : ∀ context : Context, context.Avoids Context.misread [] :=
    fun context => Context.avoids_nil.2 (Context.nil_notMem_misread context)
  induction form with
  | nil => exact ends _
  | char opens alone form ih =>
      obtain ⟨noComment, behind⟩ := (Context.misread_unquoted opens).1 alike
      refine (Context.misread_unquoted opens).2 ⟨fun slash => ?_, ih behind⟩
      obtain ⟨line, block⟩ := noComment slash
      exact ⟨form.head_ne (by decide) line, form.head_ne (by decide) block⟩
  | loose comparison _ _ ih =>
      rw [Context.misread_comparison comparison, Context.misread_comparison (.inl rfl)] at alike ⊢
      exact ih alike
  | strict comparison _ ih =>
      rw [Context.misread_comparison comparison, Context.misread_comparison (.inl rfl)] at alike ⊢
      rw [Context.misread_comparison (.inl rfl)] at alike
      exact ih alike
  | kept kept closes _ ih =>
      have behind := alike.behind_literal kept.step_code kept.ne_backslash closes
      rw [Context.misread_kept kept] at alike ⊢
      exact Context.misread_body kept closes alike (ih behind)
  | single requoted _ ih =>
      have behind := alike.behind_literal rfl (by decide) requoted.1
      exact double requoted.2.1 (closing (ih behind))
  | leftOpen => exact alike
  | closed requoted => exact double requoted.2.1 (closing (ends _))
  | escaped requoted =>
      refine double requoted.2.1 ?_
      exact Context.avoids_body ⟨rfl, rfl⟩ (.escape .nil) (ends _)

/-! ## Sources that end inside a literal -/

def endOf (source : String) : Context := Context.code.after source.toList

theorem endOf_normalize (source : String) :
    endOf (normalize source) = (endOf source).rewritten := by
  rw [endOf, normalize, String.toList_ofList]
  exact (plainForm_iff.2 rfl).after_eq

theorem compile?_unclosed {source : String}
    (alike : Context.code.Avoids Context.misread source.toList)
    (unclosed : endOf (normalize source) ≠ .code) : compile? source = none := by
  have noTokens : tokens? (plainSource source.toList) = none := by
    rw [tokens?, Option.map_eq_none_iff, Option.eq_none_iff_forall_ne_some]
    intro result reads
    rw [endOf, normalize, String.toList_ofList] at unclosed
    exact unclosed (readTokens_outside ((plainForm_iff.2 rfl).avoids_misread alike) reads)
  rw [compile?, compilePlain?, parse?, noTokens]
  rfl

/-- The plain form of a source ends inside a literal just if the source does, single quotes apart
that do not end behind a backslash; such a source is rewritten and compiled as if it closed them.
Any other source that ends inside a literal is refused, if its literals are read as its quotes show
them. -/
theorem unclosed_refused_unless_single_quoted (source : String) :
    (endOf (normalize source) ≠ .code ↔ endOf source ≠ .code ∧ endOf source ≠ .within '\'') ∧
    (endOf source = .within '\'' →
      normalize source = normalize (source ++ "'") ∧ compile? source = compile? (source ++ "'")) ∧
    (Context.code.Avoids Context.misread source.toList → endOf source ≠ .code →
      endOf source ≠ .within '\'' → ∀ (engine : Engine) (serial : Nat),
        engine.compile serial source = .error (.script source .malformed)) := by
  have unclosed : endOf (normalize source) ≠ .code ↔
      endOf source ≠ .code ∧ endOf source ≠ .within '\'' := by
    rw [endOf_normalize, ne_eq, Context.rewritten_eq_code, not_or]
  refine ⟨unclosed, fun within => ?_, fun alike outside single engine serial => ?_⟩
  · have closed : plainSource (source ++ "'").toList = plainSource source.toList := by
      rw [String.toList_append]
      exact ((plainForm_iff.2 rfl).close within).plainSource_eq
    exact ⟨congrArg String.ofList closed.symm, congrArg compilePlain? closed.symm⟩
  · have malformed := compile?_unclosed alike (unclosed.2 ⟨outside, single⟩)
    exact Engine.compile_error malformed engine serial

/-- A comparison with a text that is not closed is compiled, and holds. -/
theorem unclosed_single_quotes_accepted :
    let source := "name == 'Ann"
    endOf source = .within '\'' ∧ endOf (normalize source) = .code ∧
      ((Engine.empty.compile 0 source).bind fun (handle, engine) =>
        engine.test handle (.ofPairs [("name", .text "Ann")])) = .ok true := by
  decide +kernel

/-- Back quotes that end behind a backslash, after single quotes that are closed. -/
theorem unclosed_refused_unless_single_quoted_escape :
    let source := "name !== 'Ann\\'s' && path == `C:\\temp\\"
    Context.code.Avoids Context.misread source.toList ∧ endOf source = .escaping '`' ∧
      endOf (normalize source) ≠ .code ∧
        Engine.empty.compile 0 source = .error (.script source .malformed) := by
  intro source
  have alike : Context.code.Avoids Context.misread source.toList := by decide +kernel
  have ends : endOf source = .escaping '`' := by decide +kernel
  have outside : endOf source ≠ .code := ends.trans_ne nofun
  have single : endOf source ≠ .within '\'' := ends.trans_ne nofun
  obtain ⟨unclosed, _, refused⟩ := unclosed_refused_unless_single_quoted source
  exact ⟨alike, ends, unclosed.2 ⟨outside, single⟩, refused alike outside single _ _⟩

/-- A backslash does not escape a back quote, and a quote in a comment opens nothing: such sources
end inside a literal as their quotes show them, and compile. -/
example : endOf "`a\\`" = .within '`' ∧ (compile? "`a\\`").isSome = true ∧
    endOf "true // \"" = .within '"' ∧ (compile? "true // \"").isSome = true := by
  decide +kernel

end Script

end Sluice
