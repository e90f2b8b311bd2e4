import Sluice.Proofs.Script.Literals

/-!
# What the plain form is made of

A source consists of characters and comparisons outside all literals, of whole literals, and at its
end perhaps of a literal that is not closed.  Each of these is rewritten by itself, which makes the
plain form a relation with a rule for each of them.
-/

set_option autoImplicit false

namespace Sluice

namespace Script

/-! ## Outside and inside a literal -/

/-- No quote at all: what is outside all literals stays so. -/
theorem Context.after_unquoted {text : List Char}
    (opens : ∀ c ∈ text, c ≠ '"' ∧ c ≠ '`' ∧ c ≠ '\'') : code.after text = code := by
  induction text with
  | nil => rfl
  | cons c text ih =>
      obtain ⟨first, rest⟩ := List.forall_mem_cons.1 opens
      rw [after_cons, step_code first, ih rest]

theorem isComparison_opens {c : Char} (comparison : c = '=' ∨ c = '!') :
    c ≠ '"' ∧ c ≠ '`' ∧ c ≠ '\'' := by
  rcases comparison with rfl | rfl <;> decide

theorem LiteralBody.append {quote : Char} {first second : List Char}
    (one : LiteralBody quote first) (two : LiteralBody quote second) :
    LiteralBody quote (first ++ second) := by
  induction one with
  | nil => exact two
  | plain inside _ ih => exact .plain inside ih
  | escape _ ih => exact ih.escape

theorem Context.after_body {quote : Char} {body : List Char} (inside : LiteralBody quote body) :
    (within quote).after body = within quote := by
  induction inside with
  | nil => rfl
  | plain inside _ ih => rwa [after_cons, step_within inside]
  | escape _ ih => exact ih

/-- A literal is left by its closing quote. -/
theorem Context.after_literal {quote : Char} (opens : code.step quote = within quote)
    (notBackslash : quote ≠ '\\') {body : List Char} (closes : LiteralBody quote body) :
    code.after (quote :: (body ++ [quote])) = code := by
  rw [after_cons, opens, after_append, after_body closes, after_cons, step, if_neg notBackslash,
    if_pos rfl, after_nil]

theorem Context.after_literal_append {quote : Char} (opens : code.step quote = within quote)
    (notBackslash : quote ≠ '\\') {body : List Char} (closes : LiteralBody quote body)
    (rest : List Char) : code.after (quote :: (body ++ quote :: rest)) = code.after rest := by
  have parts : quote :: (body ++ quote :: rest) = (quote :: (body ++ [quote])) ++ rest := by simp
  rw [parts, after_append, after_literal opens notBackslash closes]

theorem keptQuoted_body {quote : Char} {body : List Char} (inside : LiteralBody quote body)
    (rest : List Char) : keptQuoted quote (body ++ rest) = body ++ keptQuoted quote rest := by
  induction inside with
  | nil => rfl
  | plain inside _ ih =>
      rw [List.cons_append, keptQuoted_cons inside.1, if_neg inside.2, ih, List.cons_append]
  | escape _ ih => rw [List.cons_append, List.cons_append, keptQuoted, ih]; rfl

/-- What follows the opening quote of a literal that is not closed: the source may end in the middle
of an escape. -/
def LeftOpen (quote : Char) (body : List Char) : Prop :=
  LiteralBody quote body ∨ ∃ inside, LiteralBody quote inside ∧ body = inside ++ ['\\']

/-- What follows a quote is a literal up to its closing quote, or one that is not closed. -/
theorem closes_or_leftOpen (quote : Char) : ∀ text : List Char,
    (∃ body rest, LiteralBody quote body ∧ text = body ++ quote :: rest) ∨ LeftOpen quote text
  | [] => .inr (.inl .nil)
  | c :: text => by
      by_cases backslash : c = '\\'
      · subst backslash
        cases text with
        | nil => exact .inr (.inr ⟨[], .nil, rfl⟩)
        | cons d text =>
            rcases closes_or_leftOpen quote text with ⟨body, rest, closes, rfl⟩ | inside |
              ⟨body, inside, rfl⟩
            · exact .inl ⟨'\\' :: d :: body, rest, closes.escape, rfl⟩
            · exact .inr (.inl inside.escape)
            · exact .inr (.inr ⟨'\\' :: d :: body, inside.escape, rfl⟩)
      · by_cases closing : c = quote
        · subst closing
          exact .inl ⟨[], text, .nil, rfl⟩
        · rcases closes_or_leftOpen quote text with ⟨body, rest, closes, rfl⟩ | inside |
            ⟨body, inside, rfl⟩
          · exact .inl ⟨c :: body, rest, .plain ⟨backslash, closing⟩ closes, rfl⟩
          · exact .inr (.inl (.plain ⟨backslash, closing⟩ inside))
          · exact .inr (.inr ⟨c :: body, .plain ⟨backslash, closing⟩ inside, rfl⟩)

/-! ## Runs of characters -/

namespace Context

/-- Read from a context, a text comes nowhere to a run that is listed for the context it has come to
there. -/
def Avoids (start : Context) (runs : Context → List (List Char)) (text : List Char) : Prop :=
  ∀ before behind, text = before ++ behind → ∀ run ∈ runs (start.after before), ¬ run <+: behind

variable {start : Context} {runs : Context → List (List Char)}

theorem avoids_nil : start.Avoids runs [] ↔ [] ∉ runs start := by
  constructor
  · exact fun avoids member => avoids [] [] rfl [] member List.nil_prefix
  · intro missing before behind whole run member begins
    obtain ⟨rfl, rfl⟩ := List.append_eq_nil_iff.1 whole.symm
    obtain rfl := List.prefix_nil.1 begins
    exact missing member

theorem avoids_cons {c : Char} {text : List Char} : start.Avoids runs (c :: text) ↔
    (∀ run ∈ runs start, ¬ run <+: c :: text) ∧ (start.step c).Avoids runs text := by
  constructor
  · refine fun avoids => ⟨avoids [] _ rfl, ?_⟩
    rintro before behind rfl
    exact avoids (c :: before) behind rfl
  · rintro ⟨here, later⟩ before behind whole
    cases before with
    | nil =>
        obtain rfl : c :: text = behind := whole
        exact here
    | cons d before =>
        obtain ⟨rfl, rfl⟩ := List.cons.inj whole
        exact later before behind rfl

theorem Avoids.behind {first second : List Char} (avoids : start.Avoids runs (first ++ second)) :
    (start.after first).Avoids runs second := by
  rintro before behind rfl
  have later := avoids (first ++ before) behind (by rw [List.append_assoc])
  rwa [after_append] at later

instance Avoids.decidable (runs : Context → List (List Char)) :
    (text : List Char) → (start : Context) → Decidable (start.Avoids runs text)
  | [], _ => decidable_of_iff _ avoids_nil.symm
  | c :: text, start =>
      have := Avoids.decidable runs text (start.step c)
      decidable_of_iff _ avoids_cons.symm

theorem Avoids.behind_unquoted (first : List Char) {second : List Char}
    (avoids : code.Avoids runs (first ++ second))
    (opens : ∀ c ∈ first, c ≠ '"' ∧ c ≠ '`' ∧ c ≠ '\'') : code.Avoids runs second := by
  have behind := avoids.behind
  rwa [after_unquoted opens] at behind

theorem Avoids.behind_literal {quote : Char} (opens : code.step quote = within quote)
    (notBackslash : quote ≠ '\\') {body rest : List Char} (closes : LiteralBody quote body)
    (avoids : code.Avoids runs (quote :: (body ++ quote :: rest))) : code.Avoids runs rest := by
  have behind : (code.after (quote :: (body ++ [quote]))).Avoids runs rest :=
    Avoids.behind (by simpa using avoids)
  rwa [after_literal opens notBackslash closes] at behind

/-- A literal in which nothing is to be avoided. -/
theorem avoids_body {quote : Char} (free : runs (within quote) = [] ∧ runs (escaping quote) = [])
    {body rest : List Char} (inside : LiteralBody quote body)
    (avoids : (within quote).Avoids runs rest) : (within quote).Avoids runs (body ++ rest) := by
  have freeWithin : ∀ text, ∀ run ∈ runs (within quote), ¬ run <+: text := by simp [free.1]
  have freeEscaping : ∀ text, ∀ run ∈ runs (escaping quote), ¬ run <+: text := by simp [free.2]
  induction inside with
  | nil => exact avoids
  | plain inside _ ih =>
      refine avoids_cons.2 ⟨freeWithin _, ?_⟩
      rwa [step_within inside]
  | escape _ ih => exact avoids_cons.2 ⟨freeWithin _, avoids_cons.2 ⟨freeEscaping _, ih⟩⟩

theorem avoids_closing {quote : Char} (free : runs (within quote) = [])
    (notBackslash : quote ≠ '\\') {rest : List Char} (avoids : code.Avoids runs rest) :
    (within quote).Avoids runs (quote :: rest) := by
  refine avoids_cons.2 ⟨by simp [free], ?_⟩
  rwa [step, if_neg notBackslash, if_pos rfl]

end Context

/-! ## The rules -/

def IsKept (quote : Char) : Prop := quote = '"' ∨ quote = '`'

theorem IsKept.ne_backslash {quote : Char} (kept : IsKept quote) : quote ≠ '\\' := by
  rcases kept with rfl | rfl <;> decide

theorem IsKept.step_code {quote : Char} (kept : IsKept quote) :
    Context.code.step quote = .within quote := by
  rcases kept with rfl | rfl <;> rfl

def Requoted (body literal : List Char) : Prop :=
  LiteralBody '\'' body ∧ LiteralBody '"' literal ∧
    ∀ rest, singleQuoted (body ++ rest) = literal ++ singleQuoted rest

/-- How a source is brought to its plain form. -/
inductive PlainForm : List Char → List Char → Prop
  | nil : PlainForm [] []
  | char {c : Char} {rest plain : List Char} (opens : c ≠ '"' ∧ c ≠ '`' ∧ c ≠ '\'')
      (alone : c = '=' ∨ c = '!' → rest.head? ≠ some '=') (others : PlainForm rest plain) :
      PlainForm (c :: rest) (c :: plain)
  | loose {c : Char} {rest plain : List Char} (comparison : c = '=' ∨ c = '!')
      (ends : rest.head? ≠ some '=') (others : PlainForm rest plain) :
      PlainForm (c :: '=' :: rest) (c :: '=' :: plain)
  | strict {c : Char} {rest plain : List Char} (comparison : c = '=' ∨ c = '!')
      (others : PlainForm rest plain) :
      PlainForm (c :: '=' :: '=' :: rest) (c :: '=' :: plain)
  | kept {quote : Char} {body rest plain : List Char} (kept : IsKept quote)
      (closes : LiteralBody quote body) (others : PlainForm rest plain) :
      PlainForm (quote :: (body ++ quote :: rest)) (quote :: (body ++ quote :: plain))
  | single {body literal rest plain : List Char} (requoted : Requoted body literal)
      (others : PlainForm rest plain) :
      PlainForm ('\'' :: (body ++ '\'' :: rest)) ('"' :: (literal ++ '"' :: plain))
  | leftOpen {quote : Char} {body : List Char} (kept : IsKept quote)
      (inside : LeftOpen quote body) : PlainForm (quote :: body) (quote :: body)
  /-- The source ends inside single quotes: the literal is closed. -/
  | closed {body literal : List Char} (requoted : Requoted body literal) :
      PlainForm ('\'' :: body) ('"' :: (literal ++ ['"']))
  /-- The source ends inside single quotes and behind a backslash: the quote that is added is
  escaped by it. -/
  | escaped {body literal : List Char} (requoted : Requoted body literal) :
      PlainForm ('\'' :: (body ++ ['\\'])) ('"' :: (literal ++ ['\\', '"']))

theorem PlainForm.plainSource_eq {text plain : List Char} (form : PlainForm text plain) :
    plainSource text = plain := by
  induction form with
  | nil => rfl
  | char opens alone _ ih => rw [plainSource_of_unquoted opens alone, ih]
  | loose comparison ends _ ih => rw [plainSource_loose comparison ends, ih]
  | strict comparison _ ih =>
      rcases comparison with rfl | rfl
      · rw [plainSource, ih]
      · rw [plainSource, ih]
  | @kept quote body rest plain kept closes _ ih =>
      have whole : keptQuoted quote (body ++ quote :: rest) = body ++ quote :: plain := by
        rw [keptQuoted_body closes, keptQuoted_cons kept.ne_backslash, if_pos rfl, ih]
      rcases kept with rfl | rfl
      · rw [plainSource, whole]
      · rw [plainSource, whole]
  | single requoted _ ih => rw [plainSource, requoted.2.2, singleQuoted, ih]
  | @leftOpen quote body kept inside =>
      have same : keptQuoted quote body = body := by
        rcases inside with inside | ⟨body, inside, rfl⟩
        · simpa [keptQuoted] using keptQuoted_body inside []
        · rw [keptQuoted_body inside, keptQuoted]
      rcases kept with rfl | rfl
      · rw [plainSource, same]
      · rw [plainSource, same]
  | @closed body literal requoted =>
      rw [plainSource, ← List.append_nil body, requoted.2.2, singleQuoted]
  | escaped requoted => rw [plainSource, requoted.2.2, singleQuoted]

theorem exists_requoted {body : List Char} (inside : LiteralBody '\'' body) :
    ∃ literal, Requoted body literal := by
  obtain ⟨literal, closed, _, rewritten⟩ := singleQuoted_body inside
  exact ⟨literal, inside, closed, rewritten⟩

theorem length_behind_literal {c d : Char} (body others : List Char) :
    others.length < (c :: (body ++ d :: others)).length := by
  simp only [List.length_append, List.length_cons]
  omega

theorem exists_plainForm (text : List Char) : ∃ plain, PlainForm text plain := by
  induction size : text.length using Nat.strongRecOn generalizing text with
  | ind size ih =>
      subst size
      match text with
      | [] => exact ⟨[], .nil⟩
      | c :: rest =>
          by_cases single : c = '\''
          · subst single
            rcases closes_or_leftOpen '\'' rest with ⟨body, others, closes, rfl⟩ | inside |
              ⟨body, inside, rfl⟩
            · obtain ⟨plain, form⟩ := ih _ (length_behind_literal body others) others rfl
              obtain ⟨literal, requoted⟩ := exists_requoted closes
              exact ⟨_, .single requoted form⟩
            · obtain ⟨literal, requoted⟩ := exists_requoted inside
              exact ⟨_, .closed requoted⟩
            · obtain ⟨literal, requoted⟩ := exists_requoted inside
              exact ⟨_, .escaped requoted⟩
          by_cases kept : IsKept c
          · rcases closes_or_leftOpen c rest with ⟨body, others, closes, rfl⟩ | inside
            · obtain ⟨plain, form⟩ := ih _ (length_behind_literal body others) others rfl
              exact ⟨_, .kept kept closes form⟩
            · exact ⟨_, .leftOpen kept inside⟩
          have opens : c ≠ '"' ∧ c ≠ '`' ∧ c ≠ '\'' :=
            ⟨fun same => kept (.inl same), fun same => kept (.inr same), single⟩
          by_cases comparison : (c = '=' ∨ c = '!') ∧ rest.head? = some '='
          · obtain ⟨others, rfl⟩ := List.head?_eq_some_iff.1 comparison.2
            by_cases strict : others.head? = some '='
            · obtain ⟨others, rfl⟩ := List.head?_eq_some_iff.1 strict
              obtain ⟨plain, form⟩ := ih _ (by simp only [List.length_cons]; omega) others rfl
              exact ⟨_, .strict comparison.1 form⟩
            · obtain ⟨plain, form⟩ := ih _ (by simp only [List.length_cons]; omega) others rfl
              exact ⟨_, .loose comparison.1 strict form⟩
          · obtain ⟨plain, form⟩ := ih _ (by simp) rest rfl
            exact ⟨_, .char opens (fun which follows => comparison ⟨which, follows⟩) form⟩

theorem plainForm_iff {text plain : List Char} :
    PlainForm text plain ↔ plainSource text = plain := by
  constructor
  · exact PlainForm.plainSource_eq
  · rintro rfl
    obtain ⟨plain, form⟩ := exists_plainForm text
    rwa [form.plainSource_eq]

/-- Nothing but a literal in single quotes begins otherwise than before. -/
theorem PlainForm.head_ne {text plain : List Char} (form : PlainForm text plain) {c : Char}
    (notQuote : c ≠ '"') (head : text.head? ≠ some c) : plain.head? ≠ some c := by
  cases form with
  | nil => exact head
  | char => exact head
  | loose => exact head
  | strict => exact head
  | kept => exact head
  | leftOpen => exact head
  | single => exact fun same => notQuote (Option.some.inj same).symm
  | closed => exact fun same => notQuote (Option.some.inj same).symm
  | escaped => exact fun same => notQuote (Option.some.inj same).symm

theorem not_prefix_of_head {c : Char} {text : List Char} (head : text.head? ≠ some c)
    (run : List Char) : ¬ c :: run <+: text := by
  rintro ⟨after, rfl⟩
  exact head rfl

end Script

end Sluice
