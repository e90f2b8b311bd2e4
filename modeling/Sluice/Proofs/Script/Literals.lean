import Sluice.Proofs.Script.Spelling

/-!
# Literals in a source

A text in single quotes gets double quotes and keeps what it says, wherever in a source it stands.
Where a source is outside all literals its plain form can be taken in two parts, and the first part
is then outside all literals too; a literal in single quotes is rewritten character by character,
so that the quote that closes it still does and no other.
-/

set_option autoImplicit false

namespace Sluice

namespace Script

/-! ## Inside and outside literals -/

/-- Where a source has come to.  Quotes alone open and close a literal, those in comments like any
others, and a backslash means nothing outside one. -/
inductive Context where
  | code
  | within (quote : Char)
  | escaping (quote : Char)
deriving DecidableEq, Repr

namespace Context

def step : Context → Char → Context
  | code, c => if c = '"' ∨ c = '`' ∨ c = '\'' then within c else code
  | within quote, c =>
      if c = '\\' then escaping quote else if c = quote then code else within quote
  | escaping quote, _ => within quote

def after (context : Context) (text : List Char) : Context := text.foldl step context

@[simp]
theorem after_nil (context : Context) : context.after [] = context := rfl

@[simp]
theorem after_cons (context : Context) (c : Char) (text : List Char) :
    context.after (c :: text) = (context.step c).after text := rfl

theorem after_append (context : Context) (first second : List Char) :
    context.after (first ++ second) = (context.after first).after second :=
  List.foldl_append

theorem step_code {c : Char} (opens : c ≠ '"' ∧ c ≠ '`' ∧ c ≠ '\'') : code.step c = code :=
  if_neg (by rintro (rfl | rfl | rfl) <;> simp at opens)

theorem step_within {quote c : Char} (inside : c ≠ '\\' ∧ c ≠ quote) :
    (within quote).step c = within quote := by
  rw [step, if_neg inside.1, if_neg inside.2]

end Context

/-! ## A source in two parts -/

theorem keptQuoted_cons {c : Char} (inside : c ≠ '\\') (quote : Char) (rest : List Char) :
    keptQuoted quote (c :: rest) =
      c :: (if c = quote then plainSource rest else keptQuoted quote rest) := by
  rw [keptQuoted]
  all_goals simp_all

/-- A text that ends outside all literals is rewritten as if nothing followed, and what is written
for it ends outside all literals too.  It is read in one context and written in another, since
single quotes become double ones. -/
def CutsAfter (reading writing : Context) (rewrite : List Char → List Char)
    (text : List Char) : Prop :=
  reading.after text = .code →
    (∀ rest : List Char, rest.head? ≠ some '=' →
      rewrite (text ++ rest) = rewrite text ++ plainSource rest) ∧
    writing.after (rewrite text) = .code

/-- What is read first is written first, and the rest is cut as it is without it. -/
theorem CutsAfter.prepend {reading writing : Context} {rewrite : List Char → List Char}
    (first shown : List Char) (next : List Char → List Char) {text : List Char}
    (reads : ∀ rest : List Char, rest.head? ≠ some '=' →
      rewrite (first ++ (text ++ rest)) = shown ++ next (text ++ rest))
    (cuts : CutsAfter (reading.after first) (writing.after shown) next text) :
    CutsAfter reading writing rewrite (first ++ text) := by
  intro outside
  rw [Context.after_append] at outside
  obtain ⟨parts, written⟩ := cuts outside
  have alone : rewrite (first ++ text) = shown ++ next text := by
    have empty := reads [] (by simp)
    rwa [List.append_nil] at empty
  constructor
  · intro rest follows
    rw [List.append_assoc, reads rest follows, parts rest follows, alone, List.append_assoc]
  · rw [alone, Context.after_append]
    exact written

theorem head_ne_of_not_cons {text : List Char} {c : Char}
    (no : ∀ rest, text = c :: rest → False) : text.head? ≠ some c := by
  cases text with
  | nil => exact nofun
  | cons d text =>
      intro same
      obtain rfl := Option.some.inj same
      exact no text rfl

theorem head_append_ne {text rest : List Char} {c : Char} (head : text.head? ≠ some c)
    (follows : rest.head? ≠ some c) : (text ++ rest).head? ≠ some c := by
  cases text with
  | nil => exact follows
  | cons d text => exact head

/-- A comparison of two characters is one where no further `=` follows. -/
theorem plainSource_loose {c : Char} (comparison : c = '=' ∨ c = '!') {rest : List Char}
    (ends : rest.head? ≠ some '=') :
    plainSource (c :: '=' :: rest) = c :: '=' :: plainSource rest := by
  rcases comparison with rfl | rfl
  · rw [plainSource]
    rintro others rfl
    exact ends rfl
  · rw [plainSource]
    rintro others rfl
    exact ends rfl

/-- A character with which no escape begins. -/
theorem ne_backslash {c : Char} {rest : List Char} (alone : c = '\\' → rest = [] → False)
    (escapes : ∀ escaped others, c = '\\' → rest = escaped :: others → False) : c ≠ '\\' := by
  rintro rfl
  cases rest with
  | nil => exact alone rfl rfl
  | cons escaped others => exact escapes escaped others rfl rfl

theorem CutsAfter.comparison {c : Char} (compares : c = '=' ∨ c = '!') {text : List Char}
    (ends : ∀ others, text = '=' :: others → False)
    (cuts : CutsAfter .code .code plainSource text) :
    CutsAfter .code .code plainSource (c :: '=' :: text) := by
  have stays : Context.code.after [c, '='] = .code := by rcases compares with rfl | rfl <;> rfl
  rw [← stays] at cuts
  refine .prepend [c, '='] [c, '='] plainSource (fun rest follows => ?_) cuts
  have head := head_append_ne (head_ne_of_not_cons ends) follows
  exact plainSource_loose compares head

theorem CutsAfter.unquoted {c : Char} (opens : c ≠ '"' ∧ c ≠ '`' ∧ c ≠ '\'') {text : List Char}
    (equals : ∀ others, c = '=' → text = '=' :: others → False)
    (bang : ∀ others, c = '!' → text = '=' :: others → False)
    (cuts : CutsAfter .code .code plainSource text) :
    CutsAfter .code .code plainSource (c :: text) := by
  have alone : c = '=' ∨ c = '!' → text.head? ≠ some '=' := by
    rintro (same | same)
    · exact head_ne_of_not_cons fun others => equals others same
    · exact head_ne_of_not_cons fun others => bang others same
  have stays : Context.code.after [c] = .code := Context.step_code opens
  rw [← stays] at cuts
  refine .prepend [c] [c] plainSource (fun rest follows => ?_) cuts
  have head := fun compares => head_append_ne (alone compares) follows
  exact plainSource_of_unquoted opens head

theorem CutsAfter.inSingle {c : Char} (plain : c ≠ '\\') (single : c ≠ '\'') (double : c ≠ '"')
    {text : List Char} (cuts : CutsAfter (.within '\'') (.within '"') singleQuoted text) :
    CutsAfter (.within '\'') (.within '"') singleQuoted (c :: text) := by
  have stays : (Context.within '\'').after [c] = .within '\'' :=
    Context.step_within ⟨plain, single⟩
  have staysToo : (Context.within '"').after [c] = .within '"' :=
    Context.step_within ⟨plain, double⟩
  rw [← stays, ← staysToo] at cuts
  exact .prepend [c] [c] singleQuoted (fun _ _ => singleQuoted_cons ⟨single, double, plain⟩ _) cuts

theorem CutsAfter.inSingle_escape {c : Char} (single : c ≠ '\'') {text : List Char}
    (cuts : CutsAfter (.within '\'') (.within '"') singleQuoted text) :
    CutsAfter (.within '\'') (.within '"') singleQuoted ('\\' :: c :: text) := by
  refine .prepend ['\\', c] ['\\', c] singleQuoted (fun _ _ => ?_) cuts
  rw [List.cons_append, List.singleton_append, singleQuoted]
  · rfl
  · exact single

/-- In quotes that are kept, which the closing one leaves. -/
theorem CutsAfter.inKept {quote c : Char} (plain : c ≠ '\\') {text : List Char}
    (outside : CutsAfter .code .code plainSource text)
    (inside : CutsAfter (.within quote) (.within quote) (keptQuoted quote) text) :
    CutsAfter (.within quote) (.within quote) (keptQuoted quote) (c :: text) := by
  by_cases closes : c = quote
  · subst closes
    have leaves : (Context.within c).after [c] = .code := by simp [Context.step, plain]
    rw [← leaves] at outside
    refine .prepend [c] [c] plainSource (fun _ _ => ?_) outside
    exact (keptQuoted_cons plain c _).trans (by rw [if_pos rfl]; rfl)
  · have stays : (Context.within quote).after [c] = .within quote :=
      Context.step_within ⟨plain, closes⟩
    rw [← stays] at inside
    refine .prepend [c] [c] (keptQuoted quote) (fun _ _ => ?_) inside
    exact (keptQuoted_cons plain quote _).trans (by rw [if_neg closes]; rfl)

theorem cutsAfter_all :
    (∀ text, CutsAfter .code .code plainSource text) ∧
      (∀ text, CutsAfter (.within '\'') (.within '"') singleQuoted text) ∧
      ∀ quote text, CutsAfter (.within quote) (.within quote) (keptQuoted quote) text := by
  apply plainSource.mutual_induct (CutsAfter .code .code plainSource)
    (CutsAfter (.within '\'') (.within '"') singleQuoted)
    (fun quote => CutsAfter (.within quote) (.within quote) (keptQuoted quote))
  -- Outside all literals: the end, the comparisons, the three quotes, and any other character.
  case case1 => exact fun _ => ⟨fun _ _ => rfl, rfl⟩
  case case2 =>
    intro text ih
    exact .prepend ['=', '=', '='] ['=', '='] plainSource (fun _ _ => rfl) ih
  case case3 =>
    intro text ih
    exact .prepend ['!', '=', '='] ['!', '='] plainSource (fun _ _ => rfl) ih
  case case4 => exact fun text ends ih => .comparison (.inl rfl) ends ih
  case case5 => exact fun text ends ih => .comparison (.inr rfl) ends ih
  case case6 => exact fun text ih => .prepend ['"'] ['"'] (keptQuoted '"') (fun _ _ => rfl) ih
  case case7 => exact fun text ih => .prepend ['`'] ['`'] (keptQuoted '`') (fun _ _ => rfl) ih
  case case8 => exact fun text ih => .prepend ['\''] ['"'] singleQuoted (fun _ _ => rfl) ih
  case case9 =>
    intro c text _ _ equals bang double back single ih
    exact .unquoted ⟨double, back, single⟩ equals bang ih
  -- In single quotes: at the end of the source, also behind a backslash, no literal was left.
  case case10 => exact fun outside => by cases outside
  case case11 => exact fun text ih => .prepend ['\''] ['"'] plainSource (fun _ _ => rfl) ih
  case case12 => exact fun text ih => .prepend ['"'] ['\\', '"'] singleQuoted (fun _ _ => rfl) ih
  case case13 => exact fun outside => by cases outside
  case case14 => exact fun text ih => .prepend ['\\', '\''] ['\''] singleQuoted (fun _ _ => rfl) ih
  case case15 => exact fun c text single ih => .inSingle_escape single ih
  case case16 =>
    intro c text single double alone _ escapes ih
    exact .inSingle (ne_backslash alone escapes) single double ih
  -- In quotes that are kept.
  case case17 => exact fun quote outside => by cases outside
  case case18 => exact fun quote outside => by cases outside
  case case19 =>
    intro quote c text ih
    exact .prepend ['\\', c] ['\\', c] (keptQuoted quote) (fun _ _ => rfl) ih
  case case20 =>
    intro quote c text alone escapes outside inside
    exact .inKept (ne_backslash alone escapes) outside inside

theorem plainSource_parts {text rest : List Char} (outside : Context.code.after text = .code)
    (follows : rest.head? ≠ some '=') :
    plainSource (text ++ rest) = plainSource text ++ plainSource rest :=
  (cutsAfter_all.1 text outside).1 rest follows

theorem outside_plainSource {text : List Char} (outside : Context.code.after text = .code) :
    Context.code.after (plainSource text) = .code :=
  (cutsAfter_all.1 text outside).2

/-! ## What a literal says -/

/-- What stands between two quotes: no backslash is the last character, and a quote of that kind
comes after a backslash only. -/
inductive LiteralBody (quote : Char) : List Char → Prop
  | nil : LiteralBody quote []
  | plain {c : Char} {rest : List Char} (inside : c ≠ '\\' ∧ c ≠ quote)
      (body : LiteralBody quote rest) : LiteralBody quote (c :: rest)
  | escape {c : Char} {rest : List Char} (body : LiteralBody quote rest) :
      LiteralBody quote ('\\' :: c :: rest)

inductive Piece where
  | char (c : Char)
  | escape (c : Char)
deriving DecidableEq, Repr

/-- What a literal says.  A quote after a backslash says the quote. -/
def pieces : List Char → List Piece
  | [] => []
  | '\\' :: c :: rest => (if c = '\'' ∨ c = '"' then .char c else .escape c) :: pieces rest
  | c :: rest => .char c :: pieces rest

theorem pieces_cons {c : Char} (plain : c ≠ '\\') (rest : List Char) :
    pieces (c :: rest) = .char c :: pieces rest := by
  rw [pieces]
  exact fun _ _ same _ => plain same

theorem literalBody_cons {quote c : Char} (plain : c ≠ '\\') {rest : List Char} :
    LiteralBody quote (c :: rest) ↔ c ≠ quote ∧ LiteralBody quote rest := by
  constructor
  · intro body
    cases body with
    | plain inside body => exact ⟨inside.2, body⟩
    | escape body => exact absurd rfl plain
  · exact fun ⟨other, body⟩ => .plain ⟨plain, other⟩ body

theorem literalBody_escape {quote c : Char} {rest : List Char} :
    LiteralBody quote ('\\' :: c :: rest) ↔ LiteralBody quote rest := by
  constructor
  · intro body
    cases body with
    | plain inside body => exact absurd rfl inside.1
    | escape body => exact body
  · exact .escape

instance LiteralBody.decidable (quote : Char) :
    (text : List Char) → Decidable (LiteralBody quote text)
  | [] => .isTrue .nil
  | c :: rest =>
      if backslash : c = '\\' then
        match rest with
        | [] => .isFalse fun body => by
            cases body with
            | plain inside _ => exact inside.1 backslash
        | d :: rest =>
            have := LiteralBody.decidable quote rest
            decidable_of_iff (LiteralBody quote rest) (by rw [backslash, literalBody_escape])
      else
        have := LiteralBody.decidable quote rest
        decidable_of_iff (c ≠ quote ∧ LiteralBody quote rest) (literalBody_cons backslash).symm

/-- What stands in single quotes is rewritten to what stands in double ones and says the same. -/
theorem singleQuoted_body {body : List Char} (inside : LiteralBody '\'' body) :
    ∃ literal, LiteralBody '"' literal ∧ pieces literal = pieces body ∧
      ∀ rest, singleQuoted (body ++ rest) = literal ++ singleQuoted rest := by
  induction inside with
  | nil => exact ⟨[], .nil, rfl, fun _ => rfl⟩
  | @plain c body inside _ ih =>
      obtain ⟨literal, closed, same, rewritten⟩ := ih
      by_cases double : c = '"'
      · subst double
        refine ⟨'\\' :: '"' :: literal, closed.escape, ?_, fun rest => ?_⟩
        · rw [pieces_cons inside.1, ← same]
          rfl
        · rw [List.cons_append, singleQuoted, rewritten]
          rfl
      · refine ⟨c :: literal, .plain ⟨inside.1, double⟩ closed, ?_, fun rest => ?_⟩
        · rw [pieces_cons inside.1, pieces_cons inside.1, same]
        · rw [List.cons_append, singleQuoted_cons ⟨inside.2, double, inside.1⟩, rewritten]
          rfl
  | @escape c body _ ih =>
      obtain ⟨literal, closed, same, rewritten⟩ := ih
      by_cases single : c = '\''
      · subst single
        refine ⟨'\'' :: literal, .plain (by decide) closed, ?_, fun rest => ?_⟩
        · rw [pieces_cons (by decide), same]
          rfl
        · rw [List.cons_append, List.cons_append, singleQuoted, rewritten]
          rfl
      · refine ⟨'\\' :: c :: literal, closed.escape, ?_, fun rest => ?_⟩
        · rw [pieces, pieces, same]
        · rw [List.cons_append, List.cons_append, singleQuoted, rewritten]
          · rfl
          · exact single

/-- A literal in single quotes is closed by the same quote as before. -/
theorem singleQuoted_requotes {body : List Char} (closes : LiteralBody '\'' body) :
    ∃ literal, LiteralBody '"' literal ∧ pieces literal = pieces body ∧
      ∀ rest, singleQuoted (body ++ '\'' :: rest) = literal ++ '"' :: plainSource rest := by
  obtain ⟨literal, closed, same, rewritten⟩ := singleQuoted_body closes
  exact ⟨literal, closed, same, fun rest => by rw [rewritten, singleQuoted]⟩

/-- A literal in single quotes becomes one in double quotes that says the same, wherever in a source
outside all literals it opens, and the source before and after it is rewritten as if it stood
alone. -/
theorem single_quotes_become_double {body : String} (closes : LiteralBody '\'' body.toList) :
    ∃ literal : String, LiteralBody '"' literal.toList ∧
      pieces literal.toList = pieces body.toList ∧
      ∀ before after : String, Context.code.after before.toList = .code →
        Context.code.after (normalize before).toList = .code ∧
        normalize (before ++ "'" ++ body ++ "'" ++ after) =
          normalize before ++ "\"" ++ literal ++ "\"" ++ normalize after := by
  obtain ⟨literal, closed, same, rewritten⟩ := singleQuoted_requotes closes
  refine ⟨String.ofList literal, by rwa [String.toList_ofList], by rwa [String.toList_ofList],
    fun before after outside => ⟨?_, ?_⟩⟩
  · rw [normalize, String.toList_ofList]
    exact outside_plainSource outside
  · apply String.toList_inj.1
    have opened : plainSource ('\'' :: (body.toList ++ '\'' :: after.toList)) =
        '"' :: (literal ++ '"' :: plainSource after.toList) := by
      rw [plainSource, rewritten]
    simp only [normalize, String.toList_append, String.toList_ofList, List.append_assoc]
    exact (plainSource_parts outside (by simp)).trans (congrArg (_ ++ ·) opened)

theorem single_quotes_become_double_escapes :
    LiteralBody '\'' "O\\'Brien: \"\\n\\\" \\\\".toList ∧
      Context.code.after "a === 'b' && c == ".toList = .code ∧
      ∃ literal : String, LiteralBody '"' literal.toList ∧
        pieces literal.toList = pieces "O\\'Brien: \"\\n\\\" \\\\".toList ∧
        normalize ("a === 'b' && c == " ++ "'" ++ "O\\'Brien: \"\\n\\\" \\\\" ++ "'" ++ " || !==") =
          "a == \"b\" && c == " ++ "\"" ++ literal ++ "\"" ++ " || !=" := by
  have closes : LiteralBody '\'' "O\\'Brien: \"\\n\\\" \\\\".toList := by decide +kernel
  have outside : Context.code.after "a === 'b' && c == ".toList = .code := by rfl
  obtain ⟨literal, closed, same, rewritten⟩ := single_quotes_become_double closes
  refine ⟨closes, outside, literal, closed, same, ?_⟩
  obtain ⟨_, whole⟩ := rewritten _ " || !==" outside
  have before : normalize "a === 'b' && c == " = "a == \"b\" && c == " := by rfl
  have after : normalize " || !==" = " || !=" := by rfl
  rwa [before, after] at whole

end Script

end Sluice
