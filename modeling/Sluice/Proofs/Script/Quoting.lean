import Sluice.Proofs.Script.PlainForm

/-!
# Tokens end outside literals

The tokens of a text are read up to its end only if no literal is open there, where the reader of
tokens finds the same literals as the quotes show.
-/

set_option autoImplicit false

namespace Sluice

namespace Script

/-! ## Parts without quotes -/

def TakesUnquoted (text rest : List Char) : Prop :=
  ∃ taken, text = taken ++ rest ∧ ∀ c ∈ taken, c ≠ '"' ∧ c ≠ '`' ∧ c ≠ '\''

namespace TakesUnquoted

theorem nothing (text : List Char) : TakesUnquoted text text := ⟨[], rfl, nofun⟩

theorem trans {text middle rest : List Char} (one : TakesUnquoted text middle)
    (two : TakesUnquoted middle rest) : TakesUnquoted text rest := by
  obtain ⟨first, rfl, opens⟩ := one
  obtain ⟨second, rfl, opensToo⟩ := two
  exact ⟨first ++ second, by rw [List.append_assoc], List.forall_mem_append.2 ⟨opens, opensToo⟩⟩

theorem cons {c : Char} {text rest : List Char} (opens : c ≠ '"' ∧ c ≠ '`' ∧ c ≠ '\'')
    (others : TakesUnquoted text rest) : TakesUnquoted (c :: text) rest := by
  obtain ⟨taken, rfl, opensRest⟩ := others
  exact ⟨c :: taken, rfl, List.forall_mem_cons.2 ⟨opens, opensRest⟩⟩

theorem ofRun {run text : List Char} (begins : run <+: text)
    (opens : ∀ c ∈ run, c ≠ '"' ∧ c ≠ '`' ∧ c ≠ '\'') :
    TakesUnquoted text (text.drop run.length) :=
  ⟨run, (List.prefix_iff_eq_append.1 begins).symm, opens⟩

end TakesUnquoted

def QuoteFree (accepts : Char → Bool) : Prop :=
  accepts '"' = false ∧ accepts '`' = false ∧ accepts '\'' = false

instance (accepts : Char → Bool) : Decidable (QuoteFree accepts) :=
  inferInstanceAs (Decidable (_ ∧ _ ∧ _))

theorem QuoteFree.opens {accepts : Char → Bool} (free : QuoteFree accepts) {c : Char}
    (accepted : accepts c = true) : c ≠ '"' ∧ c ≠ '`' ∧ c ≠ '\'' := by
  obtain ⟨double, back, single⟩ := free
  refine ⟨?_, ?_, ?_⟩
  · rintro rfl
    exact Bool.false_ne_true (double.symm.trans accepted)
  · rintro rfl
    exact Bool.false_ne_true (back.symm.trans accepted)
  · rintro rfl
    exact Bool.false_ne_true (single.symm.trans accepted)

theorem QuoteFree.takes {accepts : Char → Bool} (free : QuoteFree accepts) (text : List Char) :
    TakesUnquoted text (text.drop (text.takeWhile accepts).length) := by
  have begins := List.takeWhile_prefix (l := text) accepts
  have all : (text.takeWhile accepts).all accepts = true := List.all_takeWhile
  exact .ofRun begins fun c member => free.opens (List.all_eq_true.1 all c member)

/-! ## Numbers -/

theorem baseDigits_takes {isDigit : Char → Bool} (free : QuoteFree isDigit) (text : List Char) :
    TakesUnquoted text (baseDigits isDigit text).2 := by
  refine QuoteFree.takes ⟨?_, ?_, ?_⟩ text
  · simp [free.1]
  · simp [free.2.1]
  · simp [free.2.2]

theorem decimalDigits_takes (text : List Char) :
    TakesUnquoted text (baseDigits Char.isDigit text).2 := baseDigits_takes (by decide) text

theorem fractionAfter_takes {text digits rest : List Char}
    (reads : fractionAfter text = some (digits, rest)) : TakesUnquoted text rest := by
  unfold fractionAfter at reads
  split at reads
  · next c others =>
      refine .cons (by decide) ?_
      split at reads
      · obtain ⟨_, rfl⟩ := Prod.mk.inj (Option.some.inj reads)
        exact decimalDigits_takes _
      · split at reads
        · cases reads
        · obtain ⟨_, rfl⟩ := Prod.mk.inj (Option.some.inj reads)
          exact .nothing _
  · cases reads

theorem exponentAfter_takes {text digits rest : List Char}
    (reads : exponentAfter text = some (digits, rest)) : TakesUnquoted text rest := by
  unfold exponentAfter at reads
  split at reads
  · next e others =>
      split at reads
      · next letter =>
          refine .cons (by rcases letter with rfl | rfl <;> decide) ?_
          split at reads
          · obtain ⟨_, rfl⟩ := Prod.mk.inj (Option.some.inj reads)
            exact .cons (by decide) (decimalDigits_takes _)
          · obtain ⟨_, rfl⟩ := Prod.mk.inj (Option.some.inj reads)
            exact .cons (by decide) (decimalDigits_takes _)
          · split at reads
            · obtain ⟨_, rfl⟩ := Prod.mk.inj (Option.some.inj reads)
              exact decimalDigits_takes _
            · cases reads
          · cases reads
      · cases reads
  · cases reads

/-- What is left behind the digits, the fraction and the exponent is left behind the number. -/
theorem decimalNumber?_rest {negative : Bool} {text rest : List Char} {token : Token}
    (reads : decimalNumber? negative text = some (token, rest)) :
    let behind := (baseDigits Char.isDigit text).2
    let middle := ((fractionAfter behind).map Prod.snd).getD behind
    rest = ((exponentAfter middle).map Prod.snd).getD middle := by
  unfold decimalNumber? at reads
  cases fraction : fractionAfter (baseDigits Char.isDigit text).2 with
  | none =>
      cases exponent : exponentAfter (baseDigits Char.isDigit text).2 with
      | none =>
          simp only [fraction, exponent] at reads ⊢
          grind
      | some part =>
          simp only [fraction, exponent] at reads ⊢
          grind
  | some digits =>
      cases exponent : exponentAfter digits.2 with
      | none =>
          simp only [fraction, exponent] at reads ⊢
          grind
      | some part =>
          simp only [fraction, exponent] at reads ⊢
          grind

theorem decimalNumber?_takes {negative : Bool} {text rest : List Char} {token : Token}
    (reads : decimalNumber? negative text = some (token, rest)) : TakesUnquoted text rest := by
  have optional : ∀ {part? : Option (List Char × List Char)} {behind : List Char},
      (∀ digits middle, part? = some (digits, middle) → TakesUnquoted behind middle) →
      TakesUnquoted behind ((part?.map Prod.snd).getD behind) := by
    intro part? behind takes
    cases part? with
    | none => exact .nothing behind
    | some part => exact takes part.1 part.2 rfl
  rw [decimalNumber?_rest reads]
  exact ((decimalDigits_takes text).trans (optional fun _ _ => fractionAfter_takes)).trans
    (optional fun _ _ => exponentAfter_takes)

theorem number?_takes {negative : Bool} {text rest : List Char} {token : Token}
    (reads : number? negative text = some (token, rest)) : TakesUnquoted text rest := by
  have based : ∀ {base : Nat} {isDigit : Char → Bool} {behind : List Char}, QuoteFree isDigit →
      ((baseNumber? base negative (baseDigits isDigit behind).1).map fun token =>
        (token, (baseDigits isDigit behind).2)) = some (token, rest) →
      TakesUnquoted behind rest := by
    intro base isDigit behind free read
    obtain ⟨_, _, same⟩ := Option.map_eq_some_iff.1 read
    obtain ⟨_, rfl⟩ := Prod.mk.inj same
    exact baseDigits_takes free behind
  unfold number? at reads
  split at reads
  · next c others =>
      have zero : '0' ≠ '"' ∧ '0' ≠ '`' ∧ '0' ≠ '\'' := by decide
      split at reads
      · next hex =>
          refine .cons zero (.cons (by rcases hex with rfl | rfl <;> decide) (based ?_ reads))
          decide
      split at reads
      · next octal =>
          refine .cons zero (.cons (by rcases octal with rfl | rfl <;> decide) (based ?_ reads))
          decide
      split at reads
      · next binary =>
          refine .cons zero (.cons (by rcases binary with rfl | rfl <;> decide) (based ?_ reads))
          decide
      · exact decimalNumber?_takes reads
  · exact decimalNumber?_takes reads

/-! ## Operators and marks -/

theorem symbol?_takes {text rest : List Char} {token : Token}
    (reads : symbol? text = some (token, rest)) : TakesUnquoted text rest := by
  have free : symbols.all (fun entry =>
      entry.1.all fun c => decide (c ≠ '"' ∧ c ≠ '`' ∧ c ≠ '\'')) = true := by decide
  have opens : ∀ entry ∈ symbols, ∀ c ∈ entry.1, c ≠ '"' ∧ c ≠ '`' ∧ c ≠ '\'' :=
    fun entry member c inside =>
      of_decide_eq_true (List.all_eq_true.1 (List.all_eq_true.1 free entry member) c inside)
  unfold symbol? at reads
  split at reads
  · cases reads
  · obtain ⟨entry, found, same⟩ := Option.map_eq_some_iff.1 reads
    obtain ⟨_, rfl⟩ := Prod.mk.inj same
    have begins := List.find?_some found
    exact .ofRun (List.isPrefixOf_iff_prefix.1 begins)
      (opens entry (List.mem_of_find?_eq_some found))

theorem notIn?_takes {text rest : List Char} (reads : notIn? text = some rest) :
    TakesUnquoted text rest := by
  have word : ∀ others : List Char, TakesUnquoted ('!' :: 'i' :: 'n' :: others) others :=
    fun others => .cons (by decide) (.cons (by decide) (.cons (by decide) (.nothing others)))
  unfold notIn? at reads
  split at reads
  · split at reads
    · split at reads
      · cases reads
      · obtain rfl := Option.some.inj reads
        exact word _
    · obtain rfl := Option.some.inj reads
      exact word _
  · cases reads

/-! ## Leaving a literal -/

def Context.Leaves (start : Context) (text rest : List Char) : Prop :=
  ∃ taken, text = taken ++ rest ∧ start.after taken = .code

namespace Context

variable {start : Context} {text middle rest : List Char}

theorem Leaves.cons {c : Char} (leaves : (start.step c).Leaves text rest) :
    start.Leaves (c :: text) rest := by
  obtain ⟨taken, rfl, outside⟩ := leaves
  exact ⟨c :: taken, rfl, outside⟩

theorem Leaves.prepend (first : List Char) (leaves : (start.after first).Leaves text rest) :
    start.Leaves (first ++ text) rest := by
  obtain ⟨taken, rfl, outside⟩ := leaves
  exact ⟨first ++ taken, by rw [List.append_assoc], by rw [after_append, outside]⟩

theorem leaves_unquoted (takes : TakesUnquoted text rest) : code.Leaves text rest := by
  obtain ⟨taken, rfl, opens⟩ := takes
  exact ⟨taken, rfl, after_unquoted opens⟩

end Context

/-! ## Literals as the quotes show them -/

namespace Context

/-- What the reader of tokens takes otherwise than the quotes show: a comment, and in back quotes an
expression or an escaped back quote, since a backslash means nothing there. -/
def misread : Context → List (List Char)
  | code => [['/', '/'], ['/', '*']]
  | within '`' => [['$', '\x7b']]
  | escaping '`' => [['`'], ['$', '\x7b']]
  | _ => []

theorem nil_notMem_misread (context : Context) : [] ∉ context.misread := by
  unfold misread
  split <;> decide

theorem Avoids.leave {start : Context} {runs : Context → List (List Char)} {text rest : List Char}
    (avoids : start.Avoids runs text) (leaves : start.Leaves text rest) :
    code.Avoids runs rest := by
  obtain ⟨taken, rfl, outside⟩ := leaves
  have behind := avoids.behind
  rwa [outside] at behind

end Context

/-! ## Texts -/

theorem isSome_of_hexFold {digits : List Char} {start : Option Nat} {value : Nat}
    (reads : digits.foldl (fun n c => do some ((← n) * 16 + (← Json.hexValue? c))) start =
      some value) : start.isSome = true ∧ ∀ c ∈ digits, (Json.hexValue? c).isSome = true := by
  induction digits generalizing start with
  | nil => exact ⟨by rw [show start = some value from reads]; rfl, nofun⟩
  | cons c digits ih =>
      obtain ⟨first, others⟩ := ih reads
      cases start with
      | none => cases first
      | some n =>
          refine ⟨rfl, List.forall_mem_cons.2 ⟨?_, others⟩⟩
          cases digit : Json.hexValue? c with
          | none => simp [digit] at first
          | some value => rfl

theorem hexChar?_takes {count : Nat} {text rest : List Char} {c : Char}
    (reads : hexChar? count text = some (c, rest)) :
    ∃ taken, text = taken ++ rest ∧ ∀ d ∈ taken, (Json.hexValue? d).isSome = true := by
  unfold hexChar? at reads
  dsimp only at reads
  split at reads
  · next value fold =>
      split at reads
      · obtain ⟨_, rfl⟩ := Prod.mk.inj (Option.some.inj reads)
        exact ⟨text.take count, (List.take_append_drop count text).symm, (isSome_of_hexFold fold).2⟩
      · cases reads
  · cases reads

/-- An escape is a character and perhaps some hexadecimal digits. -/
theorem textEscape?_takes {quote : Char} {text rest : List Char} {c : Char}
    (reads : textEscape? quote text = some (c, rest)) :
    ∃ first taken, text = first :: (taken ++ rest) ∧
      ∀ d ∈ taken, (Json.hexValue? d).isSome = true := by
  cases text with
  | nil => cases reads
  | cons first others =>
      have alone : others = rest → ∃ first' taken, first :: others = first' :: (taken ++ rest) ∧
          ∀ d ∈ taken, (Json.hexValue? d).isSome = true := by
        rintro rfl
        exact ⟨first, [], rfl, nofun⟩
      have digits : ∀ {count : Nat}, hexChar? count others = some (c, rest) →
          ∃ first' taken, first :: others = first' :: (taken ++ rest) ∧
            ∀ d ∈ taken, (Json.hexValue? d).isSome = true := by
        intro count read
        obtain ⟨taken, rfl, hex⟩ := hexChar?_takes read
        exact ⟨first, taken, rfl, hex⟩
      rw [textEscape?] at reads
      split at reads
      · exact alone (Prod.mk.inj (Option.some.inj reads)).2
      split at reads
      · exact alone (Prod.mk.inj (Option.some.inj reads)).2
      split at reads
      · exact alone (Prod.mk.inj (Option.some.inj reads)).2
      split at reads
      · exact alone (Prod.mk.inj (Option.some.inj reads)).2
      split at reads
      · exact digits reads
      split at reads
      · exact digits reads
      split at reads
      · exact digits reads
      · cases reads

def IsQuote (c : Char) : Prop := c = '"' ∨ c = '`' ∨ c = '\''

theorem IsQuote.step_code {quote : Char} (isQuote : IsQuote quote) :
    Context.code.step quote = .within quote := if_pos isQuote

theorem IsQuote.ne_backslash {quote : Char} (isQuote : IsQuote quote) : quote ≠ '\\' := by
  rcases isQuote with rfl | rfl | rfl <;> decide

theorem IsQuote.step_within {quote : Char} (isQuote : IsQuote quote) :
    (Context.within quote).step quote = .code := by
  rw [Context.step, if_neg isQuote.ne_backslash, if_pos rfl]

theorem literalBody_of_hexDigits {quote : Char} (isQuote : IsQuote quote) {digits : List Char}
    (hex : ∀ d ∈ digits, (Json.hexValue? d).isSome = true) : LiteralBody quote digits := by
  induction digits with
  | nil => exact .nil
  | cons d digits ih =>
      obtain ⟨first, others⟩ := List.forall_mem_cons.1 hex
      refine .plain ⟨?_, ?_⟩ (ih others)
      · rintro rfl
        cases first
      · rintro rfl
        rcases isQuote with rfl | rfl | rfl <;> cases first

/-- A text is read up to the quote that closes it; a doubled quote closes it and opens it again. -/
theorem quotedText?_leaves {quote : Char} (isQuote : IsQuote quote) {fuel : Nat}
    {text body rest : List Char} (reads : quotedText? quote fuel text = some (body, rest)) :
    (Context.within quote).Leaves text rest := by
  induction fuel generalizing text body with
  | zero => cases reads
  | succ fuel ih =>
      cases text with
      | nil => cases reads
      | cons c others =>
          have onward : ∀ {c : Char} {behind : List Char},
              ((quotedText? quote fuel behind).map fun read => (c :: read.1, read.2)) =
                some (body, rest) → (Context.within quote).Leaves behind rest := by
            intro c behind read
            obtain ⟨⟨inner, last⟩, later, same⟩ := Option.map_eq_some_iff.1 read
            obtain ⟨_, rfl⟩ := Prod.mk.inj same
            exact ih later
          unfold quotedText? at reads
          dsimp only at reads
          split at reads
          · next closes =>
              subst closes
              refine .cons ?_
              rw [isQuote.step_within]
              split at reads
              · next d behind =>
                  split at reads
                  · next doubled =>
                      subst doubled
                      refine .cons ?_
                      rw [isQuote.step_code]
                      exact onward reads
                  · obtain ⟨_, rfl⟩ := Prod.mk.inj (Option.some.inj reads)
                    exact ⟨[], rfl, rfl⟩
              · obtain ⟨_, rfl⟩ := Prod.mk.inj (Option.some.inj reads)
                exact ⟨[], rfl, rfl⟩
          · next other =>
              split at reads
              · cases reads
              split at reads
              · next backslash =>
                  subst backslash
                  split at reads
                  · next behind => exact .prepend ['\\', '\n'] (ih reads)
                  · split at reads
                    · next escape =>
                        obtain ⟨first, taken, rfl, hex⟩ := textEscape?_takes escape
                        have inside : LiteralBody quote ('\\' :: first :: taken) :=
                          .escape (literalBody_of_hexDigits isQuote hex)
                        refine .prepend ('\\' :: first :: taken) ?_
                        rw [Context.after_body inside]
                        exact onward reads
                    · cases reads
              · next plain =>
                  refine .cons ?_
                  rw [Context.step_within ⟨plain, other⟩]
                  exact onward reads

theorem readTemplate_leaves {fuel : Nat} {words text rest : List Char} {parts : List TemplatePart}
    {start : Context} (inside : start = .within '`' ∨ start = .escaping '`')
    (alike : start.Avoids Context.misread text)
    (reads : readTemplate fuel words text = some (parts, rest)) :
    start.Leaves text rest := by
  induction fuel generalizing words text start with
  | zero => cases reads
  | succ fuel ih =>
      cases text with
      | nil => cases reads
      | cons c others =>
          obtain ⟨here, later⟩ := Context.avoids_cons.1 alike
          unfold readTemplate at reads
          dsimp only at reads
          split at reads
          · next closes =>
              subst closes
              have unescaped : start = .within '`' := by
                refine inside.resolve_right ?_
                rintro rfl
                exact here ['`'] (.head _) ⟨others, rfl⟩
              subst unescaped
              split at reads
              · next behind =>
                  refine .prepend ['`', '`'] (ih (.inl rfl) ?_ reads)
                  exact (Context.avoids_cons.1 later).2
              · obtain ⟨_, rfl⟩ := Prod.mk.inj (Option.some.inj reads)
                exact ⟨['`'], rfl, rfl⟩
          · next other =>
              split at reads
              · next expression =>
                  obtain ⟨rfl, follows⟩ := expression
                  obtain ⟨behind, rfl⟩ := List.head?_eq_some_iff.1 follows
                  rcases inside with rfl | rfl
                  · exact (here ['$', '\x7b'] (.head _) ⟨behind, rfl⟩).elim
                  · exact (here ['$', '\x7b'] (.tail _ (.head _)) ⟨behind, rfl⟩).elim
              · have stays : start.step c = .within '`' ∨ start.step c = .escaping '`' := by
                  rcases inside with rfl | rfl
                  · by_cases backslash : c = '\\'
                    · exact .inr (if_pos backslash)
                    · exact .inl (Context.step_within ⟨backslash, other⟩)
                  · exact .inl rfl
                exact .cons (ih stays later reads)

/-- A break behind the opening quote is passed over. -/
theorem dropFirstBreak_eq (text : List Char) : ∃ first, text = first ++ dropFirstBreak text ∧
    (Context.within '`').after first = .within '`' := by
  unfold dropFirstBreak
  split
  · exact ⟨['\r', '\n'], rfl, rfl⟩
  · exact ⟨['\r'], rfl, rfl⟩
  · exact ⟨['\n'], rfl, rfl⟩
  · exact ⟨[], rfl, rfl⟩

theorem quotedText?_passes {quote : Char} (isQuote : IsQuote quote) {fuel : Nat}
    {text body rest : List Char} (reads : quotedText? quote fuel text = some (body, rest)) :
    Context.code.Leaves (quote :: text) rest := by
  refine .cons ?_
  rw [isQuote.step_code]
  exact quotedText?_leaves isQuote reads

theorem readTemplate_passes {fuel : Nat} {text rest : List Char} {parts : List TemplatePart}
    (alike : Context.code.Avoids Context.misread ('`' :: text))
    (reads : readTemplate fuel [] (dropFirstBreak text) = some (parts, rest)) :
    Context.code.Leaves ('`' :: text) rest := by
  obtain ⟨first, split, stays⟩ := dropFirstBreak_eq text
  have inside : (Context.within '`').Avoids Context.misread (first ++ dropFirstBreak text) := by
    rw [← split]
    exact (Context.avoids_cons.1 alike).2
  have behind := inside.behind
  rw [stays] at behind
  have opened : (Context.within '`').Leaves (first ++ dropFirstBreak text) rest := by
    refine .prepend first ?_
    rw [stays]
    exact readTemplate_leaves (.inl rfl) behind reads
  rw [← split] at opened
  exact .cons opened

/-! ## Tokens -/

/-- What is read first where a source begins, and the rest of it: something that is passed over, or
a token. -/
inductive ReadsFirst (fuel : Nat) : List Char → List Char → Prop where
  | blank {c : Char} (blank : isTokenBlank c = true) (rest : List Char) :
      ReadsFirst fuel (c :: rest) rest
  | comment {mark : Char} (begins : mark = '/' ∨ mark = '*') (others rest : List Char) :
      ReadsFirst fuel ('/' :: mark :: others) rest
  | number {text rest : List Char} {token : Token}
      (reads : number? false text = some (token, rest)) : ReadsFirst fuel text rest
  | negative {text rest : List Char} {token : Token}
      (reads : number? true text = some (token, rest)) : ReadsFirst fuel ('-' :: text) rest
  | name (text : List Char) :
      ReadsFirst fuel text (text.drop (text.takeWhile isNameChar).length)
  | quoted {quote : Char} (isQuote : IsQuote quote) {length : Nat} {text body rest : List Char}
      (reads : quotedText? quote length text = some (body, rest)) :
      ReadsFirst fuel (quote :: text) rest
  | template {text rest : List Char} {parts : List TemplatePart}
      (reads : readTemplate fuel [] (dropFirstBreak text) = some (parts, rest)) :
      ReadsFirst fuel ('`' :: text) rest
  | notIn {text rest : List Char} (reads : notIn? text = some rest) : ReadsFirst fuel text rest
  | symbol {text rest : List Char} {token : Token} (reads : symbol? text = some (token, rest)) :
      ReadsFirst fuel text rest

section ReadsFirst

variable {fuel : Nat} {text rest : List Char}

theorem ReadsFirst.leaves (first : ReadsFirst fuel text rest)
    (alike : Context.code.Avoids Context.misread text) : Context.code.Leaves text rest := by
  cases first with
  | blank blank =>
      have free : QuoteFree isTokenBlank := by decide
      exact Context.leaves_unquoted (.cons (free.opens blank) (.nothing rest))
  | comment begins others rest =>
      obtain ⟨here, _⟩ := Context.avoids_cons.1 alike
      rcases begins with rfl | rfl
      · exact (here ['/', '/'] (.head _) ⟨others, rfl⟩).elim
      · exact (here ['/', '*'] (.tail _ (.head _)) ⟨others, rfl⟩).elim
  | number reads => exact Context.leaves_unquoted (number?_takes reads)
  | negative reads => exact Context.leaves_unquoted (.cons (by decide) (number?_takes reads))
  | name text =>
      have free : QuoteFree isNameChar := by decide
      exact Context.leaves_unquoted (free.takes text)
  | quoted isQuote reads => exact quotedText?_passes isQuote reads
  | template reads => exact readTemplate_passes alike reads
  | notIn reads => exact Context.leaves_unquoted (notIn?_takes reads)
  | symbol reads => exact Context.leaves_unquoted (symbol?_takes reads)

def GoesOn (fuel : Nat) (text : List Char) : Prop :=
  ∃ rest operand later, ReadsFirst fuel text rest ∧
    readTokens fuel none operand rest = some later

theorem ReadsFirst.goesOn {token : Token} {result : List Token × List Char}
    (first : ReadsFirst fuel text rest)
    (reads : ((readTokens fuel none token.endsOperand rest).map fun read =>
      (token :: read.1, read.2)) = some result) : GoesOn fuel text := by
  obtain ⟨later, behind, _⟩ := Option.map_eq_some_iff.1 reads
  exact ⟨rest, _, later, first, behind⟩

end ReadsFirst

/-- A quote is none of the characters that the reader of tokens asks for before the quotes. -/
theorem IsQuote.asked_later {c : Char} (isQuote : IsQuote c) :
    isTokenBlank c = false ∧ c ≠ '/' ∧ c.isDigit = false ∧ c ≠ '-' ∧ isNameStart c = false := by
  rcases isQuote with rfl | rfl | rfl <;> decide

theorem goesOn_of_quote {fuel : Nat} {afterOperand : Bool} {c : Char} {others : List Char}
    {result : List Token × List Char} (isQuote : IsQuote c)
    (reads : readTokens (fuel + 1) none afterOperand (c :: others) = some result) :
    GoesOn fuel (c :: others) := by
  obtain ⟨blank, slash, digit, minus, name⟩ := isQuote.asked_later
  rw [readTokens] at reads
  simp only [blank, slash, digit, minus, name, Bool.false_eq_true, false_and, if_false] at reads
  split at reads
  · next double =>
      obtain ⟨⟨body, rest⟩, text, read⟩ := Option.bind_eq_some_iff.1 reads
      subst double
      exact (ReadsFirst.quoted isQuote text).goesOn read
  split at reads
  · next single =>
      obtain ⟨⟨body, rest⟩, text, read⟩ := Option.bind_eq_some_iff.1 reads
      subst single
      split at read
      · next same =>
          obtain ⟨_, rfl⟩ := Prod.mk.inj same
          exact (ReadsFirst.quoted isQuote text).goesOn read
      · cases read
  split at reads
  · next back =>
      obtain ⟨⟨parts, rest⟩, text, read⟩ := Option.bind_eq_some_iff.1 reads
      subst back
      rcases parts with _ | ⟨⟨words⟩ | ⟨code⟩, _ | ⟨part, parts⟩⟩ <;>
        exact (ReadsFirst.template text).goesOn read
  · next double single back =>
      rcases isQuote with same | same | same
      · exact absurd same double
      · exact absurd same back
      · exact absurd same single

theorem readTokens_goesOn {fuel : Nat} {afterOperand : Bool} {c : Char} {others : List Char}
    {result : List Token × List Char}
    (reads : readTokens (fuel + 1) none afterOperand (c :: others) = some result) :
    GoesOn fuel (c :: others) := by
  by_cases quote : IsQuote c
  · exact goesOn_of_quote quote reads
  obtain ⟨double, back, single⟩ : c ≠ '"' ∧ c ≠ '`' ∧ c ≠ '\'' := by simpa [IsQuote] using quote
  rw [readTokens] at reads
  simp only [double, back, single, if_false] at reads
  split at reads
  · next blank => exact ⟨others, _, result, .blank blank others, reads⟩
  split at reads
  · next line =>
      obtain ⟨rfl, follows⟩ := line
      obtain ⟨behind, rfl⟩ := List.head?_eq_some_iff.1 follows
      exact ⟨_, _, result, .comment (.inl rfl) behind _, reads⟩
  split at reads
  · next block =>
      obtain ⟨rfl, follows⟩ := block
      obtain ⟨behind, rfl⟩ := List.head?_eq_some_iff.1 follows
      exact ⟨_, _, result, .comment (.inr rfl) behind _, reads⟩
  split at reads
  · obtain ⟨⟨token, rest⟩, number, read⟩ := Option.bind_eq_some_iff.1 reads
    exact (ReadsFirst.number number).goesOn read
  split at reads
  · next minus =>
      obtain ⟨⟨token, rest⟩, number, read⟩ := Option.bind_eq_some_iff.1 reads
      obtain ⟨rfl, _⟩ := minus
      exact (ReadsFirst.negative number).goesOn read
  split at reads
  · obtain ⟨token, _, read⟩ := Option.bind_eq_some_iff.1 reads
    exact (ReadsFirst.name (c :: others)).goesOn read
  split at reads
  · next closes => cases closes.2
  split at reads
  · next rest notIn => exact (ReadsFirst.notIn notIn).goesOn reads
  · obtain ⟨⟨token, rest⟩, symbol, read⟩ := Option.bind_eq_some_iff.1 reads
    dsimp only [Option.map_none] at read
    split at read <;> exact (ReadsFirst.symbol symbol).goesOn read

/-- All tokens are read only where no literal is open in the end. -/
theorem readTokens_outside {fuel : Nat} {afterOperand : Bool} {text : List Char}
    {result : List Token × List Char} (alike : Context.code.Avoids Context.misread text)
    (reads : readTokens fuel none afterOperand text = some result) :
    Context.code.after text = .code := by
  induction fuel generalizing afterOperand text result with
  | zero => rw [readTokens] at reads; cases reads
  | succ fuel ih =>
      cases text with
      | nil => rfl
      | cons c others =>
          obtain ⟨rest, operand, later, first, behind⟩ := readTokens_goesOn reads
          have leaves := first.leaves alike
          have outside := ih (alike.leave leaves) behind
          obtain ⟨taken, split, left⟩ := leaves
          rw [split, Context.after_append, left, outside]

end Script

end Sluice
