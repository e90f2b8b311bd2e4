import Sluice.Proofs.Number.Reading
import Sluice.Proofs.Text.Utf8
import Sluice.Script.Engine

/-!
# Spelling expressions

How texts are read as the parts of an expression: which characters the plain form of a source keeps,
what stands for a name, an integer or a text in front of a blank, and what a variable alone, and a
variable, a comparison and a constant with blanks between them, come to.
-/

set_option autoImplicit false

namespace Sluice

namespace Script

/-! ## Plain form -/

theorem plainSource_of_unquoted {c : Char} {rest : List Char}
    (opens : c ≠ '"' ∧ c ≠ '`' ∧ c ≠ '\'')
    (alone : c = '=' ∨ c = '!' → rest.head? ≠ some '=') :
    plainSource (c :: rest) = c :: plainSource rest := by
  obtain ⟨double, back, single⟩ := opens
  rw [plainSource]
  · rintro others rfl rfl
    exact alone (.inl rfl) rfl
  · rintro others rfl rfl
    exact alone (.inr rfl) rfl
  · rintro others rfl rfl
    exact alone (.inl rfl) rfl
  · rintro others rfl rfl
    exact alone (.inr rfl) rfl
  · exact double
  · exact back
  · exact single

def isPlain (c : Char) : Bool := !(['=', '!', '"', '`', '\''].contains c)

theorem plainSource_cons {c : Char} (plain : isPlain c = true) (rest : List Char) :
    plainSource (c :: rest) = c :: plainSource rest := by
  simp only [isPlain, List.contains_eq_mem, List.mem_cons, List.not_mem_nil, or_false,
    Bool.not_eq_true', decide_eq_false_iff_not, not_or] at plain
  obtain ⟨equals, bang, quotes⟩ := plain
  refine plainSource_of_unquoted quotes ?_
  rintro (rfl | rfl)
  · exact absurd rfl equals
  · exact absurd rfl bang

theorem plainSource_append {text : List Char} (plain : text.all isPlain = true)
    (rest : List Char) : plainSource (text ++ rest) = text ++ plainSource rest := by
  induction text with
  | nil => rfl
  | cons c text ih =>
      simp only [List.all_cons, Bool.and_eq_true] at plain
      rw [List.cons_append, plainSource_cons plain.1, ih plain.2, List.cons_append]

theorem isPlain_of_nameChar {c : Char} (char : isNameChar c = true) : isPlain c = true := by
  rw [isPlain, Bool.not_eq_true', Bool.eq_false_iff]
  intro member
  simp only [List.contains_eq_mem, decide_eq_true_eq, List.mem_cons, List.not_mem_nil,
    or_false] at member
  rcases member with rfl | rfl | rfl | rfl | rfl <;> cases char

theorem isNameChar_of_digit {c : Char} (digit : c.isDigit = true) : isNameChar c = true := by
  simp [isNameChar, Char.isAlphanum, digit]

theorem singleQuoted_cons {c : Char} (plain : c ≠ '\'' ∧ c ≠ '"' ∧ c ≠ '\\')
    (rest : List Char) : singleQuoted (c :: rest) = c :: singleQuoted rest := by
  obtain ⟨single, double, back⟩ := plain
  rw [singleQuoted]
  all_goals simp_all

def shownIn (quote c : Char) : List Char := if c = '\\' ∨ c = quote then ['\\', c] else [c]

theorem singleQuoted_shownIn (text : List Char) :
    singleQuoted (text.flatMap (shownIn '\'') ++ ['\'']) = text.flatMap (shownIn '"') ++ ['"'] := by
  induction text with
  | nil => rfl
  | cons c text ih =>
      rw [List.flatMap_cons, List.append_assoc, List.flatMap_cons, List.append_assoc, ← ih]
      by_cases back : c = '\\'
      · subst back
        simp [shownIn, singleQuoted]
      · by_cases single : c = '\''
        · subst single
          simp [shownIn, singleQuoted]
        · by_cases double : c = '"'
          · subst double
            simp [shownIn, singleQuoted]
          · simp [shownIn, back, single, double, singleQuoted_cons ⟨single, double, back⟩]

theorem quotedText?_escaped {c : Char} (escaped : c = '\\' ∨ c = '"') (fuel : Nat)
    (rest : List Char) : quotedText? '"' (fuel + 1) ('\\' :: c :: rest) =
      (quotedText? '"' fuel rest).map fun read => (c :: read.1, read.2) := by
  rcases escaped with rfl | rfl <;> rfl

theorem quotedText?_plain {c : Char} (plain : c ≠ '"' ∧ c ≠ '\n' ∧ c ≠ '\\') (fuel : Nat)
    (rest : List Char) : quotedText? '"' (fuel + 1) (c :: rest) =
      (quotedText? '"' fuel rest).map fun read => (c :: read.1, read.2) := by
  obtain ⟨double, line, back⟩ := plain
  cases rest <;> simp [quotedText?, double, line, back]

theorem quotedText?_shownIn {text : List Char} (line : '\n' ∉ text) {fuel : Nat}
    (enough : text.length < fuel) {rest : List Char} (ends : rest.head? ≠ some '"') :
    quotedText? '"' fuel (text.flatMap (shownIn '"') ++ '"' :: rest) = some (text, rest) := by
  induction text generalizing fuel with
  | nil =>
      obtain ⟨fuel, rfl⟩ := Nat.exists_eq_add_one_of_ne_zero (Nat.ne_of_gt enough)
      cases rest with
      | nil => rfl
      | cons c rest =>
          have differs : c ≠ '"' := fun same => ends (by rw [same]; rfl)
          simp [quotedText?, differs]
  | cons c text ih =>
      obtain ⟨fuel, rfl⟩ :=
        Nat.exists_eq_add_one_of_ne_zero (Nat.ne_of_gt (Nat.zero_lt_of_lt enough))
      simp only [List.mem_cons, not_or] at line
      have read := ih line.2 (Nat.lt_of_succ_lt_succ enough)
      rw [List.flatMap_cons, List.append_assoc, shownIn]
      split
      · next escaped =>
          rw [List.cons_append, List.singleton_append, quotedText?_escaped escaped, read]
          rfl
      · next bare =>
          rw [List.singleton_append,
            quotedText?_plain ⟨fun same => bare (.inr same), Ne.symm line.1,
              fun same => bare (.inl same)⟩, read]
          rfl

/-! ## Tokens -/

def EndsToken (rest : List Char) : Prop := ∀ c, rest.head? = some c → c = ' '

/-- In front of a blank or the end of a source, and behind an operand or not, the text is read as
the token. -/
def Token.Spelled (token : Token) (afterOperand : Bool) (text : List Char) : Prop :=
  ∀ fuel rest, EndsToken rest → readTokens (fuel + 1) none afterOperand (text ++ rest) =
    (readTokens fuel none token.endsOperand rest).map fun read => (token :: read.1, read.2)

theorem readTokens_blank (fuel : Nat) (afterOperand : Bool) (rest : List Char) :
    readTokens (fuel + 1) none afterOperand (' ' :: rest) =
      readTokens fuel none afterOperand rest := by
  rw [readTokens, if_pos (by decide)]

def isVariableName (name : String) : Bool :=
  name.toList.all isNameChar && isValidName name.toList &&
    !(languageWords ++ refusedWords ++ languageFunctions).contains name

theorem isNameStart_of_valid {c : Char} {rest : List Char}
    (valid : isValidName (c :: rest) = true) :
    isNameStart c = true := by
  rw [isNameStart]
  by_cases underscore : c = '_'
  · simp [underscore]
  · simpa [isValidName, List.dropWhile_cons, underscore] using valid

/-- What begins a name begins no other token. -/
theorem begins_name {c : Char} (start : isNameStart c = true) :
    isTokenBlank c = false ∧ c ≠ '/' ∧ c.isDigit = false ∧ c ≠ '-' := by
  refine ⟨?_, ?_, ?_, ?_⟩
  · rw [isTokenBlank, Bool.eq_false_iff]
    intro blank
    simp only [Bool.or_eq_true, decide_eq_true_eq] at blank
    rcases blank with (((rfl | rfl) | rfl) | rfl) | rfl <;> exact absurd start (by decide)
  · rintro rfl
    exact absurd start (by decide)
  · rw [Bool.eq_false_iff]
    intro digit
    have small : c.val ≤ '9'.val := of_decide_eq_true (Bool.and_eq_true_iff.1 digit).2
    -- Both kinds of letters come after the digits.
    rcases Bool.or_eq_true_iff.1 start with letter | underscore
    · rcases Bool.or_eq_true_iff.1 letter with upper | lower
      · have above : 'A'.val ≤ c.val := (of_decide_eq_true upper).1
        exact absurd small (Nat.not_le.2 (Nat.lt_of_lt_of_le (by decide) above))
      · have above : 'a'.val ≤ c.val := of_decide_eq_true (Bool.and_eq_true_iff.1 lower).1
        exact absurd small (Nat.not_le.2 (Nat.lt_of_lt_of_le (by decide) above))
    · obtain rfl := of_decide_eq_true underscore
      exact absurd digit (by decide)
  · rintro rfl
    exact absurd start (by decide)

theorem takeWhile_append_stops {text rest : List Char} {accepts : Char → Bool}
    (all : text.all accepts = true) (stops : ∀ c, rest.head? = some c → accepts c = false) :
    (text ++ rest).takeWhile accepts = text := by
  rw [List.takeWhile_append_of_pos (List.all_eq_true.1 all)]
  cases rest with
  | nil => simp
  | cons c rest => simp [stops c rfl]

theorem takeWhile_append_ends {text rest : List Char} {accepts : Char → Bool}
    (all : text.all accepts = true) (ends : EndsToken rest) (blank : accepts ' ' = false) :
    (text ++ rest).takeWhile accepts = text :=
  takeWhile_append_stops all fun c head => ends c head ▸ blank

theorem nameToken?_of_legal {name : String} (legal : isVariableName name = true) :
    nameToken? name.toList = some (.name name) := by
  simp only [isVariableName, Bool.and_eq_true, Bool.not_eq_true', List.contains_append,
    Bool.or_eq_false_iff] at legal
  obtain ⟨⟨_, valid⟩, ⟨noWord, notRefused⟩, _⟩ := legal
  simp [nameToken?, valid, noWord, notRefused, -List.contains_eq_mem]

theorem head_of_legal {name : String} (legal : isVariableName name = true) :
    ∃ c others, name.toList = c :: others ∧ isNameStart c = true := by
  simp only [isVariableName, Bool.and_eq_true] at legal
  obtain ⟨⟨_, valid⟩, _⟩ := legal
  cases text : name.toList with
  | nil =>
      rw [text] at valid
      cases valid
  | cons c others =>
      rw [text] at valid
      exact ⟨c, others, rfl, isNameStart_of_valid valid⟩

theorem isPlain_of_legal {name : String} (legal : isVariableName name = true) :
    name.toList.all isPlain = true := by
  simp only [isVariableName, Bool.and_eq_true] at legal
  exact List.all_eq_true.2 fun c member =>
    isPlain_of_nameChar (List.all_eq_true.1 legal.1.1 c member)

theorem noFunction_of_legal {name : String} (legal : isVariableName name = true) :
    languageFunctions.contains name = false := by
  simp only [isVariableName, Bool.and_eq_true, Bool.not_eq_true', List.contains_append,
    Bool.or_eq_false_iff] at legal
  exact legal.2.2

/-- A name is read up to the first character that cannot belong to it. -/
theorem readTokens_name {name : String} (legal : isVariableName name = true) (fuel : Nat)
    (afterOperand : Bool) {rest : List Char}
    (stops : ∀ c, rest.head? = some c → isNameChar c = false) :
    readTokens (fuel + 1) none afterOperand (name.toList ++ rest) =
      (readTokens fuel none true rest).map fun read => (.name name :: read.1, read.2) := by
  have token := nameToken?_of_legal legal
  obtain ⟨c, others, text, start⟩ := head_of_legal legal
  simp only [isVariableName, Bool.and_eq_true] at legal
  have taken := takeWhile_append_stops legal.1.1 stops
  obtain ⟨notBlank, notSlash, notDigit, notMinus⟩ := begins_name start
  rw [text, List.cons_append] at taken
  rw [text] at token ⊢
  rw [List.cons_append, readTokens]
  simp [notBlank, notSlash, notDigit, notMinus, start, taken, token, Token.endsOperand]

theorem spelled_name {name : String} (legal : isVariableName name = true) (afterOperand : Bool) :
    (Token.name name).Spelled afterOperand name.toList := by
  intro fuel rest ends
  refine readTokens_name legal fuel afterOperand fun c head => ?_
  rw [ends c head]
  decide

/-! ### Numbers -/

/-- A run of at least one digit. -/
def IsDigits (text : List Char) : Prop := text ≠ [] ∧ text.all Char.isDigit = true

theorem isDigits_toDigits (n : Nat) : IsDigits (Nat.toDigits 10 n) :=
  ⟨Nat.toDigits_ne_nil, List.all_eq_true.2 fun _ member =>
    Nat.isDigit_of_mem_toDigits (by decide) (by decide) member⟩

theorem baseDigits_digits {digits rest : List Char} (isDigits : IsDigits digits)
    (ends : EndsToken rest) : baseDigits Char.isDigit (digits ++ rest) = (digits, rest) := by
  have all : digits.all (fun c => c.isDigit || c = '_') = true := by
    rw [List.all_eq_true]
    intro c member
    rw [List.all_eq_true.1 isDigits.2 c member]
    rfl
  have kept : digits.filter (· ≠ '_') = digits := by
    rw [List.filter_eq_self]
    intro c member
    have digit := List.all_eq_true.1 isDigits.2 c member
    have differs : c ≠ '_' := by
      rintro rfl
      cases digit
    exact decide_eq_true differs
  rw [baseDigits, takeWhile_append_ends all ends (by decide)]
  simp only [kept, List.drop_left]

theorem fractionAfter_ends {rest : List Char} (ends : EndsToken rest) :
    fractionAfter rest = none ∧ exponentAfter rest = none := by
  cases rest with
  | nil => exact ⟨rfl, rfl⟩
  | cons c rest =>
      obtain rfl := ends c rfl
      exact ⟨rfl, rfl⟩

/-- What follows the digits of a decimal number names no other base. -/
theorem number?_decimal {digits rest : List Char} (isDigits : IsDigits digits)
    (ends : EndsToken rest) (negative : Bool) :
    number? negative (digits ++ rest) = decimalNumber? negative (digits ++ rest) := by
  have noBase : ∀ c : Char, c.isDigit = true ∨ c = ' ' →
      ¬(c = 'x' ∨ c = 'X') ∧ ¬(c = 'o' ∨ c = 'O') ∧ ¬(c = 'b' ∨ c = 'B') := by
    rintro c (digit | rfl)
    · refine ⟨?_, ?_, ?_⟩ <;> rintro (rfl | rfl) <;> cases digit
    · decide
  obtain ⟨nonempty, all⟩ := isDigits
  unfold number?
  split
  · next c others text =>
      have follows : c.isDigit = true ∨ c = ' ' := by
        match digits, rest with
        | [], _ => exact absurd rfl nonempty
        | [_], [] => cases text
        | [_], d :: _ =>
            cases text
            exact .inr (ends _ rfl)
        | _ :: d :: _, _ =>
            cases text
            simp only [List.all_cons, Bool.and_eq_true] at all
            exact .inl all.2.1
      obtain ⟨notHex, notOctal, notBinary⟩ := noBase c follows
      rw [if_neg notHex, if_neg notOctal, if_neg notBinary]
  · rfl

theorem decimalNumber?_digits {digits rest : List Char} (isDigits : IsDigits digits)
    (ends : EndsToken rest) {negative : Bool} {n : Int64}
    (reads : readInt (String.ofList ((if negative then ['-'] else []) ++ digits)) = .ok n) :
    decimalNumber? negative (digits ++ rest) = some (.int n, rest) := by
  obtain ⟨noFraction, noExponent⟩ := fractionAfter_ends ends
  simp only [decimalNumber?, baseDigits_digits isDigits ends, noFraction, noExponent, reads]
  rfl

theorem intText_digits (n : Int64) : ∃ (negative : Bool) (digits : List Char), IsDigits digits ∧
    (Value.intText n).toList = (if negative then ['-'] else []) ++ digits := by
  rw [Value.intText]
  cases n.toInt with
  | ofNat magnitude => exact ⟨false, _, isDigits_toDigits magnitude, Nat.toList_repr⟩
  | negSucc magnitude =>
      refine ⟨true, _, isDigits_toDigits (magnitude + 1), ?_⟩
      simp [Int.toString_eq_repr, Int.repr]

theorem begins_digit {c : Char} (digit : c.isDigit = true) :
    isTokenBlank c = false ∧ c ≠ '/' := by
  refine ⟨?_, ?_⟩
  · rw [isTokenBlank, Bool.eq_false_iff]
    intro blank
    simp only [Bool.or_eq_true, decide_eq_true_eq] at blank
    rcases blank with (((rfl | rfl) | rfl) | rfl) | rfl <;> cases digit
  · rintro rfl
    cases digit

/-- The sign belongs to the number, since no operand stands before it. -/
theorem spelled_int (n : Int64) : (Token.int n).Spelled false (Value.intText n).toList := by
  intro fuel rest ends
  obtain ⟨negative, digits, isDigits, text⟩ := intText_digits n
  have reads := readInt_intText n
  rw [← String.ofList_toList (s := Value.intText n), text] at reads
  have number := (number?_decimal isDigits ends negative).trans
    (decimalNumber?_digits isDigits ends reads)
  obtain ⟨c, others, rfl⟩ := List.exists_cons_of_ne_nil isDigits.1
  have digit : c.isDigit = true := by
    have all := isDigits.2
    rw [List.all_cons, Bool.and_eq_true] at all
    exact all.1
  obtain ⟨notBlank, notSlash⟩ := begins_digit digit
  rw [List.cons_append] at number
  rw [text]
  cases negative with
  | false =>
      simp only [Bool.false_eq_true, if_false, List.nil_append, List.cons_append]
      rw [readTokens]
      simp [notBlank, notSlash, digit, number]
  | true =>
      simp only [if_true, List.cons_append, List.nil_append]
      rw [readTokens]
      simp [isTokenBlank, digit, number]

theorem shownIn_ne_nil (quote c : Char) : shownIn quote c ≠ [] := by
  rw [shownIn]
  split <;> simp

theorem spelled_text {text : String} (line : '\n' ∉ text.toList) (afterOperand : Bool) :
    (Token.text text).Spelled afterOperand
      ('"' :: text.toList.flatMap (shownIn '"') ++ ['"']) := by
  intro fuel rest ends
  have closes : rest.head? ≠ some '"' := fun same => by cases ends _ same
  have enough : text.toList.length <
      (text.toList.flatMap (shownIn '"') ++ '"' :: rest).length + 1 := by
    have shown := length_le_flatMap text.toList fun c _ => shownIn_ne_nil '"' c
    rw [List.length_append]
    omega
  have reads := quotedText?_shownIn line enough closes
  simp only [List.cons_append, List.append_assoc, List.nil_append]
  rw [readTokens, reads]
  simp [isTokenBlank, isNameStart]

theorem Token.Spelled.ne_nil {token : Token} {afterOperand : Bool} {text : List Char}
    (spelled : token.Spelled afterOperand text) : text ≠ [] := by
  rintro rfl
  have read := spelled 1 [] (by simp [EndsToken])
  cases read

/-- Three tokens with blanks between them. -/
theorem tokens?_spaced {first second third : Token} {one two three : List Char}
    (firstIs : first.Spelled false one) (secondIs : second.Spelled first.endsOperand two)
    (thirdIs : third.Spelled second.endsOperand three) :
    tokens? (one ++ ' ' :: (two ++ ' ' :: three)) = some [first, second, third] := by
  have blank : ∀ rest, EndsToken (' ' :: rest) := fun rest c same => (Option.some.inj same).symm
  have oneLong := List.length_pos_iff.2 firstIs.ne_nil
  have twoLong := List.length_pos_iff.2 secondIs.ne_nil
  have threeLong := List.length_pos_iff.2 thirdIs.ne_nil
  obtain ⟨fuel, enough⟩ : ∃ fuel,
      (one ++ ' ' :: (two ++ ' ' :: three)).length + 1 = fuel + 6 := by
    refine ⟨(one ++ ' ' :: (two ++ ' ' :: three)).length - 5, ?_⟩
    simp only [List.length_append, List.length_cons]
    omega
  rw [tokens?, enough, firstIs _ _ (blank _), readTokens_blank, secondIs _ _ (blank _),
    readTokens_blank, ← List.append_nil three, thirdIs _ _ (by simp [EndsToken])]
  rfl

theorem parseUnary_of_root {depth : Nat} {token : Token} {rest : List Token} {e : Expr}
    (noUnary : token.unary? = none)
    (root : ∀ fuel, parseRoot (fuel + 1) depth (token :: rest) = some (e, rest))
    (noLink : ∀ fuel, parseLinks (fuel + 1) depth e [] rest = some (e, rest)) (fuel : Nat) :
    parseUnary (fuel + 3) depth (token :: rest) = some (e, rest) := by
  simp only [parseUnary, noUnary, parseChain, root fuel, Option.bind_eq_bind, Option.bind_some,
    noLink fuel]

/-- A variable, an operator and a constant. -/
theorem parseExpr_binary {name : String} (legal : isVariableName name = true)
    (op : BinaryOperator) {token : Token} {value : Datum} (noUnary : token.unary? = none)
    (constant : ∀ fuel depth, parseRoot (fuel + 1) depth [token] = some (.constant value, []))
    (fuel depth : Nat) :
    parseExpr (fuel + 6) (depth + 2) [.name name, .operator op, token] =
      some (.binary op (.reference name) (.constant value), []) := by
  have noFunction := noFunction_of_legal legal
  have left : ∀ fuel depth, parseUnary (fuel + 3) depth [.name name, .operator op, token] =
      some (.reference name, [.operator op, token]) := by
    refine fun fuel depth => parseUnary_of_root rfl (fun fuel => ?_) (fun fuel => ?_) fuel
    · simp only [parseRoot, after?, noFunction, Bool.false_eq_true, if_false]
    · simp [parseLinks, Expr.ofChain]
  have right : ∀ fuel depth, parseUnary (fuel + 3) depth [token] = some (.constant value, []) :=
    fun fuel depth => parseUnary_of_root noUnary (constant · depth)
      (fun fuel => by simp [parseLinks, Expr.ofChain]) fuel
  have tight : 1 < (Token.operator op).tightness := by
    cases op <;> decide
  have notLoose : ¬(Token.operator op).tightness < 1 := by omega
  have notEqual : (Token.operator op).tightness ≠ 1 := by omega
  rw [parseExpr]
  simp only [left (fuel + 2), Option.bind_eq_bind, Option.bind_some]
  rw [parseBinary]
  simp only [notLoose, notEqual, decide_false, Bool.false_and, Bool.or_self, Bool.false_eq_true,
    if_false, right (fuel + 1), Option.bind_eq_bind, Option.bind_some, tightnessOf, List.head?_nil]
  simp [operation?, parseBinary]

/-- A source whose tokens are parsed within a little fuel and depth. -/
theorem compilePlain?_of_parse {source : List Char} {tokens : List Token} {tree : Expr}
    (reads : tokens? source = some tokens)
    (parses : ∀ fuel depth, parseExpr (fuel + 8) (depth + 2) tokens = some (tree, [])) :
    compilePlain? source = some tree.fold := by
  rw [compilePlain?, parse?, reads]
  dsimp only
  rw [show depthMax = 62 + 2 from rfl, parses]
  rfl

theorem compile?_name {name : String} (legal : isVariableName name = true) :
    compile? name = some (.reference name) := by
  have plain : plainSource name.toList = name.toList := by
    simpa [plainSource] using plainSource_append (isPlain_of_legal legal) []
  have tokens : tokens? name.toList = some [.name name] := by
    obtain ⟨c, others, text, _⟩ := head_of_legal legal
    have read := @readTokens_name name legal name.toList.length false [] (by simp)
    rw [List.append_nil] at read
    rw [tokens?, read, text]
    rfl
  have root : ∀ fuel depth, parseUnary (fuel + 3) depth [.name name] =
      some (.reference name, []) := by
    refine fun fuel depth => parseUnary_of_root rfl (fun fuel => ?_) (fun fuel => ?_) fuel
    · simp only [parseRoot, after?, noFunction_of_legal legal, Bool.false_eq_true, if_false]
    · simp [parseLinks, Expr.ofChain]
  rw [compile?, plain]
  show compilePlain? name.toList = some (Expr.reference name).fold
  refine compilePlain?_of_parse tokens fun fuel depth => ?_
  simp [parseExpr, root, parseBinary]

end Script

end Sluice
