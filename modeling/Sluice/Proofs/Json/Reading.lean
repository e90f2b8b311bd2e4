import Sluice.Json.Reading
import Sluice.Proofs.Number.Reading
import Sluice.Proofs.Text.Utf8

/-!
# Written JSON is read back

A text comes back out of its quotes, a 64-bit integer out of its digits, and the members of an
object one after the other, whatever follows them.
-/

set_option autoImplicit false

namespace Sluice

namespace Json

/-! ## Texts -/

theorem hexValue?_hexDigitChar {n : Nat} (small : n < 16) :
    hexValue? (hexDigitChar n) = some n := by
  revert small
  revert n
  decide

/-- A control character is read from its number. -/
theorem escape?_number {c : Char} (control : c.toNat < 0x20) (rest : List Char) :
    escape? ('u' :: '0' :: '0' :: hexDigitChar (c.toNat / 16) :: hexDigitChar c.toNat :: rest) =
      some (c, rest) := by
  have zero : hexValue? '0' = some 0 := by decide
  have high : hexValue? (hexDigitChar (c.toNat / 16)) = some (c.toNat / 16) :=
    hexValue?_hexDigitChar (by omega)
  have low : hexValue? (hexDigitChar c.toNat) = some (c.toNat % 16) := by
    have cut : hexDigitChar c.toNat = hexDigitChar (c.toNat % 16) := by simp [hexDigitChar]
    rw [cut]
    exact hexValue?_hexDigitChar (Nat.mod_lt _ (by decide))
  have whole : c.toNat / 16 * 16 + c.toNat % 16 = c.toNat := by omega
  have notLow : ¬ (0xDC00 ≤ c.toNat ∧ c.toNat ≤ 0xDFFF) := by omega
  have notHigh : ¬ (0xD800 ≤ c.toNat ∧ c.toNat ≤ 0xDBFF) := by omega
  simp [escape?, unicodeEscape?, hexUnit?, zero, high, low, whole, notLow, notHigh]

/-- A character stands for itself, or an escape is written that is read as the character. -/
theorem escapeChar_cases (c : Char) :
    (escapeChar c = [c] ∧ c ≠ '"' ∧ c ≠ '\\' ∧ ¬ c.toNat < 0x20) ∨
      ∃ body, escapeChar c = '\\' :: body ∧ ∀ rest, escape? (body ++ rest) = some (c, rest) := by
  by_cases quote : c = '"'
  · subst quote
    exact .inr ⟨['"'], rfl, fun rest => rfl⟩
  by_cases slash : c = '\\'
  · subst slash
    exact .inr ⟨['\\'], rfl, fun rest => rfl⟩
  by_cases plain : 0x20 ≤ c.toNat
  · exact .inl ⟨by simp [escapeChar, quote, slash, plain], quote, slash, by omega⟩
  by_cases feed : c = '\n'
  · subst feed
    exact .inr ⟨['n'], rfl, fun rest => rfl⟩
  by_cases carriage : c = '\r'
  · subst carriage
    exact .inr ⟨['r'], rfl, fun rest => rfl⟩
  by_cases tab : c = '\t'
  · subst tab
    exact .inr ⟨['t'], rfl, fun rest => rfl⟩
  by_cases back : c.toNat = 0x8
  · obtain rfl : c = '\x08' := Char.toNat_inj.1 back
    exact .inr ⟨['b'], rfl, fun rest => rfl⟩
  by_cases page : c.toNat = 0xC
  · obtain rfl : c = '\x0c' := Char.toNat_inj.1 page
    exact .inr ⟨['f'], rfl, fun rest => rfl⟩
  refine .inr ⟨['u', '0', '0', hexDigitChar (c.toNat / 16), hexDigitChar c.toNat], ?_, ?_⟩
  · simp [escapeChar, quote, slash, plain, feed, carriage, tab, back, page]
  · intro rest
    exact escape?_number (by omega) rest

theorem readQuoted_escapeChar (c : Char) (fuel : Nat) (rest : List Char) :
    readQuoted (fuel + 1) (escapeChar c ++ rest) =
      (readQuoted fuel rest).map fun found => (c :: found.1, found.2) := by
  have goesOn : ((some (c, rest)).bind fun first => (readQuoted fuel first.2).bind fun found =>
      some (first.1 :: found.1, found.2)) =
        (readQuoted fuel rest).map fun found => (c :: found.1, found.2) := by
    rw [Option.bind_some]
    cases readQuoted fuel rest <;> rfl
  rcases escapeChar_cases c with ⟨itself, notQuote, notSlash, notControl⟩ | ⟨body, escaped, reads⟩
  · rw [itself, List.singleton_append, readQuoted, if_neg notQuote, if_neg notControl,
      if_neg notSlash]
    exact goesOn
  · rw [escaped, List.cons_append, readQuoted, if_neg (by decide), if_neg (by decide),
      if_pos rfl, reads]
    exact goesOn

theorem readQuoted_escaped (text rest : List Char) {fuel : Nat} (enough : text.length < fuel) :
    readQuoted fuel (text.flatMap escapeChar ++ '"' :: rest) = some (text, rest) := by
  induction text generalizing fuel with
  | nil =>
      cases fuel with
      | zero => cases enough
      | succ fuel => simp [readQuoted]
  | cons c others ih =>
      cases fuel with
      | zero => cases enough
      | succ fuel =>
          have shorter : others.length < fuel := Nat.lt_of_succ_lt_succ enough
          rw [List.flatMap_cons, List.append_assoc, readQuoted_escapeChar, ih shorter]
          rfl

theorem escapeChar_ne_nil (c : Char) : escapeChar c ≠ [] := by
  rcases escapeChar_cases c with ⟨itself, _⟩ | ⟨body, escaped, _⟩
  · simp [itself]
  · simp [escaped]

/-- A quoted text is read with the fuel that the reader of values gives. -/
theorem readQuoted_quote (text : String) (rest : List Char) :
    quote text ++ rest = '"' :: (text.toList.flatMap escapeChar ++ '"' :: rest) ∧
      readQuoted ((text.toList.flatMap escapeChar ++ '"' :: rest).length + 1)
        (text.toList.flatMap escapeChar ++ '"' :: rest) = some (text.toList, rest) := by
  refine ⟨by simp [quote, quoteChars], readQuoted_escaped _ _ ?_⟩
  have longer := length_le_flatMap text.toList fun c _ => escapeChar_ne_nil c
  rw [List.length_append, List.length_cons]
  omega

/-! ## Integers -/

def EndsNumber (rest : List Char) : Prop :=
  ∃ c others, rest = c :: others ∧ digitValue? c = none ∧ c ≠ '.' ∧ c ≠ 'e' ∧ c ≠ 'E'

theorem takeDigits_digit {digit : Nat} (small : digit < 10) {significand : Nat} (exponent : Int)
    (fits : 10 * significand + digit ≤ significandMax) (rest : List Char) :
    takeDigits 0 (Nat.digitChar digit :: rest) significand exponent =
      takeDigits 0 rest (10 * significand + digit) exponent := by
  simp [takeDigits, digitValue?_digitChar small, fits]

theorem takeDigits_toDigits (n : Nat) (fits : n ≤ significandMax) (rest : List Char) :
    takeDigits 0 (Nat.toDigits 10 n ++ rest) 0 0 = takeDigits 0 rest n 0 := by
  induction n using Nat.strongRecOn generalizing rest with
  | ind n ih =>
      by_cases small : n < 10
      · rw [Nat.toDigits_of_lt_base small, List.singleton_append,
          takeDigits_digit small 0 (by omega)]
        simp
      · have smaller : n / 10 < n := by omega
        have last : n % 10 < 10 := Nat.mod_lt _ (by decide)
        have whole : 10 * (n / 10) + n % 10 = n := by omega
        rw [Nat.toDigits_of_base_le (by decide) (by omega), List.append_assoc,
          ih _ smaller (by omega), List.singleton_append,
          takeDigits_digit last 0 (by omega), whole]

/-- The digits of a positive number do not begin with a zero. -/
theorem head_toDigits_pos {n : Nat} (positive : 0 < n) :
    ∃ digit rest, 0 < digit ∧ digit < 10 ∧
      Nat.toDigits 10 n = Nat.digitChar digit :: rest := by
  induction n using Nat.strongRecOn with
  | ind n ih =>
      by_cases small : n < 10
      · exact ⟨n, [], positive, small, Nat.toDigits_of_lt_base small⟩
      · have smaller : n / 10 < n := by omega
        obtain ⟨digit, rest, nonzero, isDigit, first⟩ := ih (n / 10) smaller (by omega)
        refine ⟨digit, rest ++ [Nat.digitChar (n % 10)], nonzero, isDigit, ?_⟩
        rw [Nat.toDigits_of_base_le (by decide) (by omega), first, List.cons_append]

theorem readNumberTail_whole {rest : List Char} (ends : EndsNumber rest) (negative : Bool)
    (significand : Nat)
    (fits : negative = true → 0 < significand ∧ significand ≤ 9223372036854775808) :
    readNumberTail negative ⟨significand, 0, rest⟩ =
      some (.int (signed negative significand), rest) := by
  obtain ⟨c, others, rfl, notDigit, notPoint, notSmall, notLarge⟩ := ends
  cases negative with
  | false => simp [readNumberTail, notPoint, notSmall, notLarge, signed]
  | true =>
      obtain ⟨positive, bounded⟩ := fits rfl
      have nonzero : significand ≠ 0 := by omega
      have inRange : ¬ 9223372036854775808 < significand := by omega
      simp [readNumberTail, notPoint, notSmall, notLarge, signed, nonzero, inRange]

theorem readUnsigned_toDigits {rest : List Char} (ends : EndsNumber rest) (negative : Bool)
    (n : Nat) (bounded : n ≤ significandMax)
    (fits : negative = true → 0 < n ∧ n ≤ 9223372036854775808) :
    readUnsigned negative (Nat.toDigits 10 n ++ rest) = some (.int (signed negative n), rest) := by
  have tail := readNumberTail_whole ends negative n fits
  obtain ⟨c, others, rfl, notDigit, _⟩ := ends
  by_cases zero : n = 0
  · subst zero
    have digit : digitValue? '0' = some 0 := by decide
    simpa [readUnsigned, digit, notDigit] using tail
  · obtain ⟨digit, digits, nonzero, isDigit, first⟩ := head_toDigits_pos (Nat.pos_of_ne_zero zero)
    have taken := takeDigits_toDigits n bounded (c :: others)
    have stops : takeDigits 0 (c :: others) n 0 = ⟨n, 0, c :: others⟩ := by
      simp [takeDigits, notDigit]
    have none : countDigits (c :: others) = (0, c :: others) := by
      simp [countDigits, spanDigits, notDigit]
    rw [stops] at taken
    rw [first, List.cons_append] at taken ⊢
    obtain ⟨less, rfl⟩ := Nat.exists_eq_succ_of_ne_zero (Nat.ne_of_gt nonzero)
    unfold readUnsigned
    simp only [digitValue?_digitChar isDigit, taken, none]
    exact tail

theorem readNumber_int (n : Int64) {rest : List Char} (ends : EndsNumber rest) :
    readNumber ((toString n.toInt).toList ++ rest) = some (.int n.toInt, rest) := by
  have least := n.le_toInt
  have greatest := n.toInt_lt
  cases value : n.toInt with
  | ofNat magnitude =>
      have digits : (toString (Int.ofNat magnitude)).toList = Nat.toDigits 10 magnitude :=
        Nat.toList_repr
      have bounded : magnitude ≤ significandMax := by
        have below : (magnitude : Int) < 9223372036854775808 := by
          rw [value] at greatest
          exact greatest
        simp only [significandMax]
        omega
      have unsigned := readUnsigned_toDigits ends false magnitude bounded (by simp)
      obtain ⟨digit, others, small, first⟩ := head_toDigits magnitude
      obtain ⟨notMinus, _⟩ := digitChar_ne_sign small
      rw [digits]
      rw [first, List.cons_append] at unsigned ⊢
      rw [readNumber]
      · exact unsigned
      · intro others same
        exact notMinus (List.cons.inj same).1
  | negSucc magnitude =>
      have digits : (toString (Int.negSucc magnitude)).toList =
          '-' :: Nat.toDigits 10 (magnitude + 1) := by
        simp [Int.toString_eq_repr, Int.repr]
      have range : 0 < magnitude + 1 ∧ magnitude + 1 ≤ 9223372036854775808 := by
        rw [value] at least
        omega
      have unsigned := readUnsigned_toDigits ends true (magnitude + 1)
        (by simp only [significandMax]; omega) (fun _ => range)
      rw [digits, List.cons_append, readNumber, unsigned]
      rfl

/-! ## Members -/

inductive IsScalar : Json → Prop where
  | null : IsScalar .null
  | bool (truth : Bool) : IsScalar (.bool truth)
  | int (number : Int64) : IsScalar (.int number.toInt)
  | text (text : String) : IsScalar (.text text)

def EndsMember (rest : List Char) : Prop := ∃ others, rest = ',' :: others ∨ rest = '\x7d' :: others

theorem EndsMember.endsNumber {rest : List Char} (ends : EndsMember rest) : EndsNumber rest := by
  obtain ⟨others, rfl | rfl⟩ := ends
  · exact ⟨',', others, rfl, by decide⟩
  · exact ⟨'\x7d', others, rfl, by decide⟩

def BeginsNumber (c : Char) : Prop := c = '-' ∨ ∃ digit < 10, c = Nat.digitChar digit

theorem readValue_number {c : Char} (begins : BeginsNumber c) (rest : List Char)
    (fuel depth : Nat) :
    readValue (fuel + 1) depth (c :: rest) = readNumber (c :: rest) := by
  have other : isJsonBlank c = false ∧ c ≠ '"' ∧ c ≠ 'n' ∧ c ≠ 't' ∧ c ≠ 'f' ∧ c ≠ '[' ∧
      c ≠ '\x7b' := by
    rcases begins with rfl | ⟨digit, small, rfl⟩
    · decide
    · revert small
      revert digit
      decide
  obtain ⟨notBlank, notQuote, notNull, notTrue, notFalse, notList, notObject⟩ := other
  have kept : skipBlanks (c :: rest) = c :: rest := by simp [skipBlanks, notBlank]
  rw [readValue, kept]
  simp [notQuote, notNull, notTrue, notFalse, notList, notObject]

theorem head_intText (n : Int64) :
    ∃ c rest, (toString n.toInt).toList = c :: rest ∧ BeginsNumber c := by
  cases n.toInt with
  | ofNat magnitude =>
      obtain ⟨digit, others, small, first⟩ := head_toDigits magnitude
      exact ⟨_, others, Nat.toList_repr.trans first, .inr ⟨digit, small, rfl⟩⟩
  | negSucc magnitude =>
      refine ⟨'-', Nat.toDigits 10 (magnitude + 1), ?_, .inl rfl⟩
      simp [Int.toString_eq_repr, Int.repr]

theorem readValue_scalar {json : Json} (scalar : IsScalar json) {rest : List Char}
    (ends : EndsMember rest) (fuel depth : Nat) :
    readValue (fuel + 1) depth (json.chars ++ rest) = some (json, rest) := by
  cases scalar with
  | null => rfl
  | bool truth => cases truth <;> rfl
  | int number =>
      have reads := readNumber_int number ends.endsNumber
      obtain ⟨c, others, text, begins⟩ := head_intText number
      rw [text, List.cons_append] at reads
      rw [chars, text, List.cons_append, readValue_number begins, reads]
  | text text =>
      obtain ⟨quoted, reads⟩ := readQuoted_quote text rest
      have kept : ∀ behind, skipBlanks ('"' :: behind) = '"' :: behind := fun behind => rfl
      rw [chars, quoted, readValue, kept]
      simp only [if_true, reads, Option.map_some, String.ofList_toList]

theorem skipBlanks_cons {c : Char} (notBlank : isJsonBlank c = false) (rest : List Char) :
    skipBlanks (c :: rest) = c :: rest := by
  simp [skipBlanks, notBlank]

def readFurther (fuel depth : Nat) (member : String × Json) :
    List Char → Option (Members × List Char)
  | ',' :: rest => (readMembers fuel depth rest).map fun found => (member :: found.1, found.2)
  | '\x7d' :: rest => some ([member], rest)
  | _ => none

theorem readMembers_member (name : String) {value : Json} (scalar : IsScalar value)
    {behind : List Char} (ends : EndsMember behind) (fuel depth : Nat) :
    readMembers (fuel + 2) depth (quote name ++ ':' :: (value.chars ++ behind)) =
      readFurther (fuel + 1) depth (name, value) behind := by
  obtain ⟨quoted, reads⟩ := readQuoted_quote name (':' :: (value.chars ++ behind))
  have valueRead := readValue_scalar scalar ends fuel depth
  have quoteKept := fun rest => skipBlanks_cons (c := '"') (by decide) rest
  have colonKept := fun rest => skipBlanks_cons (c := ':') (by decide) rest
  rw [quoted, readMembers, quoteKept]
  simp only [reads, colonKept, valueRead, Option.bind_eq_bind, Option.bind_some,
    String.ofList_toList]
  obtain ⟨rest, rfl | rfl⟩ := ends
  · rw [skipBlanks_cons (by decide)]
    simp only [readFurther]
    cases readMembers (fuel + 1) depth rest <;> rfl
  · rw [skipBlanks_cons (by decide)]
    rfl

theorem memberChars_pair (member next : String × Json) (later : Members) :
    memberChars (member :: next :: later) =
      quote member.1 ++ ':' :: (member.2.chars ++ ',' :: memberChars (next :: later)) := by
  rw [memberChars]
  · simp
  · simp

theorem readMembers_memberChars (members : Members) (nonempty : members ≠ [])
    (scalars : ∀ member ∈ members, IsScalar member.2) {fuel : Nat}
    (enough : members.length < fuel) (depth : Nat) (rest : List Char) :
    readMembers fuel depth (memberChars members ++ '\x7d' :: rest) = some (members, rest) := by
  induction members generalizing fuel with
  | nil => exact absurd rfl nonempty
  | cons member others ih =>
      have scalar : IsScalar member.2 := scalars member (List.mem_cons_self ..)
      obtain ⟨less, rfl⟩ : ∃ less, fuel = less + 2 := by
        refine ⟨fuel - 2, ?_⟩
        rw [List.length_cons] at enough
        omega
      cases others with
      | nil =>
          have ends : EndsMember ('\x7d' :: rest) := ⟨rest, .inr rfl⟩
          have reads := readMembers_member member.1 scalar ends less depth
          simpa [memberChars, readFurther] using reads
      | cons next later =>
          have ends : EndsMember (',' :: (memberChars (next :: later) ++ '\x7d' :: rest)) :=
            ⟨_, .inl rfl⟩
          have reads := readMembers_member member.1 scalar ends less depth
          have following : readMembers (less + 1) depth
              (memberChars (next :: later) ++ '\x7d' :: rest) = some (next :: later, rest) := by
            refine ih (by simp) ?_ (by simpa using enough)
            intro other listed
            exact scalars other (List.mem_cons_of_mem _ listed)
          rw [readFurther, following] at reads
          rw [memberChars_pair]
          simpa using reads

/-! ## Objects -/

theorem length_le_memberChars (members : Members) :
    members.length ≤ (memberChars members).length := by
  induction members with
  | nil => exact Nat.zero_le _
  | cons member others ih =>
      cases others with
      | nil => simp [memberChars, quote, quoteChars]
      | cons next later =>
          rw [memberChars_pair, List.length_cons]
          simp only [List.length_append, List.length_cons] at ih ⊢
          omega

theorem head_memberChars (member : String × Json) (others : Members) :
    ∃ rest, memberChars (member :: others) = '"' :: rest := by
  cases others with
  | nil => exact ⟨_, rfl⟩
  | cons next later => exact ⟨_, memberChars_pair member next later⟩

theorem readValue_object (fuel depth : Nat) (rest : List Char) :
    readValue (fuel + 1) (depth + 1) ('\x7b' :: '"' :: rest) =
      (readMembers fuel depth ('"' :: rest)).map fun found => (ofMembers found.1, found.2) := by
  rw [readValue, skipBlanks_cons (by decide)]
  simp only [skipBlanks_cons (show isJsonBlank '"' = false by decide)]
  rfl

/-- An object without nested parts is read back, its members sorted. -/
theorem read?_object (members : Members) (scalars : ∀ member ∈ members, IsScalar member.2) :
    read? (Json.object members).chars = some (ofMembers members) := by
  cases members with
  | nil => rfl
  | cons member others =>
      have text : (Json.object (member :: others)).chars =
          '\x7b' :: (memberChars (member :: others) ++ ['\x7d']) := by
        simp [chars]
      have enough : (member :: others).length <
          2 * ('\x7b' :: (memberChars (member :: others) ++ ['\x7d'])).length + 1 := by
        have longer := length_le_memberChars (member :: others)
        simp only [List.length_cons, List.length_append] at longer ⊢
        omega
      have reads := readMembers_memberChars (member :: others) (by simp) scalars enough
        (depthMax - 1) []
      obtain ⟨rest, first⟩ := head_memberChars member others
      rw [first, List.cons_append] at reads
      have object := readValue_object
        (2 * ('\x7b' :: '"' :: (rest ++ ['\x7d'])).length + 1) (depthMax - 1) (rest ++ ['\x7d'])
      rw [reads] at object
      rw [read?, text, first, List.cons_append]
      rw [show depthMax = depthMax - 1 + 1 from rfl, object]
      rfl

end Json

end Sluice
