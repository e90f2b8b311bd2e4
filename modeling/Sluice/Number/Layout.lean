import Sluice.Number.Shortest

/-!
# Writing numbers

A `NumberLayout` holds the decisions of a written form: which numbers keep the positional
notation, whether a whole number shows a fraction, the sign of exponents and of zero.  The digits
themselves are always the shortest that read back.  `plain` is the layout of field values, `json`
that of JSON text, `spoken` and `quoted` those of values inside expressions.
-/

set_option autoImplicit false

namespace Sluice

structure NumberLayout where
  /-- Numbers that are written without an exponent. -/
  positional : Binary64 → DecimalDigits → Bool
  /-- A whole number in positional notation ends in `.0`. -/
  showsFraction : Bool
  /-- A positive exponent carries a plus sign. -/
  signsExponent : Bool
  /-- A negative zero keeps its sign. -/
  signsZero : Bool

namespace NumberLayout

/-- Field values: never an exponent and never an empty fraction. -/
def plain : NumberLayout := ⟨fun _ _ => true, false, false, true⟩

/-- JSON text: an exponent below `10 ^ (-5)` and from `10 ^ 16` on. -/
def json : NumberLayout :=
  ⟨fun _ d => decide (-5 < d.point ∧ d.point ≤ 16), true, true, true⟩

/-- The numbers between which a spoken number has no exponent: the single-precision neighbours of
`10 ^ (-13)` and `10 ^ 13`. -/
def spokenRange : Binary64 × Binary64 := (⟨0x3D3C25C260000000⟩, ⟨0x42A2309CE0000000⟩)

/-- Text of a number that an expression turns into a string. -/
def spoken : NumberLayout :=
  ⟨fun x _ => Binary64.le spokenRange.1 x.abs && Binary64.le x.abs spokenRange.2,
    true, false, false⟩

/-- Text of a number inside a list or map that an expression turns into a string. -/
def quoted : NumberLayout :=
  ⟨fun _ d => decide (-4 < d.point ∧ d.point ≤ 16), true, false, true⟩

/-- Digits with the point set after `point` places. -/
def positionalText (digits : List Char) (point : Int) (showsFraction : Bool) : List Char :=
  if point ≤ 0 then
    ['0', '.'] ++ List.replicate (-point).toNat '0' ++ digits
  else if digits.length ≤ point.toNat then
    digits ++ List.replicate (point.toNat - digits.length) '0' ++
      (if showsFraction then ['.', '0'] else [])
  else
    digits.take point.toNat ++ '.' :: digits.drop point.toNat

/-- Digits with the point after the first one and the power of ten that remains. -/
def exponentText (digits : List Char) (point : Int) (signsExponent : Bool) : List Char :=
  let exponent := point - 1
  let sign := if exponent < 0 then ['-'] else if signsExponent then ['+'] else []
  let fraction := match digits.drop 1 with
    | [] => []
    | rest => '.' :: rest
  digits.take 1 ++ fraction ++ 'e' :: sign ++ Nat.toDigits 10 exponent.natAbs

def write (layout : NumberLayout) (x : Binary64) : String :=
  if x.isNaN then "NaN"
  else
    let sign := if x.isNegative then ['-'] else []
    if x.isInfinite then String.ofList (sign ++ "inf".toList)
    else
      match x.shortestDigits? with
      | none =>
        let zero := if layout.showsFraction then "0.0" else "0"
        if layout.signsZero then String.ofList (sign ++ zero.toList) else zero
      | some d =>
        let digits := DecimalDigits.digitChars d.digits
        String.ofList (sign ++
          if layout.positional x d then positionalText digits d.point layout.showsFraction
          else exponentText digits d.point layout.signsExponent)

end NumberLayout

/-- A number without a fraction: the nearest whole one, a tie going to the even one. -/
def Binary64.wholeText (x : Binary64) : String :=
  if x.isNaN then "NaN"
  else
    let sign := if x.isNegative then ['-'] else []
    String.ofList (sign ++
      if x.isInfinite then "inf".toList
      else Nat.toDigits 10 (roundQuotient x.units unitsPerOne))

end Sluice
