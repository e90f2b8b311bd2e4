/-!
# Blanks

The blank characters of Unicode (the property White_Space), and texts without the blanks at their
ends.
-/

set_option autoImplicit false

namespace Sluice

/-- The code points of the property White_Space. -/
def isBlankCode (n : Nat) : Bool :=
  decide (n = 0x20 ∨ (0x9 ≤ n ∧ n ≤ 0xD) ∨ n = 0x85 ∨ n = 0xA0 ∨ n = 0x1680 ∨
    (0x2000 ≤ n ∧ n ≤ 0x200A) ∨ n = 0x2028 ∨ n = 0x2029 ∨ n = 0x202F ∨ n = 0x205F ∨ n = 0x3000)

def isBlank (c : Char) : Bool := isBlankCode c.toNat

/-- The characters between the first and the last that is no blank. -/
def trimChars (text : List Char) : List Char :=
  ((text.dropWhile isBlank).reverse.dropWhile isBlank).reverse

def trimText (text : String) : String := String.ofList (trimChars text.toList)

def isBlankText (text : String) : Bool := text.toList.all isBlank

end Sluice
