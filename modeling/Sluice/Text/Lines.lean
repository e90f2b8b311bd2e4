import Sluice.Flow.Entry
import Sluice.Text.Blank

/-!
# Lines

The lines that a reader delivers.  A line ends with a line feed, which a carriage return may
precede; what follows the last line feed is a line if it is not empty and the reader got to the end.
A line that is no text is a fault of its own and does not hide the lines after it.
-/

set_option autoImplicit false

namespace Sluice

/-- The pieces between line feeds, and what follows the last one. -/
def splitLines : Bytes → List Bytes × Bytes
  | [] => ([], [])
  | b :: rest =>
    let (lines, last) := splitLines rest
    if b = 10 then ([] :: lines, last)
    else
      match lines with
      | [] => ([], b :: last)
      | line :: more => ((b :: line) :: more, last)

def dropReturnByte (line : Bytes) : Bytes :=
  if line.getLast? = some 13 then line.dropLast else line

def decodeLine (line : Bytes) : Except StreamFault (List Char) :=
  match Utf8.decode? line with
  | some text => .ok text
  | none => .error .notUtf8

namespace Delivery

/-- The lines that were delivered in full. -/
def lines (delivery : Delivery) : List (Except StreamFault (List Char)) :=
  let (lines, last) := splitLines delivery.bytes
  let whole := lines.map fun line => decodeLine (dropReturnByte line)
  if last.isEmpty || delivery.fault.isSome then whole else whole ++ [decodeLine last]

end Delivery

namespace TextCut

/-- The text behind a number of bytes, if the cut falls between characters. -/
def dropBytes? : List Char → Nat → Option (List Char)
  | text, 0 => some text
  | [], _ + 1 => none
  | c :: rest, n + 1 =>
    let size := (Utf8.encodeChar c).length
    if size ≤ n + 1 then dropBytes? rest (n + 1 - size) else none

/-- The text in front of a number of bytes, if the cut falls between characters. -/
def takeBytes? : List Char → Nat → Option (List Char)
  | _, 0 => some []
  | [], _ + 1 => none
  | c :: rest, n + 1 =>
    let size := (Utf8.encodeChar c).length
    if size ≤ n + 1 then (takeBytes? rest (n + 1 - size)).map (c :: ·) else none

def bytes? (text : List Char) (start stop : Nat) : Option (List Char) :=
  if stop < start then none else (dropBytes? text start).bind (takeBytes? · (stop - start))

end TextCut

end Sluice
