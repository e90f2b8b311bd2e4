/-!
# UTF-8

Texts as bytes.  A character takes one to four bytes; decoding accepts exactly the shortest form of
each character and reports where the first sequence begins that is none.
-/

set_option autoImplicit false

namespace Sluice

abbrev Bytes := List UInt8

namespace Utf8

/-- The byte that follows a leading one: six bits of the code point. -/
def tailByte (n : Nat) : UInt8 := UInt8.ofNat (128 + n % 64)

def encodeChar (c : Char) : Bytes :=
  let n := c.toNat
  if n < 0x80 then [UInt8.ofNat n]
  else if n < 0x800 then [UInt8.ofNat (0xC0 + n / 64), tailByte n]
  else if n < 0x10000 then [UInt8.ofNat (0xE0 + n / 4096), tailByte (n / 64), tailByte n]
  else
    [UInt8.ofNat (0xF0 + n / 262144), tailByte (n / 4096), tailByte (n / 64), tailByte n]

def encode (text : List Char) : Bytes := text.flatMap encodeChar

/-- The six bits of a byte that follows a leading one. -/
def tailBits? (b : UInt8) : Option Nat :=
  if 128 ≤ b.toNat ∧ b.toNat < 192 then some (b.toNat - 128) else none

/-- A code point that needs the length at which it was read. -/
def charFrom? (least n : Nat) : Option Char :=
  if least ≤ n ∧ n.isValidChar then some (Char.ofNat n) else none

/-- The character at the front of the bytes, and the bytes after it. -/
def decodeChar? : Bytes → Option (Char × Bytes)
  | [] => none
  | a :: rest =>
    let lead := a.toNat
    if lead < 0x80 then some (Char.ofNat lead, rest)
    else if lead < 0xC0 then none
    else if lead < 0xE0 then
      match rest with
      | b :: rest => do
        let b ← tailBits? b
        let c ← charFrom? 0x80 ((lead - 0xC0) * 64 + b)
        some (c, rest)
      | _ => none
    else if lead < 0xF0 then
      match rest with
      | b :: c :: rest => do
        let b ← tailBits? b
        let c ← tailBits? c
        let d ← charFrom? 0x800 ((lead - 0xE0) * 4096 + b * 64 + c)
        some (d, rest)
      | _ => none
    else if lead < 0xF8 then
      match rest with
      | b :: c :: d :: rest => do
        let b ← tailBits? b
        let c ← tailBits? c
        let d ← tailBits? d
        let e ← charFrom? 0x10000 ((lead - 0xF0) * 262144 + b * 4096 + c * 64 + d)
        some (e, rest)
      | _ => none
    else none

/-- Characters from the front as far as the bytes are well formed, and what is left. -/
def decodeRun : Nat → Bytes → List Char × Bytes
  | 0, bytes => ([], bytes)
  | fuel + 1, bytes =>
    match decodeChar? bytes with
    | none => ([], bytes)
    | some (c, rest) =>
      let (text, left) := decodeRun fuel rest
      (c :: text, left)

/-- The text of the bytes, or the number of bytes before the first malformed sequence. -/
def decode (bytes : Bytes) : Except Nat (List Char) :=
  match decodeRun bytes.length bytes with
  | (text, []) => .ok text
  | (_, left) => .error (bytes.length - left.length)

def decode? (bytes : Bytes) : Option (List Char) := (decode bytes).toOption

def size : List Char → Nat
  | [] => 0
  | c :: rest => (encodeChar c).length + size rest

end Utf8

end Sluice
