import TripleQuote.Text.Basic

/-! # UTF-8

Writing code points as UTF-8, and reading UTF-8 strictly: an ill-formed sequence is refused with
the place and the length of the part that was well formed so far. -/

namespace TripleQuote.Utf8

inductive Reason where
  | startByte
  | continuationByte
  | endOfData
deriving DecidableEq, Repr

/-- The first ill-formed sequence of a byte string: its first byte, where it starts, and how many
bytes of it were read. -/
structure Fault where
  byte : UInt8
  start : Nat
  length : Nat
  reason : Reason
deriving DecidableEq, Repr

/-- A byte that continues a character. -/
def isTail (b : UInt8) : Bool := 0x80 ≤ b.toNat && b.toNat ≤ 0xBF

/-- How the character that starts with a byte goes on: the number of bytes after the first, the
bits that the first one gives, and the range of the second. -/
def lead? (b : UInt8) : Option (Nat × Nat × Nat × Nat) :=
  let n := b.toNat
  if n < 0x80 then some (0, n, 0x80, 0xBF)
  else if 0xC2 ≤ n && n ≤ 0xDF then some (1, n - 0xC0, 0x80, 0xBF)
  else if n = 0xE0 then some (2, 0, 0xA0, 0xBF)
  else if n = 0xED then some (2, 0xD, 0x80, 0x9F)
  else if 0xE1 ≤ n && n ≤ 0xEF then some (2, n - 0xE0, 0x80, 0xBF)
  else if n = 0xF0 then some (3, 0, 0x90, 0xBF)
  else if n = 0xF4 then some (3, 4, 0x80, 0x8F)
  else if 0xF1 ≤ n && n ≤ 0xF3 then some (3, n - 0xF0, 0x80, 0xBF)
  else none

/-- The code point of a character with `owed` bytes to come, the next of them between `low` and
`high`. `read` counts the bytes so far. A failure says how many were read and why no more. -/
def tail : (owed code low high read : Nat) → List UInt8 → Except (Nat × Reason) Nat
  | 0, code, _, _, _, _ => .ok code
  | _ + 1, _, _, _, read, [] => .error (read, .endOfData)
  | owed + 1, code, low, high, read, b :: rest =>
    if low ≤ b.toNat && b.toNat ≤ high then
      tail owed (code * 64 + (b.toNat - 0x80)) 0x80 0xBF (read + 1) rest
    else .error (read, .continuationByte)

/-- The text of bytes from position `pos` on, of which the first `skip` belong to a character
that was read before. -/
def decodeFrom : (pos skip : Nat) → List UInt8 → Except Fault Text
  | _, _, [] => .ok []
  | pos, skip + 1, _ :: rest => decodeFrom (pos + 1) skip rest
  | pos, 0, b :: rest =>
    match lead? b with
    | none => .error ⟨b, pos, 1, .startByte⟩
    | some (owed, code, low, high) =>
      match tail owed code low high 1 rest with
      | .error (length, reason) => .error ⟨b, pos, length, reason⟩
      | .ok code => do return Char.ofNat code :: (← decodeFrom (pos + 1) owed rest)

/-- The text that the bytes spell, or the first place where they spell none. -/
def decode (bytes : List UInt8) : Except Fault Text := decodeFrom 0 0 bytes

/-- The bytes of a character. -/
def encodeChar (c : Char) : List UInt8 :=
  let n := c.toNat
  let more (k : Nat) : UInt8 := UInt8.ofNat (0x80 + n / Nat.pow 64 k % 64)
  if n < 0x80 then [UInt8.ofNat n]
  else if n < 0x800 then [UInt8.ofNat (0xC0 + n / 64), more 0]
  else if n < 0x10000 then [UInt8.ofNat (0xE0 + n / 4096), more 1, more 0]
  else [UInt8.ofNat (0xF0 + n / 262144), more 2, more 1, more 0]

/-- The bytes of a text. -/
def encode (t : Text) : List UInt8 := t.flatMap encodeChar

/-- The explanation that error messages give. -/
def Reason.message : Reason → Text
  | .startByte => "invalid start byte"
  | .continuationByte => "invalid continuation byte"
  | .endOfData => "unexpected end of data"

/-- One byte is shown with its value, several are shown as a range of positions. -/
def Fault.message (f : Fault) : Text :=
  let place : Text :=
    if f.length = 1 then
      "byte 0x" ++ Text.hex 2 f.byte.toNat ++ " in position " ++ Text.ofNat f.start
    else
      "bytes in position " ++ Text.ofNat f.start ++ "-" ++ Text.ofNat (f.start + f.length - 1)
  "'utf-8' codec can't decode " ++ place ++ ": " ++ f.reason.message

end TripleQuote.Utf8
