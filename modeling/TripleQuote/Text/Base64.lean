import TripleQuote.Text.Basic

/-! # Base 64

Bytes written in letters of six bits each. Reading skips whatever is no letter, and ends at
complete padding. -/

namespace TripleQuote.Base64

/-- The letters in the order of their values. -/
def letters : Text := "ABCDEFGHIJKLMNOPQRSTUVWXYZabcdefghijklmnopqrstuvwxyz0123456789+/"

def letterValue? (c : Char) : Option Nat := letters.idxOf? c

/-- The bytes of a text. `count` letters of the current group of four have been read; `bits` is
the value of those of their bits that belong to no byte yet, and `pads` counts the padding since
the last letter. -/
def decodeFrom (count bits pads : Nat) : Text → Option (List UInt8)
  | [] => if count = 0 then some [] else none
  | c :: rest =>
    if c = '=' then
      if 2 ≤ count then
        if 4 ≤ count + pads + 1 then some [] else decodeFrom count bits (pads + 1) rest
      else decodeFrom count bits pads rest
    else match letterValue? c with
      | none => decodeFrom count bits pads rest
      | some n =>
        match count with
        | 0 => decodeFrom 1 n 0 rest
        | 1 => (decodeFrom 2 (n % 16) 0 rest).map (UInt8.ofNat (bits * 4 + n / 16) :: ·)
        | 2 => (decodeFrom 3 (n % 4) 0 rest).map (UInt8.ofNat (bits * 16 + n / 4) :: ·)
        | _ => (decodeFrom 0 0 0 rest).map (UInt8.ofNat (bits * 64 + n) :: ·)

/-- The bytes of a text, if its last group is complete. -/
def decode (t : Text) : Option (List UInt8) := decodeFrom 0 0 0 t

end TripleQuote.Base64
