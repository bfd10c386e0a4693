import TripleQuote.Text.Basic

/-! # Line ends

A file may end its lines in LF, CR LF or CR; in memory every line ends in LF. -/

namespace TripleQuote.Text

/-- The text with each CR LF and each lone CR replaced by LF. -/
def normalizeLines : Text → Text
  | [] => []
  | '\r' :: '\n' :: rest => '\n' :: normalizeLines rest
  | '\r' :: rest => '\n' :: normalizeLines rest
  | c :: rest => c :: normalizeLines rest

theorem cr_notMem_normalizeLines (t : Text) : '\r' ∉ normalizeLines t := by
  fun_induction normalizeLines t with
  | case1 => simp
  | case2 rest ih => simpa using ih
  | case3 rest _ ih => simpa using ih
  | case4 c rest _ hc ih =>
    simp only [List.mem_cons, not_or]
    exact ⟨fun h => hc h.symm, ih⟩

end TripleQuote.Text
