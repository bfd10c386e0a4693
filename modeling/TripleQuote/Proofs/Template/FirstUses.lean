import TripleQuote.Proofs.Expr.FreeNames
import TripleQuote.Proofs.Template.Names

/-! # First uses of names

The names of a template are those in the tokens of its interpolations
(`Template.names_are_first_uses`). -/

namespace TripleQuote.Template

variable {t : Template} {names : List Text}

/-- White space around the interpolations of a template makes no difference to its names. -/
theorem firstUses_of_identifiers (h : t.identifiers = .ok names) :
    FirstUses (t.segments.filterMap Segment.source?) names ∧
      FirstUses ((t.segments.filterMap Segment.source?).map Text.trim) names := by
  obtain ⟨found, hfound, rfl⟩ := identifiers_eq_ok_iff.mp h
  constructor
  · refine firstUses_of_parse (hfound.imp ?_)
    rintro source roots ⟨e, he, hroots⟩
    exact ⟨e, parse_of_trim he, hroots⟩
  · exact firstUses_of_parse (List.forall₂_map_left_iff.mpr hfound)

/-- The names that an expression reads are the identifiers among the tokens of its source that do
not come directly behind a dot, each at its first use. If a template has a list of names, they are
the same identifiers in its interpolations one after the other. -/
theorem names_are_first_uses :
    (∀ s e, Expr.parse s = .ok e →
      ∃ ts, tokens s = .ok ts ∧ e.roots = (Token.freeNames false ts).eraseDups) ∧
    ∀ (t : Template) names, t.identifiers = .ok names →
      FirstUses (t.segments.filterMap Segment.source?) names ∧
        FirstUses ((t.segments.filterMap Segment.source?).map Text.trim) names := by
  refine ⟨fun s e h => ?_, fun t names h => firstUses_of_identifiers h⟩
  obtain ⟨ts, hts⟩ := exists_tokens_of_parse h
  exact ⟨ts, hts, roots_eq_of_tokens h hts⟩

/-- Neither the property of the first expression nor that of the second counts as a use. -/
theorem names_are_first_uses_behind_dots :
    Expr.parse "b.a + c.trim()" = .ok (.concat [.attr (.name "b") "a", .call (.name "c") "trim"]) ∧
    (∃ ts, tokens "b.a + c.trim()" = .ok ts ∧
      ["b".toList, "c".toList] = (Token.freeNames false ts).eraseDups) ∧
    FirstUses ["b.a + c.trim()", " a.c + b "] ["b", "c", "a"] := by
  have hparse : Expr.parse "b.a + c.trim()" =
      .ok (.concat [.attr (.name "b") "a", .call (.name "c") "trim"]) := rfl
  have hnames : identifiers ⟨[], .default,
      [.interpolation 3 "b.a + c.trim()", .interpolation 20 " a.c + b "]⟩ =
        .ok ["b", "c", "a"] := rfl
  exact ⟨hparse, names_are_first_uses.1 _ _ hparse, (names_are_first_uses.2 _ _ hnames).1⟩

end TripleQuote.Template
