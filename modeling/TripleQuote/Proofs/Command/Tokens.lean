import TripleQuote.Files.Tree
import TripleQuote.Proofs.Command.Stages
import TripleQuote.Proofs.Json.Printing

/-! # Printed segments

The command for tokens prints a document that says the segments of a template, each an object with
its kind, its offset and its text or source. Nothing is left out of what is printed, so that the
document determines the segments (`tokens_document_determines_segments`). -/

namespace TripleQuote

variable {disk : Disk} {p : Path} {source : Text} {segments : List Segment}

namespace Segment

/-- What the document says of a segment. -/
def described : Segment → Json.Value
  | literal offset text =>
    .object [("kind", .string "literal"), ("offset", .number offset 0), ("text", .string text)]
  | interpolation offset source =>
    .object [("kind", .string "interpolation"), ("offset", .number offset 0),
      ("source", .string source)]

theorem value_toJson (segment : Segment) : segment.toJson.value = segment.described := by
  cases segment <;> rfl

theorem values_toJson (segments : List Segment) :
    Json.values (segments.map toJson) = segments.map described := by
  induction segments with
  | nil => rfl
  | cons segment segments ih => rw [List.map_cons, Json.values, value_toJson, ih, List.map_cons]

theorem described_injective {segment segment' : Segment}
    (h : segment.described = segment'.described) : segment = segment' := by
  cases segment with
  | literal offset text =>
    cases segment' with
    | literal => simpa [described, Int.natCast_inj] using h
    | interpolation => simp [described] at h
  | interpolation offset source =>
    cases segment' with
    | literal => simp [described] at h
    | interpolation => simpa [described, Int.natCast_inj] using h

end Segment

/-- The document about segments, with the line end behind it. -/
def tokensText (segments : List Segment) : Text :=
  (Json.array (segments.map Segment.toJson)).text ++ ['\n']

theorem stripEscapes_tokensText (segments : List Segment) :
    (tokensText segments).stripEscapes = tokensText segments :=
  ((Json.escapeFree_text _).append (.cons (by decide) .nil)).stripEscapes

theorem read_tokensText (segments : List Segment) :
    Json.read (tokensText segments) = some (.array (segments.map Segment.described)) := by
  rw [tokensText, Json.read_text _ (by decide), Json.value, Segment.values_toJson]

theorem runTokens_eq (hsource : disk.readText p = .ok source)
    (hlex : lex none source = .ok segments) :
    runTokens disk p = .printed (tokensText segments) [.lexed segments.length] := by
  have ht : readTemplate disk .default p = .ok ⟨source, .default, segments⟩ :=
    readTemplate_of_readText hsource (Template.ofSource_eq_ok_iff.mpr ⟨segments, hlex, rfl⟩)
  simp only [runTokens, ht]
  rw [← tokensText, stripEscapes_tokensText]

theorem tokensText_injective {segments segments' : List Segment}
    (h : tokensText segments = tokensText segments') : segments = segments' := by
  have hread := read_tokensText segments
  rw [h, read_tokensText, Option.some.injEq, Json.Value.array.injEq] at hread
  exact (List.map_inj_right fun _ _ => Segment.described_injective).mp hread.symm

/-- The command for tokens succeeds for every template. Its output is one document that says the
segments in order, and no escape sequence is taken out of it. Templates with other segments have
another output. -/
theorem tokens_document_determines_segments (verbose : Bool)
    (hsource : disk.readText p = .ok source) (hlex : lex none source = .ok segments) :
    let outcome := (Request.run verbose (.tokens p)).perform disk
    outcome.exitCode = 0 ∧
      outcome.stdout = tokensText segments ∧
      (tokensText segments).stripEscapes = tokensText segments ∧
      Json.read outcome.stdout = some (.array (segments.map Segment.described)) ∧
      ∀ (disk' : Disk) (verbose' : Bool) (p' : Path) (source' : Text) (segments' : List Segment),
        disk'.readText p' = .ok source' → lex none source' = .ok segments' →
        ((Request.run verbose' (.tokens p')).perform disk').stdout = outcome.stdout →
        segments' = segments := by
  intro outcome
  have houtcome : outcome = .printed (tokensText segments) [.lexed segments.length] :=
    runTokens_eq hsource hlex
  rw [houtcome]
  refine ⟨rfl, rfl, stripEscapes_tokensText segments, read_tokensText segments, ?_⟩
  intro disk' verbose' p' source' segments' hsource' hlex' hstdout
  rw [Request.perform, Task.run, runTokens_eq hsource' hlex'] at hstdout
  exact tokensText_injective hstdout

/-- An escape sequence and a quote in a template are printed so that they are read again. -/
theorem tokens_document_of_escape_sequence :
    let disk := FileTree.disk ⟨[(["t".toList], Utf8.encode "'''\x1b[m\"$\x7ba\x7d'''")]⟩
    let outcome := (Request.run false (.tokens (.ofText "t"))).perform disk
    disk.readText (.ofText "t") = .ok "'''\x1b[m\"$\x7ba\x7d'''" ∧
      lex none "'''\x1b[m\"$\x7ba\x7d'''" =
        .ok [.literal 3 "\x1b[m\"", .interpolation 9 ['a']] ∧
      outcome.exitCode = 0 ∧
      Json.read outcome.stdout = some (.array
        [.object [("kind", .string "literal"), ("offset", .number 3 0),
          ("text", .string "\x1b[m\"")],
         .object [("kind", .string "interpolation"), ("offset", .number 9 0),
          ("source", .string ['a'])]]) := by
  intro disk outcome
  have hsource : disk.readText (.ofText "t") = .ok "'''\x1b[m\"$\x7ba\x7d'''" := rfl
  have hfits : Piece.AllFit .single
      [.char '\x1b', .char '[', .char 'm', .char '"', .span ['a']] (Quote.single.run (0 + 3)) :=
    ⟨.char (by decide) (by decide) (by decide), .char (by decide) (by decide) (by decide),
      .char (by decide) (by decide) (by decide), .char (by decide) (by decide) (by decide),
      .span (by decide) rfl, trivial⟩
  have hlex : lex none "'''\x1b[m\"$\x7ba\x7d'''" =
      .ok [.literal 3 "\x1b[m\"", .interpolation 9 ['a']] :=
    Decomposition.lex_ofPieces (by simp) hfits
  obtain ⟨hexit, -, -, hread, -⟩ := tokens_document_determines_segments false hsource hlex
  exact ⟨hsource, hlex, hexit, hread⟩

end TripleQuote
