import TripleQuote.Command.Run
import TripleQuote.Proofs.Template.Names

/-! # Stages of a run

A run loads, makes the template, parses its expressions, binds, renders and delivers. It fails with
the first stage that fails and with nothing else (`RenderRequest.failure_eq_some_iff`). Parsing the
expressions beforehand refuses no template that can be rendered, so that the text of a render is
delivered (`RenderRequest.run_eq_deliver`). -/

namespace TripleQuote

namespace RenderRequest

/-- A request with all that its render depends on but the bindings: the template has been made and
its expressions can be parsed. -/
structure Prepared (r : RenderRequest) (disk : Disk) (config : Config)
    (entries : List (Value × Value)) (t : Template) : Prop where
  load : r.load disk = .ok (config, entries)
  template : readTemplate disk config r.template = .ok t
  names : ∃ names, t.identifiers = .ok names

/-- What a request fails with, stage by stage. -/
inductive Fails (r : RenderRequest) (disk : Disk) : Failure → Prop where
  | load {failure : Failure} (h : r.load disk = .error failure) : Fails r disk failure
  | template {config : Config} (hload : r.load disk = .ok (config, entries))
      (h : readTemplate disk config r.template = .error error) : Fails r disk (.answered error)
  | names {config : Config} (hload : r.load disk = .ok (config, entries))
      (ht : readTemplate disk config r.template = .ok t) (h : t.identifiers = .error error) :
      Fails r disk (.answered (.badSyntax error))
  | bindings {config : Config} (hready : r.Prepared disk config entries t)
      (h : r.bindings entries = .error refusal) : Fails r disk (.crash (.bindings refusal))
  | render {config : Config} (hready : r.Prepared disk config entries t)
      (hb : r.bindings entries = .ok b) (h : t.render b = .error error) :
      Fails r disk error.failure
  | output {config : Config} (hready : r.Prepared disk config entries t)
      (hb : r.bindings entries = .ok b) (hr : t.render b = .ok text) (hp : r.output = some p)
      (h : disk.checkWrite p = .error error) : Fails r disk (.crash (.file error))

end RenderRequest

variable {r : RenderRequest} {disk : Disk} {config : Config} {entries : List (Value × Value)}
  {t : Template} {b : Bindings} {text source : Text}

theorem ofSource_of_readTemplate {p : Path} (h : readTemplate disk config p = .ok t) :
    ∃ source, Template.ofSource config source = .ok t := by
  unfold readTemplate at h
  split at h
  · cases h
  · next source _ => exact ⟨source, mapError_eq_ok_iff.mp h⟩

theorem readTemplate_eq {p : Path} (hsource : disk.readText p = .ok source) :
    readTemplate disk config p = (Template.ofSource config source).mapError .malformed := by
  simp only [readTemplate, hsource]

theorem readTemplate_of_readText {p : Path} (hsource : disk.readText p = .ok source)
    (ht : Template.ofSource config source = .ok t) : readTemplate disk config p = .ok t := by
  rw [readTemplate_eq hsource, ht]
  rfl

/-- A template that can be rendered declares its names. -/
theorem Template.exists_identifiers_of_render (hr : t.render b = .ok text) :
    ∃ names, t.identifiers = .ok names := by
  rw [exists_identifiers_iff]
  intro pos span hs
  obtain ⟨out, hout⟩ := exists_text_of_render hr hs
  obtain ⟨e, he, _⟩ := Expr.evaluate_eq_ok_iff.mp hout
  exact ⟨e, he⟩

namespace RenderRequest

/-! ## Loading -/

/-- The configuration of a request: that of its file, or else the default. -/
def loadConfig (r : RenderRequest) (disk : Disk) : Except LoadError Config :=
  match r.config with
  | none => .ok .default
  | some p => disk.loadConfig p

/-- The entries of the file of bindings of a request, if it has one. -/
def loadEntries (r : RenderRequest) (disk : Disk) : Except LoadError (List (Value × Value)) :=
  match r.vars with
  | none => .ok []
  | some p => disk.loadMapping p

theorem load_eq (r : RenderRequest) (disk : Disk) :
    r.load disk = (do
      let config ← (r.loadConfig disk).mapError LoadError.failure
      let entries ← (r.loadEntries disk).mapError LoadError.failure
      return (config, entries)) := by
  cases hconfig : r.config <;> cases hvars : r.vars <;>
    simp only [load, loadConfig, loadEntries, hconfig, hvars] <;> rfl

/-- Loading fails with the error of the configuration or, if there is none, with that of the file of
bindings. -/
theorem load_eq_error_iff {failure : Failure} :
    r.load disk = .error failure ↔
      ∃ e : LoadError, e.failure = failure ∧
        (r.loadConfig disk = .error e ∨
          ∃ config, r.loadConfig disk = .ok config ∧ r.loadEntries disk = .error e) := by
  cases hconfig : r.loadConfig disk <;> cases hentries : r.loadEntries disk <;>
    simp [load_eq, hconfig, hentries, Except.mapError, bind, Except.bind, pure, Except.pure]

/-! ## Stages -/

theorem run_of_load_error {failure : Failure} (hload : r.load disk = .error failure) :
    r.run disk = .failed failure [] := by
  simp only [run, hload]

theorem run_of_template_error {error : CommandError} (hload : r.load disk = .ok (config, entries))
    (ht : readTemplate disk config r.template = .error error) :
    r.run disk = .failed (.answered error) [] := by
  simp only [run, hload, ht]

/-- A template with an expression that cannot be parsed is not rendered. -/
theorem run_of_identifiers_error {error : SyntaxError} (hload : r.load disk = .ok (config, entries))
    (ht : readTemplate disk config r.template = .ok t) (h : t.identifiers = .error error) :
    ∃ events, r.run disk = .failed (.answered (.badSyntax error)) events := by
  simp only [run, hload, ht, h]
  exact ⟨_, rfl⟩

theorem run_of_bindings_error {names : List Text} {refusal : Bindings.Refusal}
    (hload : r.load disk = .ok (config, entries))
    (ht : readTemplate disk config r.template = .ok t) (h : t.identifiers = .ok names)
    (hb : r.bindings entries = .error refusal) :
    ∃ events, r.run disk = .failed (.crash (.bindings refusal)) events := by
  simp only [run, hload, ht, h, hb]
  exact ⟨_, rfl⟩

theorem run_of_render_error {names : List Text} {error : RenderError}
    (hload : r.load disk = .ok (config, entries))
    (ht : readTemplate disk config r.template = .ok t) (h : t.identifiers = .ok names)
    (hb : r.bindings entries = .ok b) (hr : t.render b = .error error) :
    ∃ events, r.run disk = .failed error.failure events := by
  simp only [run, hload, ht, h, hb, hr]
  exact ⟨_, rfl⟩

theorem run_eq_deliver (hload : r.load disk = .ok (config, entries))
    (ht : readTemplate disk config r.template = .ok t) (hb : r.bindings entries = .ok b)
    (hr : t.render b = .ok text) : ∃ events, r.run disk = r.deliver disk text events := by
  obtain ⟨names, h⟩ := Template.exists_identifiers_of_render hr
  simp only [run, hload, ht, h, hb, hr]
  exact ⟨_, rfl⟩

theorem deliver_of_error {p : Path} {e : FileError} {events : List Event}
    (hp : r.output = some p) (h : disk.checkWrite p = .error e) :
    r.deliver disk text events = .failed (.crash (.file e)) events := by
  simp only [deliver, hp, h]

theorem deliver_printed {events : List Event} (hp : r.output = none) :
    r.deliver disk text events = .printed text.stripEscapes events := by
  simp only [deliver, hp]

theorem deliver_written {p : Path} {events : List Event} (hp : r.output = some p)
    (h : disk.checkWrite p = .ok ()) :
    r.deliver disk text events = ⟨[], some (p, text), none, events ++ [.wrote p.text]⟩ := by
  simp only [deliver, hp, h]

theorem deliver_of_writable {events : List Event}
    (hwrite : ∀ p, r.output = some p → disk.checkWrite p = .ok ()) :
    (r.deliver disk text events).failure = none := by
  cases hp : r.output with
  | none => rw [deliver_printed hp]; rfl
  | some p => rw [deliver_written hp (hwrite p hp)]

/-! ## Failures -/

/-- A run fails at one of its stages, or has a text that can be delivered. -/
theorem fails_or_deliver (r : RenderRequest) (disk : Disk) :
    (∃ failure events, r.Fails disk failure ∧ r.run disk = .failed failure events) ∨
      ∃ text events, (∀ p, r.output = some p → disk.checkWrite p = .ok ()) ∧
        r.run disk = r.deliver disk text events := by
  cases hload : r.load disk with
  | error failure => exact .inl ⟨failure, [], .load hload, run_of_load_error hload⟩
  | ok loaded =>
    obtain ⟨config, entries⟩ := loaded
    cases ht : readTemplate disk config r.template with
    | error e => exact .inl ⟨_, [], .template hload ht, run_of_template_error hload ht⟩
    | ok t =>
      cases hnames : t.identifiers with
      | error e =>
        obtain ⟨events, hrun⟩ := run_of_identifiers_error hload ht hnames
        exact .inl ⟨_, events, .names hload ht hnames, hrun⟩
      | ok names =>
        have hready : r.Prepared disk config entries t := ⟨hload, ht, names, hnames⟩
        cases hb : r.bindings entries with
        | error refusal =>
          obtain ⟨events, hrun⟩ := run_of_bindings_error hload ht hnames hb
          exact .inl ⟨_, events, .bindings hready hb, hrun⟩
        | ok b =>
          cases hr : t.render b with
          | error error =>
            obtain ⟨events, hrun⟩ := run_of_render_error hload ht hnames hb hr
            exact .inl ⟨_, events, .render hready hb hr, hrun⟩
          | ok text =>
            obtain ⟨events, hrun⟩ := run_eq_deliver hload ht hb hr
            cases hp : r.output with
            | none => exact .inr ⟨text, events, by simp, hrun⟩
            | some p =>
              cases hwrite : disk.checkWrite p with
              | error e =>
                refine .inl ⟨_, events, .output hready hb hr hp hwrite, ?_⟩
                rw [hrun, deliver_of_error hp hwrite]
              | ok _ => exact .inr ⟨text, events, by simp [hwrite], hrun⟩

theorem run_of_fails {failure : Failure} (h : r.Fails disk failure) :
    ∃ events, r.run disk = .failed failure events := by
  cases h with
  | load h => exact ⟨[], run_of_load_error h⟩
  | template hload h => exact ⟨[], run_of_template_error hload h⟩
  | names hload ht h => exact run_of_identifiers_error hload ht h
  | bindings hready h =>
    obtain ⟨hload, ht, _, hnames⟩ := hready
    exact run_of_bindings_error hload ht hnames h
  | render hready hb h =>
    obtain ⟨hload, ht, _, hnames⟩ := hready
    exact run_of_render_error hload ht hnames hb h
  | output hready hb hr hp h =>
    obtain ⟨events, hrun⟩ := run_eq_deliver hready.load hready.template hb hr
    exact ⟨events, by rw [hrun, deliver_of_error hp h]⟩

theorem failure_eq_some_iff {failure : Failure} :
    (r.run disk).failure = some failure ↔ r.Fails disk failure := by
  constructor
  · intro h
    rcases fails_or_deliver r disk with ⟨failure', _, hfails, hrun⟩ | ⟨_, _, hwrite, hrun⟩
    · rw [hrun] at h
      cases h
      exact hfails
    · rw [hrun, deliver_of_writable hwrite] at h
      cases h
  · intro h
    obtain ⟨_, hrun⟩ := run_of_fails h
    rw [hrun]
    rfl

end RenderRequest

end TripleQuote
