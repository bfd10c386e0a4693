import TripleQuote.Files.Tree
import TripleQuote.Proofs.Bindings.Lookup
import TripleQuote.Proofs.Command.Stages

/-! # Crashes

A command answers for the errors of the files that it reads and of its template, but not for all
that can go wrong. A render crashes of a value in a document that does not exist, of a key in the
file of bindings that is no text, of a number that is too long to be written out and of an output
that cannot be written (`RenderRequest.Crashes`), and of nothing else
(`Request.perform_orderly_iff`). -/

namespace TripleQuote

/-- A file holds a document in which a scalar spells a value that does not exist. -/
structure Disk.Misspells (disk : Disk) (p : Path) (fault : Yaml.Fault) : Prop where
  found : disk.lacks p = false
  load : ∃ text, disk.readText p = .ok text ∧ Yaml.load text = .error fault
  value : fault ≠ .malformed

/-- What a request crashes of. -/
inductive RenderRequest.Crashes (r : RenderRequest) (disk : Disk) : Crash → Prop where
  | config (hp : r.config = some p) (h : disk.Misspells p fault) : Crashes r disk (.badScalar fault)
  | vars {config : Config} (hconfig : r.loadConfig disk = .ok config) (hp : r.vars = some p)
      (h : disk.Misspells p fault) : Crashes r disk (.badScalar fault)
  | key {config : Config}
      (hready : r.Prepared disk config (Bindings.keyed named ++ (key, v) :: rest) t)
      (hkey : ∀ name, key ≠ .text name) :
      Crashes r disk (.bindings (if key.writable then .name key else .unwritable))
  | number {config : Config} (hready : r.Prepared disk config entries t)
      (hb : r.bindings entries = .ok b) (hr : t.render b = .error ⟨.unwritable, offset⟩) :
      Crashes r disk .unwritable
  | output {config : Config} (hready : r.Prepared disk config entries t)
      (hb : r.bindings entries = .ok b) (hr : t.render b = .ok text) (hp : r.output = some p)
      (h : disk.checkWrite p = .error error) : Crashes r disk (.file error)

variable {disk : Disk} {crash : Crash}

/-! ## Errors of loading -/

theorem LoadError.failure_eq_crash_iff {e : LoadError} :
    e.failure = .crash crash ↔ ∃ fault, e = .badScalar fault ∧ crash = .badScalar fault := by
  cases e with
  | badScalar fault => simp [failure, eq_comm]
  | _ => simp [failure]

theorem Disk.loadMapping_eq_badScalar_iff {p : Path} {fault : Yaml.Fault} :
    disk.loadMapping p = .error (.badScalar fault) ↔ disk.Misspells p fault := by
  constructor
  · intro h
    unfold loadMapping at h
    split at h
    · cases h
    · next hfound =>
      split at h
      · cases h
      · next text htext =>
        split at h
        · cases h
        · next hne hload =>
          cases h
          exact ⟨Bool.eq_false_iff.mpr hfound, ⟨text, htext, hload⟩, hne⟩
        all_goals cases h
  · rintro ⟨hfound, ⟨text, htext, hload⟩, hvalue⟩
    simp only [loadMapping, hfound, htext, hload, Bool.false_eq_true, if_false]

theorem Disk.loadConfig_eq_badScalar_iff {p : Path} {fault : Yaml.Fault} :
    disk.loadConfig p = .error (.badScalar fault) ↔ disk.Misspells p fault := by
  rw [← loadMapping_eq_badScalar_iff, loadConfig, bind_eq_error_iff]
  constructor
  · rintro (h | ⟨entries, _, h⟩)
    · exact h
    · obtain ⟨_, _, h⟩ := mapError_eq_error_iff.mp h
      cases h
  · exact .inl

theorem RenderError.failure_eq_crash_iff {e : RenderError} :
    e.failure = .crash crash ↔ e.error = .unwritable ∧ crash = .unwritable := by
  unfold RenderError.failure
  split
  · next hw => simp [hw, eq_comm]
  · next hw => simp [hw]

namespace RenderRequest

variable {r : RenderRequest}

theorem loadConfig_eq_badScalar_iff {fault : Yaml.Fault} :
    r.loadConfig disk = .error (.badScalar fault) ↔
      ∃ p, r.config = some p ∧ disk.Misspells p fault := by
  unfold loadConfig
  split
  · next hp => simp [hp]
  · next p hp => simp [hp, Disk.loadConfig_eq_badScalar_iff]

theorem loadEntries_eq_badScalar_iff {fault : Yaml.Fault} :
    r.loadEntries disk = .error (.badScalar fault) ↔
      ∃ p, r.vars = some p ∧ disk.Misspells p fault := by
  unfold loadEntries
  split
  · next hp => simp [hp]
  · next p hp => simp [hp, Disk.loadMapping_eq_badScalar_iff]

/-- Loading crashes of what the documents misspell, first of all of the configuration. -/
theorem load_eq_crash_iff :
    r.load disk = .error (.crash crash) ↔
      ∃ fault, crash = .badScalar fault ∧
        ((∃ p, r.config = some p ∧ disk.Misspells p fault) ∨
          ∃ config, r.loadConfig disk = .ok config ∧
            ∃ p, r.vars = some p ∧ disk.Misspells p fault) := by
  simp only [← loadConfig_eq_badScalar_iff, ← loadEntries_eq_badScalar_iff]
  rw [load_eq_error_iff]
  constructor
  · rintro ⟨e, he, h⟩
    obtain ⟨fault, rfl, rfl⟩ := LoadError.failure_eq_crash_iff.mp he
    exact ⟨fault, rfl, h⟩
  · rintro ⟨fault, rfl, h⟩
    exact ⟨.badScalar fault, rfl, h⟩

/-! ## Crashes of a run -/

theorem bindings_eq_error_iff {entries : List (Value × Value)} {refusal : Bindings.Refusal} :
    r.bindings entries = .error refusal ↔
      ∃ named key v rest, entries = Bindings.keyed named ++ (key, v) :: rest ∧
        (∀ name, key ≠ .text name) ∧
          refusal = if key.writable then .name key else .unwritable := by
  unfold bindings Bindings.build
  constructor
  · intro h
    split at h
    · next key hkey =>
      obtain ⟨named, v, rest, hentries, hname⟩ := Bindings.textEntries?_eq_error_iff.mp hkey
      cases h
      exact ⟨named, key, v, rest, hentries, hname, rfl⟩
    · cases h
  · rintro ⟨named, key, v, rest, hentries, hname, rfl⟩
    rw [Bindings.textEntries?_eq_error_iff.mpr ⟨named, v, rest, hentries, hname⟩]

theorem fails_crash_iff : r.Fails disk (.crash crash) ↔ r.Crashes disk crash := by
  constructor
  · intro h
    generalize hfailure : Failure.crash crash = failure at h
    cases h with
    | load h =>
      rw [← hfailure] at h
      obtain ⟨fault, rfl, ⟨p, hp, hfault⟩ | ⟨config, hconfig, p, hp, hfault⟩⟩ :=
        load_eq_crash_iff.mp h
      · exact .config hp hfault
      · exact .vars hconfig hp hfault
    | template | names => cases hfailure
    | bindings hready h =>
      cases hfailure
      obtain ⟨named, key, v, rest, rfl, hkey, rfl⟩ := bindings_eq_error_iff.mp h
      exact .key hready hkey
    | @render _ _ _ error _ hready hb h =>
      obtain ⟨hw, rfl⟩ := RenderError.failure_eq_crash_iff.mp hfailure.symm
      obtain ⟨_, offset⟩ := error
      cases hw
      exact .number hready hb h
    | output hready hb hr hp h =>
      cases hfailure
      exact .output hready hb hr hp h
  · intro h
    cases h with
    | config hp h => exact .load (load_eq_crash_iff.mpr ⟨_, rfl, .inl ⟨_, hp, h⟩⟩)
    | vars hconfig hp h => exact .load (load_eq_crash_iff.mpr ⟨_, rfl, .inr ⟨_, hconfig, _, hp, h⟩⟩)
    | key hready hkey =>
      exact .bindings hready (bindings_eq_error_iff.mpr ⟨_, _, _, _, rfl, hkey, rfl⟩)
    | number hready hb hr => exact .render hready hb hr
    | output hready hb hr hp h => exact .output hready hb hr hp h

end RenderRequest

/-! ## Orderly ends -/

namespace Request

theorem failure_eq_crash_iff {request : Request} :
    (request.perform disk).failure = some (.crash crash) ↔
      ∃ verbose r, request = .run verbose (.render r) ∧ r.Crashes disk crash := by
  constructor
  · intro h
    cases request with
    | version | help | misuse => cases h
    | run verbose task =>
      cases task with
      | render r =>
        have hfails : r.Fails disk (.crash crash) := RenderRequest.failure_eq_some_iff.mp h
        exact ⟨verbose, r, rfl, RenderRequest.fails_crash_iff.mp hfails⟩
      | tokens p =>
        rw [perform, Task.run, runTokens] at h
        split at h <;> cases h
  · rintro ⟨verbose, r, rfl, h⟩
    exact RenderRequest.failure_eq_some_iff.mpr (RenderRequest.fails_crash_iff.mpr h)

/-- An output that is a directory is not answered for either. -/
example :
    let disk := FileTree.disk ⟨[(["t".toList], Utf8.encode "'''x'''"),
      (["d".toList, "x".toList], [])]⟩
    ((ofWords ["render", "t", "-o", "d"]).perform disk).failure.map Failure.text =
      some "Unexpected error: [Errno 21] Is a directory: 'd'".toList := by
  decide +kernel

end Request

end TripleQuote
