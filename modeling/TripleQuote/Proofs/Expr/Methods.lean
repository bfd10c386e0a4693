import TripleQuote.Proofs.Expr.Evaluation

/-! # Enabled methods

An expression has a value under a list of enabled methods if it has that value under all methods
and calls none but the enabled ones. Enabling more methods changes no outcome but the refusal of a
method (`Expr.eval_eq_of_subset`), and what is refused is called and not enabled
(`Expr.enabled_exact`). -/

namespace TripleQuote

variable {enabled more : List Method} {env : Env} {e : Expr} {operands : List Expr} {n : Text}
  {v : Value}

namespace Method

variable {m : Method}

theorem ofName?_name (m : Method) : ofName? m.name = some m := by
  cases m <;> rfl

theorem name_injective : Function.Injective name := by
  intro a b h
  have ha := ofName?_name a
  rw [h, ofName?_name b] at ha
  exact (Option.some.inj ha).symm

theorem mem_all (m : Method) : m ∈ all := List.mem_of_find?_eq_some (ofName?_name m)

/-- A name finds the enabled method that it belongs to. -/
theorem find?_eq_some_iff : enabled.find? (·.name == n) = some m ↔ m ∈ enabled ∧ m.name = n := by
  constructor
  · intro h
    exact ⟨List.mem_of_find?_eq_some h, by simpa using List.find?_some h⟩
  · rintro ⟨hm, rfl⟩
    cases hfind : enabled.find? (·.name == m.name) with
    | none => simpa using List.find?_eq_none.mp hfind m hm
    | some m' =>
      have hname : m'.name = m.name := by simpa using List.find?_some hfind
      rw [name_injective hname]

theorem find?_eq_none_iff :
    enabled.find? (·.name == n) = none ↔ n ∉ enabled.map Method.name := by
  simp only [List.find?_eq_none, List.mem_map, not_exists, not_and, beq_iff_eq]

/-- A method that is found is found among more methods, too. -/
theorem find?_of_subset (h : enabled ⊆ more) (hm : enabled.find? (·.name == n) = some m) :
    more.find? (·.name == n) = some m := by
  obtain ⟨hmem, hname⟩ := find?_eq_some_iff.mp hm
  exact find?_eq_some_iff.mpr ⟨h hmem, hname⟩

end Method

namespace Expr

/-- The method that a node calls. -/
def called? : Expr → Option Text
  | call _ n => some n
  | _ => none

/-- The methods that an expression calls, in the order of the calls. -/
def calls (e : Expr) : List Text := e.nodes.filterMap called?

theorem mem_calls_iff : n ∈ e.calls ↔ ∃ target, call target n ∈ e.nodes := by
  rw [calls, List.mem_filterMap]
  constructor
  · rintro ⟨d, hd, hn⟩
    cases d with
    | call target m =>
      cases hn
      exact ⟨target, hd⟩
    | name | text | attr | concat | hole => cases hn
  · rintro ⟨target, hd⟩
    exact ⟨_, hd, rfl⟩

theorem calls_attr (target : Expr) (n : Text) : (attr target n).calls = target.calls := by
  rw [calls, nodes, List.filterMap_append, ← calls]
  exact List.append_nil _

theorem calls_call (target : Expr) (n : Text) : (call target n).calls = target.calls ++ [n] := by
  rw [calls, nodes, List.filterMap_append, ← calls]
  rfl

theorem mem_calls_concat : n ∈ (concat operands).calls ↔ ∃ e ∈ operands, n ∈ e.calls := by
  simp only [mem_calls_iff, nodes, nodesOf_eq_flatMap, List.mem_append, List.mem_flatMap,
    List.mem_singleton, reduceCtorEq, or_false]
  constructor
  · rintro ⟨target, e, he, hd⟩
    exact ⟨e, he, target, hd⟩
  · rintro ⟨e, he, target, hd⟩
    exact ⟨target, e, he, hd⟩

/-! ## Two lists of methods -/

/-- Whether a method is enabled matters only if it is called. -/
theorem eval_congr_methods
    (h : ∀ n ∈ e.calls, enabled.find? (·.name == n) = more.find? (·.name == n)) :
    eval enabled env e = eval more env e := by
  induction e using Expr.induction with
  | name | text | hole => rfl
  | attr target n ih =>
    rw [calls_attr] at h
    rw [eval_attr, eval_attr, ih h]
  | call target n ih =>
    rw [calls_call, List.forall_mem_append, List.forall_mem_singleton] at h
    rw [eval_call, eval_call, ih h.1, h.2]
  | concat operands ih =>
    have hoperands : ∀ e ∈ operands, eval enabled env e = eval more env e := fun e he =>
      ih e he fun n hn => h n (mem_calls_concat.mpr ⟨e, he, hn⟩)
    rw [eval_concat, eval_concat, evalAll_congr hoperands]

/-- The methods that an expression with a value calls are enabled. -/
theorem enabled_of_eval (h : eval enabled env e = .ok v) :
    ∀ n ∈ e.calls, n ∈ enabled.map Method.name := by
  intro n hn
  obtain ⟨target, hcall⟩ := mem_calls_iff.mp hn
  obtain ⟨w, hw⟩ := exists_value_of_mem_nodes h _ hcall
  obtain ⟨_, _, method, hmethod, _⟩ := eval_call_eq_ok_iff.mp hw
  by_contra hdisabled
  cases hmethod.symm.trans (Method.find?_eq_none_iff.mpr hdisabled)

/-- A method that is refused is called and not enabled. -/
theorem called_of_eval_unsupported (h : eval enabled env e = .error (.unsupported n)) :
    n ∈ e.calls ∧ n ∉ enabled.map Method.name := by
  obtain ⟨d, hd⟩ := exists_faulty_of_eval h (by simp)
  have hmem := hd.mem
  obtain ⟨_, _, _, _, hfaulty⟩ := hd
  cases hfaulty with
  | call _ hn => exact ⟨mem_calls_iff.mpr ⟨_, hmem⟩, Method.find?_eq_none_iff.mp hn⟩

theorem evalAll_eq_of_subset
    (ih : ∀ e ∈ operands, (∀ n, eval enabled env e ≠ .error (.unsupported n)) →
      eval more env e = eval enabled env e)
    (h : ∀ n, evalAll enabled env operands ≠ .error (.unsupported n)) :
    evalAll more env operands = evalAll enabled env operands := by
  induction operands with
  | nil => rfl
  | cons e operands ihmore =>
    obtain ⟨ihe, ihoperands⟩ := List.forall_mem_cons.mp ih
    have he : eval more env e = eval enabled env e :=
      ihe fun n hn => h n (evalAll_cons_eq_error_iff.mpr (.inl hn))
    rw [evalAll_cons, evalAll_cons, he]
    cases hv : eval enabled env e with
    | error err => rfl
    | ok v =>
      cases hspell : v.spell with
      | error err => simp [hspell, bind, Except.bind]
      | ok t =>
        have hmore := ihmore ihoperands fun n hn =>
          h n (evalAll_cons_eq_error_iff.mpr (.inr ⟨v, hv, .inr ⟨⟨t, hspell⟩, hn⟩⟩))
        rw [hmore]

/-- With more methods enabled, an expression comes to the same, unless it was refused a method. -/
theorem eval_eq_of_subset (hsub : enabled ⊆ more)
    (h : ∀ n, eval enabled env e ≠ .error (.unsupported n)) :
    eval more env e = eval enabled env e := by
  induction e using Expr.induction with
  | name | text | hole => rfl
  | attr target n ih =>
    have htarget := ih fun m hm => h m (eval_attr_eq_error_iff.mpr (.inl hm))
    rw [eval_attr, eval_attr, htarget]
  | call target n ih =>
    have htarget := ih fun m hm => h m (eval_call_eq_error_iff.mpr (.inl hm))
    rw [eval_call, eval_call, htarget]
    cases hv : eval enabled env target with
    | error err => rfl
    | ok v =>
      cases hfind : enabled.find? (·.name == n) with
      | none => exact absurd (eval_call_eq_error_iff.mpr (.inr ⟨v, hv, .inl ⟨hfind, rfl⟩⟩)) (h n)
      | some method => rw [Method.find?_of_subset hsub hfind]
  | concat operands ih =>
    have hoperands := evalAll_eq_of_subset ih fun n hn => h n (eval_concat_eq_error_iff.mpr hn)
    rw [eval_concat, eval_concat, hoperands]

/-- The list of enabled methods is exact. An expression has a value under it if it has that value
under all methods and calls enabled methods only. A failure stays the same when more methods are
enabled, unless a method has been refused, which then is called and not enabled. -/
theorem enabled_exact (hsub : enabled ⊆ more) (env : Env) (e : Expr) :
    (∀ v, eval enabled env e = .ok v ↔
      eval Method.all env e = .ok v ∧ ∀ n ∈ e.calls, n ∈ enabled.map Method.name) ∧
    (∀ err, eval enabled env e = .error err → (∀ n, err ≠ .unsupported n) →
      eval more env e = .error err) ∧
    ∀ n, eval enabled env e = .error (.unsupported n) →
      n ∈ e.calls ∧ n ∉ enabled.map Method.name := by
  have hall : enabled ⊆ Method.all := fun m _ => m.mem_all
  refine ⟨fun v => ⟨fun h => ⟨?_, enabled_of_eval h⟩, fun ⟨h, hcalls⟩ => ?_⟩,
    fun err h hsupported => ?_,
    fun n h => called_of_eval_unsupported h⟩
  · rw [eval_eq_of_subset hall (by simp [h]), h]
  · rw [eval_congr_methods fun n hn => ?_, h]
    obtain ⟨method, hmethod, rfl⟩ := List.mem_map.mp (hcalls n hn)
    have hfind := Method.find?_eq_some_iff.mpr ⟨hmethod, rfl⟩
    rw [hfind, Method.find?_of_subset hall hfind]
  · have hne : ∀ n, eval enabled env e ≠ .error (.unsupported n) := by
      rw [h]
      exact fun n hn => hsupported n (Except.error.inj hn)
    rw [eval_eq_of_subset hsub hne, h]

/-- The second operand calls a method that is not enabled, behind a name that is bound. -/
theorem enabled_exact_trim :
    let e : Expr := .concat [.call (.name ['a']) "trim", .call (.text ['b']) "toUpperCase"]
    let env : Env := fun _ => some (.text " x ")
    [Method.trim] ⊆ Method.all ∧
      eval [Method.trim] env e = .error (.unsupported "toUpperCase") ∧
      "toUpperCase".toList ∈ e.calls ∧ "toUpperCase".toList ∉ [Method.trim].map Method.name ∧
      eval Method.all env e = .ok (.text "xB") ∧
      ¬ ∀ n ∈ e.calls, n ∈ [Method.trim].map Method.name := by
  intro e env
  have hsub : [Method.trim] ⊆ Method.all := by decide
  have hrefused : eval [Method.trim] env e = .error (.unsupported "toUpperCase") := rfl
  have hvalue : eval Method.all env e = .ok (.text "xB") := rfl
  obtain ⟨hok, -, hunsupported⟩ := enabled_exact hsub env e
  obtain ⟨hcalled, hdisabled⟩ := hunsupported _ hrefused
  refine ⟨hsub, hrefused, hcalled, hdisabled, hvalue, fun h => ?_⟩
  cases hrefused.symm.trans ((hok _).mpr ⟨hvalue, h⟩)

end Expr

end TripleQuote
