import TripleQuote.Expr.Eval
import TripleQuote.Proofs.Expr.Nodes
import TripleQuote.Proofs.Sequence

/-! # Values and faults of nodes

An expression has a value only if each of its nodes has one (`Expr.exists_value_of_mem_nodes`).
Without a value it fails with the fault of its first faulty node (`Expr.exists_faulty_of_eval`),
unless the value of an operand or of a target cannot be written out. Evaluation looks up the names
of the expression and no others (`Expr.eval_congr`). -/

namespace TripleQuote

/-- What is wrong with a node whose own parts have values. -/
inductive Expr.Faulty (enabled : List Method) (env : Env) : Expr → EvalError → Prop where
  | name (h : env ident = none) : Faulty enabled env (name ident) (.unbound ident)
  | attr (ht : eval enabled env target = .ok v) (hn : v.property? n = none) :
      Faulty enabled env (attr target n) (.unbound (Expr.attr target n).path)
  | call (ht : eval enabled env target = .ok v) (hn : enabled.find? (·.name == n) = none) :
      Faulty enabled env (call target n) (.unsupported n)
  | hole : Faulty enabled env hole .hole

/-- The nodes of a list before the node `d` have values. -/
def Expr.Reaches (enabled : List Method) (env : Env) (nodes : List Expr) (d : Expr) : Prop :=
  ∃ before after, nodes = before ++ d :: after ∧ ∀ b ∈ before, ∃ v, eval enabled env b = .ok v

/-- The node needs the text of the value of `c`, which is one of its parts. -/
inductive Expr.Writes (enabled : List Method) : Expr → Expr → Prop where
  | receiver (hm : m ∈ enabled) : Writes enabled (call c m.name) c
  | operand (hc : c ∈ operands) : Writes enabled (concat operands) c

/-- The node `d` is the first of a list that has no value, since it is faulty. -/
def Expr.FirstFaulty (enabled : List Method) (env : Env) (nodes : List Expr) (d : Expr)
    (err : EvalError) : Prop :=
  ∃ before after, nodes = before ++ d :: after ∧
    (∀ b ∈ before, ∃ v, eval enabled env b = .ok v) ∧ Faulty enabled env d err

variable {enabled : List Method} {env env' : Env} {e target d : Expr} {operands : List Expr}
  {n out : Text} {v w : Value} {err : EvalError}

theorem Value.spell_eq_error_iff :
    v.spell = .error err ↔ v.writable = false ∧ err = .unwritable := by
  unfold spell
  cases v.writable with
  | true => simp
  | false => simp [eq_comm]

theorem Value.eq_unwritable_of_spell (h : v.spell = .error err) : err = .unwritable :=
  (spell_eq_error_iff.mp h).2

namespace Expr

/-! ## One node -/

theorem eval_name_eq_ok_iff : eval enabled env (name n) = .ok w ↔ env n = some w := by
  rw [eval_name]
  cases env n with
  | none => simp
  | some v => simp

theorem eval_name_eq_error_iff :
    eval enabled env (name n) = .error err ↔ env n = none ∧ err = .unbound n := by
  rw [eval_name]
  cases env n with
  | none => simp [eq_comm]
  | some v => simp

theorem eval_attr_eq_ok_iff :
    eval enabled env (attr target n) = .ok w ↔
      ∃ v, eval enabled env target = .ok v ∧ v.property? n = some w := by
  rw [eval_attr, bind_eq_ok_iff]
  refine exists_congr fun v => and_congr_right fun _ => ?_
  cases v.property? n with
  | none => simp
  | some u => simp

theorem eval_attr_eq_error_iff :
    eval enabled env (attr target n) = .error err ↔
      eval enabled env target = .error err ∨
        ∃ v, eval enabled env target = .ok v ∧ v.property? n = none ∧
          err = .unbound (attr target n).path := by
  rw [eval_attr, bind_eq_error_iff]
  refine or_congr_right (exists_congr fun v => and_congr_right fun _ => ?_)
  cases v.property? n with
  | none => simp [eq_comm]
  | some u => simp

theorem eval_call_eq_ok_iff :
    eval enabled env (call target n) = .ok w ↔
      ∃ v, eval enabled env target = .ok v ∧ ∃ method, enabled.find? (·.name == n) = some method ∧
        ∃ t, v.spell = .ok t ∧ .text (method.apply t) = w := by
  rw [eval_call, bind_eq_ok_iff]
  refine exists_congr fun v => and_congr_right fun _ => ?_
  cases enabled.find? (·.name == n) with
  | none => simp
  | some method =>
    cases v.spell with
    | error _ => simp [Except.map]
    | ok t => simp [Except.map]

theorem eval_call_eq_error_iff :
    eval enabled env (call target n) = .error err ↔
      eval enabled env target = .error err ∨
        ∃ v, eval enabled env target = .ok v ∧
          (enabled.find? (·.name == n) = none ∧ err = .unsupported n ∨
            (∃ method, enabled.find? (·.name == n) = some method) ∧ v.spell = .error err) := by
  rw [eval_call, bind_eq_error_iff]
  refine or_congr_right (exists_congr fun v => and_congr_right fun _ => ?_)
  cases enabled.find? (·.name == n) with
  | none => simp [eq_comm]
  | some method =>
    cases v.spell with
    | error _ => simp [Except.map]
    | ok t => simp [Except.map]

theorem eval_concat_eq_ok_iff :
    eval enabled env (concat operands) = .ok w ↔
      ∃ out, evalAll enabled env operands = .ok out ∧ .text out = w := by
  rw [eval_concat, bind_eq_ok_iff]
  simp only [pure, Except.pure, Except.ok.injEq]

theorem eval_concat_eq_error_iff :
    eval enabled env (concat operands) = .error err ↔
      evalAll enabled env operands = .error err := by
  rw [eval_concat, bind_eq_error_iff]
  simp only [pure, Except.pure, reduceCtorEq, and_false, exists_false, or_false]

theorem evalAll_cons_eq_ok_iff :
    evalAll enabled env (e :: operands) = .ok out ↔
      ∃ v, eval enabled env e = .ok v ∧ ∃ t, v.spell = .ok t ∧
        ∃ more, evalAll enabled env operands = .ok more ∧ t ++ more = out := by
  simp only [evalAll_cons, bind_eq_ok_iff, pure, Except.pure, Except.ok.injEq]

theorem evalAll_cons_eq_error_iff :
    evalAll enabled env (e :: operands) = .error err ↔
      eval enabled env e = .error err ∨ ∃ v, eval enabled env e = .ok v ∧
        (v.spell = .error err ∨
          (∃ t, v.spell = .ok t) ∧ evalAll enabled env operands = .error err) := by
  simp only [evalAll_cons, bind_eq_error_iff, pure, Except.pure, reduceCtorEq, and_false,
    exists_false, or_false, exists_and_right]

/-! ## Operands -/

theorem exists_value_of_evalAll (h : evalAll enabled env operands = .ok out) :
    ∀ e ∈ operands, ∃ v, eval enabled env e = .ok v := by
  induction operands generalizing out with
  | nil => simp
  | cons e operands ih =>
    obtain ⟨v, hv, _, _, more, hmore, _⟩ := evalAll_cons_eq_ok_iff.mp h
    exact List.forall_mem_cons.mpr ⟨⟨v, hv⟩, ih hmore⟩

/-- Operands fail at the first of them whose value cannot be found or cannot be written out. -/
theorem exists_operand_without_text (h : evalAll enabled env operands = .error err) :
    ∃ front e back, operands = front ++ e :: back ∧
      (∀ d ∈ front, ∃ v, eval enabled env d = .ok v) ∧
      (eval enabled env e = .error err ∨
        ∃ v, eval enabled env e = .ok v ∧ v.spell = .error err) := by
  induction operands with
  | nil => cases h
  | cons e operands ih =>
    rcases evalAll_cons_eq_error_iff.mp h with he | ⟨v, hv, hspell | ⟨_, hmore⟩⟩
    · exact ⟨[], e, operands, rfl, by simp, .inl he⟩
    · exact ⟨[], e, operands, rfl, by simp, .inr ⟨v, hv, hspell⟩⟩
    · obtain ⟨front, d, back, rfl, hfront, hd⟩ := ih hmore
      exact ⟨e :: front, d, back, rfl, List.forall_mem_cons.mpr ⟨⟨v, hv⟩, hfront⟩, hd⟩

theorem evalAll_congr {enabled' : List Method}
    (h : ∀ e ∈ operands, eval enabled env e = eval enabled' env' e) :
    evalAll enabled env operands = evalAll enabled' env' operands := by
  induction operands with
  | nil => rfl
  | cons e operands ih =>
    obtain ⟨he, hmore⟩ := List.forall_mem_cons.mp h
    rw [evalAll_cons, evalAll_cons, he, ih hmore]

/-! ## Trees -/

/-- Every node of an expression with a value has a value. -/
theorem exists_value_of_mem_nodes (h : eval enabled env e = .ok w) :
    ∀ d ∈ e.nodes, ∃ v, eval enabled env d = .ok v := by
  induction e using Expr.induction generalizing w with
  | name | text | hole =>
    rw [nodes, List.forall_mem_singleton]
    exact ⟨w, h⟩
  | attr target n ih =>
    obtain ⟨v, hv, _⟩ := eval_attr_eq_ok_iff.mp h
    rw [nodes, List.forall_mem_append, List.forall_mem_singleton]
    exact ⟨ih hv, w, h⟩
  | call target n ih =>
    obtain ⟨v, hv, _⟩ := eval_call_eq_ok_iff.mp h
    rw [nodes, List.forall_mem_append, List.forall_mem_singleton]
    exact ⟨ih hv, w, h⟩
  | concat operands ih =>
    obtain ⟨out, hout, _⟩ := eval_concat_eq_ok_iff.mp h
    rw [nodes, nodesOf_eq_flatMap, List.forall_mem_append, List.forall_mem_singleton]
    refine ⟨fun d hd => ?_, w, h⟩
    obtain ⟨e, he, hd⟩ := List.mem_flatMap.mp hd
    obtain ⟨v, hv⟩ := exists_value_of_evalAll hout e he
    exact ih e he hv d hd

theorem firstFaulty_iff {nodes : List Expr} :
    FirstFaulty enabled env nodes d err ↔
      Reaches enabled env nodes d ∧ Faulty enabled env d err := by
  constructor
  · rintro ⟨before, after, hnodes, hbefore, hd⟩
    exact ⟨⟨before, after, hnodes, hbefore⟩, hd⟩
  · rintro ⟨⟨before, after, hnodes, hbefore⟩, hd⟩
    exact ⟨before, after, hnodes, hbefore, hd⟩

namespace Reaches

variable {nodes : List Expr}

theorem mem (h : Reaches enabled env nodes d) : d ∈ nodes := by
  obtain ⟨before, after, rfl, _⟩ := h
  exact List.mem_append_right _ List.mem_cons_self

theorem append (h : Reaches enabled env nodes d) (more : List Expr) :
    Reaches enabled env (nodes ++ more) d := by
  obtain ⟨before, after, rfl, hbefore⟩ := h
  exact ⟨before, after ++ more, by simp, hbefore⟩

/-- Nodes with values do not matter. -/
theorem append_left {front : List Expr} (h : Reaches enabled env nodes d)
    (hfront : ∀ b ∈ front, ∃ v, eval enabled env b = .ok v) :
    Reaches enabled env (front ++ nodes) d := by
  obtain ⟨before, after, rfl, hbefore⟩ := h
  exact ⟨front ++ before, after, (List.append_assoc ..).symm,
    List.forall_mem_append.mpr ⟨hfront, hbefore⟩⟩

theorem self (enabled : List Method) (env : Env) (d : Expr) : Reaches enabled env [d] d :=
  ⟨[], [], rfl, by simp⟩

/-- A node is reached behind its parts. -/
theorem last (h : ∀ b ∈ nodes, ∃ v, eval enabled env b = .ok v) (d : Expr) :
    Reaches enabled env (nodes ++ [d]) d :=
  ⟨nodes, [], rfl, h⟩

/-- A node with a value is reached. -/
theorem of_eval (h : eval enabled env e = .ok v) : Reaches enabled env e.nodes e := by
  obtain ⟨init, hinit⟩ := exists_nodes_eq e
  have hvalues := exists_value_of_mem_nodes h
  rw [hinit] at hvalues ⊢
  exact last (fun b hb => hvalues b (List.mem_append_left _ hb)) e

theorem exists_value_of_mem_flatMap
    (h : ∀ e ∈ operands, ∃ v, eval enabled env e = .ok v) :
    ∀ b ∈ operands.flatMap Expr.nodes, ∃ v, eval enabled env b = .ok v := by
  intro b hb
  obtain ⟨e, he, hb⟩ := List.mem_flatMap.mp hb
  obtain ⟨v, hv⟩ := h e he
  exact exists_value_of_mem_nodes hv b hb

/-- The nodes of an operand are reached if the operands before it have values. -/
theorem concat {front back : List Expr} (h : Reaches enabled env e.nodes d)
    (hfront : ∀ e' ∈ front, ∃ v, eval enabled env e' = .ok v) :
    Reaches enabled env (concat (front ++ e :: back)).nodes d := by
  rw [nodes, nodesOf_eq_flatMap, List.flatMap_append, List.flatMap_cons]
  exact ((h.append _).append_left (exists_value_of_mem_flatMap hfront)).append _

end Reaches

theorem FirstFaulty.mem {nodes : List Expr} (h : FirstFaulty enabled env nodes d err) : d ∈ nodes :=
  (firstFaulty_iff.mp h).1.mem

/-- An expression without a value fails with the fault of its first faulty node. -/
theorem exists_faulty_of_eval (h : eval enabled env e = .error err) (hw : err ≠ .unwritable) :
    ∃ d, FirstFaulty enabled env e.nodes d err := by
  simp only [firstFaulty_iff]
  induction e using Expr.induction with
  | name ident =>
    obtain ⟨hident, rfl⟩ := eval_name_eq_error_iff.mp h
    exact ⟨_, .self enabled env _, .name hident⟩
  | text value => cases h
  | hole =>
    cases h
    exact ⟨_, .self enabled env _, .hole⟩
  | attr target n ih =>
    rw [nodes]
    rcases eval_attr_eq_error_iff.mp h with ht | ⟨v, hv, hn, rfl⟩
    · obtain ⟨d, hreach, hd⟩ := ih ht
      exact ⟨d, hreach.append _, hd⟩
    · exact ⟨_, .last (exists_value_of_mem_nodes hv) _, .attr hv hn⟩
  | call target n ih =>
    rw [nodes]
    rcases eval_call_eq_error_iff.mp h with ht | ⟨v, hv, ⟨hn, rfl⟩ | ⟨_, hspell⟩⟩
    · obtain ⟨d, hreach, hd⟩ := ih ht
      exact ⟨d, hreach.append _, hd⟩
    · exact ⟨_, .last (exists_value_of_mem_nodes hv) _, .call hv hn⟩
    · exact absurd (Value.eq_unwritable_of_spell hspell) hw
  | concat operands ih =>
    obtain ⟨front, e, back, rfl, hfront, he | ⟨_, _, hspell⟩⟩ :=
      exists_operand_without_text (eval_concat_eq_error_iff.mp h)
    · obtain ⟨d, hreach, hd⟩ := ih e (by simp) he
      exact ⟨d, hreach.concat hfront, hd⟩
    · exact absurd (Value.eq_unwritable_of_spell hspell) hw

/-- A number that is too long to be written out belongs to the value of a node that is reached, and
another node needs the text of that value. -/
theorem exists_written_of_eval (h : eval enabled env e = .error .unwritable) :
    ∃ c v, Reaches enabled env e.nodes c ∧ eval enabled env c = .ok v ∧ v.writable = false ∧
      ∃ d ∈ e.nodes, Writes enabled d c ∧ eval enabled env d = .error .unwritable := by
  induction e using Expr.induction with
  | name ident => cases (eval_name_eq_error_iff.mp h).2
  | text value | hole => cases h
  | attr target n ih =>
    rcases eval_attr_eq_error_iff.mp h with ht | ⟨_, _, _, herr⟩
    · obtain ⟨c, v, hreach, hv, hlong, d, hd, hwrites⟩ := ih ht
      exact ⟨c, v, hreach.append _, hv, hlong, d, List.mem_append_left _ hd, hwrites⟩
    · cases herr
  | call target n ih =>
    rcases eval_call_eq_error_iff.mp h with ht | ⟨v, hv, ⟨_, herr⟩ | ⟨⟨m, hm⟩, hspell⟩⟩
    · obtain ⟨c, v, hreach, hv, hlong, d, hd, hwrites⟩ := ih ht
      exact ⟨c, v, hreach.append _, hv, hlong, d, List.mem_append_left _ hd, hwrites⟩
    · cases herr
    · obtain rfl : m.name = n := by simpa using List.find?_some hm
      exact ⟨target, v, (Reaches.of_eval hv).append _, hv, (Value.spell_eq_error_iff.mp hspell).1,
        _, self_mem_nodes _, .receiver (List.mem_of_find?_eq_some hm), h⟩
  | concat operands ih =>
    obtain ⟨front, e, back, rfl, hfront, he | ⟨v, hv, hspell⟩⟩ :=
      exists_operand_without_text (eval_concat_eq_error_iff.mp h)
    · obtain ⟨c, v, hreach, hv, hlong, d, hd, hwrites⟩ := ih e (by simp) he
      refine ⟨c, v, hreach.concat hfront, hv, hlong, d, ?_, hwrites⟩
      rw [nodes, nodesOf_eq_flatMap]
      exact List.mem_append_left _ (List.mem_flatMap.mpr ⟨e, by simp, hd⟩)
    · exact ⟨e, v, (Reaches.of_eval hv).concat hfront, hv, (Value.spell_eq_error_iff.mp hspell).1,
        _, self_mem_nodes _, .operand (by simp), h⟩

/-- If a number is too long to be written out, it belongs to the value of a node. -/
theorem exists_unwritable_of_eval (h : eval enabled env e = .error .unwritable) :
    ∃ d ∈ e.nodes, ∃ v, eval enabled env d = .ok v ∧ v.writable = false := by
  obtain ⟨c, v, hreach, hv, hlong, _⟩ := exists_written_of_eval h
  exact ⟨c, hreach.mem, v, hv, hlong⟩

/-- Evaluation depends on the values of the names that the expression reads. -/
theorem eval_congr (h : ∀ n ∈ e.roots, env n = env' n) :
    eval enabled env e = eval enabled env' e := by
  induction e using Expr.induction with
  | name ident => rw [eval_name, eval_name, h ident List.mem_cons_self]
  | text value | hole => rfl
  | attr target n ih => rw [eval_attr, eval_attr, ih h]
  | call target n ih => rw [eval_call, eval_call, ih h]
  | concat operands ih =>
    have hoperands : ∀ e ∈ operands, eval enabled env e = eval enabled env' e := fun e he =>
      ih e he fun n hn => h n (mem_roots_concat.mpr ⟨e, he, hn⟩)
    rw [eval_concat, eval_concat, evalAll_congr hoperands]

/-! ## Sources -/

variable {source text : Text}

theorem evaluate_eq_ok_iff :
    evaluate enabled env source = .ok text ↔
      ∃ e, parse source.trim = .ok e ∧ ∃ v, eval enabled env e = .ok v ∧ v.spell = .ok text := by
  rw [evaluate]
  cases parse source.trim with
  | error error => simp
  | ok e =>
    simp only [Except.ok.injEq, exists_eq_left']
    exact bind_eq_ok_iff

theorem evaluate_eq_error_iff :
    evaluate enabled env source = .error err ↔
      (∃ error, parse source.trim = .error error ∧ err = .badSyntax error) ∨
        ∃ e, parse source.trim = .ok e ∧ (eval enabled env e = .error err ∨
          ∃ v, eval enabled env e = .ok v ∧ v.spell = .error err) := by
  rw [evaluate]
  cases parse source.trim with
  | error error => simp [eq_comm]
  | ok e =>
    simp only [reduceCtorEq, false_and, exists_false, false_or, Except.ok.injEq, exists_eq_left']
    exact bind_eq_error_iff

theorem evaluate_congr {e : Expr} (he : parse source.trim = .ok e)
    (h : ∀ n ∈ e.roots, env n = env' n) :
    evaluate enabled env source = evaluate enabled env' source := by
  simp only [evaluate, he, eval_congr h]

end Expr

end TripleQuote
