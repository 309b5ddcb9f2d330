import CounterTable.Proofs.Number.Integral
import CounterTable.Proofs.Sql.Texts

/-!
# Parameters of statements

A parameter is found by its position among the bound values, and positions count from 1. Whatever
text a statement is read from, each of its parameters has such a position.

* `Operand.Placed`, `Statement.Placed`: parameters with a position;
* `Statement.placed_operand`: the operands of expressions;
* **`Statement.placed_of_ofText`**: the statements that are read.
-/

namespace CounterTable

open CounterTable.Sql CounterTable.Text

/-- A parameter has a position; positions count from 1. -/
def Operand.Placed : Operand → Prop
  | .literal _ => True
  | .param position => 1 ≤ position

/-- The value that a filter compares with has a position, if it is a parameter. -/
def Filter.Placed (filter : Option Filter) : Prop := ∀ f ∈ filter, f.value.Placed

/-- All parameters of a statement have positions. -/
def Statement.Placed : Statement → Prop
  | .createTable .. | .dropTable .. => True
  | .insert _ rows => ∀ row ∈ rows, ∀ o ∈ row, o.Placed
  | .select _ _ filter _ => Filter.Placed filter
  | .update _ assignments filter => (∀ a ∈ assignments, a.2.Placed) ∧ Filter.Placed filter

namespace Statement

variable {α β : Type} {n m : Nat}

/-! ## Recognitions that succeed -/

theorem exists_of_run_bind {x : Recognition α} {f : α → Recognition β} {b : β}
    (h : (x >>= f).run n = .ok (b, m)) :
    ∃ a k, x.run n = .ok (a, k) ∧ (f a).run k = .ok (b, m) := by
  rw [StateT.run_bind] at h
  obtain ⟨⟨a, k⟩, hx, hf⟩ := exists_of_bind_eq_ok h
  exact ⟨a, k, hx, hf⟩

theorem exists_of_run_mapM {f : α → Recognition β} {l : List α} {bs : List β}
    (h : (l.mapM f).run n = .ok (bs, m)) {b : β} (hb : b ∈ bs) :
    ∃ a ∈ l, ∃ i j, (f a).run i = .ok (b, j) := by
  induction l generalizing n bs with
  | nil =>
    cases h
    cases hb
  | cons a l ih =>
    rw [List.mapM_cons] at h
    obtain ⟨c, k, hc, h⟩ := exists_of_run_bind h
    obtain ⟨cs, k', hcs, h⟩ := exists_of_run_bind h
    cases h
    rcases List.mem_cons.mp hb with rfl | hb
    · exact ⟨a, List.mem_cons_self, n, k, hc⟩
    · obtain ⟨a', ha', hrun⟩ := ih hcs hb
      exact ⟨a', List.mem_cons_of_mem a ha', hrun⟩

/-! ## Operands and filters -/

theorem placed_placeholder {text : String} {o : Operand}
    (h : placeholder text n = .ok (o, m)) : o.Placed := by
  unfold placeholder at h
  split at h
  · cases h
    exact Nat.succ_pos n
  · split at h
    · next position =>
      split at h
      · next hposition =>
        cases h
        exact hposition.1
      · cases h
    · cases h
  · cases h

theorem placed_negate {o o' : Operand} (h : negate o = .ok o') : o'.Placed := by
  unfold negate at h
  split at h
  · split at h
    · cases h
      trivial
    · cases h
  · cases h

/-- **A parameter** that an expression stands for has a position. -/
theorem placed_operand {e : Expr} {o : Operand} (h : (operand e).run n = .ok (o, m)) :
    o.Placed := by
  induction e generalizing n m o with
  | nested e ih => exact ih h
  | negated e ih =>
    obtain ⟨v, k, -, hv⟩ := exists_of_run_bind h
    cases hneg : negate v with
    | error error =>
      rw [hneg] at hv
      cases hv
    | ok o' =>
      rw [hneg] at hv
      cases hv
      exact placed_negate hneg
  | number text long =>
    unfold operand at h
    split at h
    · cases h
      trivial
    · cases h
  | placeholder text behind => exact placed_placeholder h
  | column | literal | equation | other => cases h

theorem placed_filter {e : Expr} {f : Filter} (h : (filter e).run n = .ok (f, m)) :
    f.value.Placed := by
  induction e generalizing n m f with
  | nested e ih => exact ih h
  | equation l r =>
    obtain ⟨c, k, -, h⟩ := exists_of_run_bind h
    obtain ⟨o, k', ho, h⟩ := exists_of_run_bind h
    cases h
    exact placed_operand ho
  | column | number | placeholder | literal | negated | other => cases h

theorem placed_optionalFilter {e : Option Expr} {f : Option Filter}
    (h : (optionalFilter e).run n = .ok (f, m)) : Filter.Placed f := by
  cases e with
  | none =>
    cases h
    exact nofun
  | some e =>
    rw [optionalFilter, map_eq_pure_bind] at h
    obtain ⟨g, k, hg, h⟩ := exists_of_run_bind h
    cases h
    rintro f ⟨⟩
    exact placed_filter hg

/-! ## Statements -/

theorem placed_insertion {table : List Ident} {source : Option Query} {s : Statement}
    (h : (insertion table source).run n = .ok (s, m)) : s.Placed := by
  unfold insertion at h
  split at h
  · cases h
  · split at h
    · obtain ⟨rows, k, hrows, h⟩ := exists_of_run_bind h
      cases h
      intro row hrow o ho
      obtain ⟨exprs, -, i, j, hrun⟩ := exists_of_run_mapM hrows hrow
      obtain ⟨e, -, i', j', hoperand⟩ := exists_of_run_mapM hrun ho
      exact placed_operand hoperand
    · cases h

theorem placed_selection {q : Query} {s : Statement} (h : (selection q).run n = .ok (s, m)) :
    s.Placed := by
  unfold selection at h
  split at h
  · split at h
    · split at h
      · obtain ⟨items, k, -, h⟩ := exists_of_run_bind h
        obtain ⟨f, k', hf, h⟩ := exists_of_run_bind h
        cases h
        exact placed_optionalFilter hf
      · cases h
    · cases h
  · cases h

theorem placed_assignment {a : Target × Expr} {p : String × Operand}
    (h : (assignment a).run n = .ok (p, m)) : p.2.Placed := by
  obtain ⟨c, k, -, h⟩ := exists_of_run_bind h
  obtain ⟨o, k', ho, h⟩ := exists_of_run_bind h
  cases h
  exact placed_operand ho

theorem placed_ofClause {c : Clause} {s : Statement} (h : (ofClause c).run n = .ok (s, m)) :
    s.Placed := by
  unfold ofClause at h
  split at h
  · cases h
    trivial
  · cases h
    trivial
  · cases h
  · exact placed_insertion h
  · exact placed_selection h
  · obtain ⟨assignments, k, hassignments, h⟩ := exists_of_run_bind h
    obtain ⟨f, k', hf, h⟩ := exists_of_run_bind h
    cases h
    refine ⟨fun a ha => ?_, placed_optionalFilter hf⟩
    obtain ⟨b, -, i, j, hrun⟩ := exists_of_run_mapM hassignments ha
    exact placed_assignment hrun
  · cases h
  · cases h

/-- **The parameters of a statement** that is read from a text have positions. -/
theorem placed_of_ofText {text : String} {s : Statement} (h : ofText text = .ok s) :
    s.Placed := by
  obtain ⟨c, m, -, hrun⟩ := ofText_eq_ok_iff.mp h
  exact placed_ofClause hrun

end Statement

end CounterTable
