import CounterTable.Proofs.Sql.Equations
import CounterTable.Sql.Statement

/-!
# The statement of a text

A text that is read as a statement has this statement alone: its tokens are one, perhaps with
semicolons around it, and what that is recognised as is all that the text is read as.

* `exists_of_statements`, `exists_of_statementsWithin`: the tokens, and the statement among them;
* `statements_of_tokenize`: a text is read by its tokens;
* **`Statement.ofText_eq_ok_iff`**: the statement that is recognised.
-/

namespace CounterTable

open CounterTable.Sql

namespace Sql.Grammar

variable {text : List Char} {ts us : List Token} {c : Clause} {n : Nat}

theorem statements_of_tokenize (h : tokenize text = some ts) :
    statements text = (statementsWithin (ts.length + 1) ts).map Prod.fst := by
  rw [statements, h]
  exact (Option.map_eq_bind ..).symm

theorem exists_of_statements (h : statements text = some [c]) :
    ∃ ts us, tokenize text = some ts ∧ statementsWithin (ts.length + 1) ts = some ([c], us) := by
  obtain ⟨ts, hts, hclauses⟩ := Option.bind_eq_some_iff.mp h
  obtain ⟨⟨cs, us⟩, hwithin, heq⟩ := Option.bind_eq_some_iff.mp hclauses
  cases heq
  exact ⟨ts, us, hts, hwithin⟩

theorem exists_of_statementsWithin (h : statementsWithin (n + 1) ts = some ([c], us)) :
    ∃ vs ws, skip (many do if ← symbol? ";" then return some () else return none) ts =
        some ((), vs) ∧ (nesting depthLimit).clause vs = some (c, ws) := by
  unfold statementsWithin at h
  obtain ⟨⟨⟩, vs, hskip, h⟩ := exists_of_bind h
  obtain ⟨t, ws, hpeek, h⟩ := exists_of_bind h
  obtain rfl : vs = ws := by
    cases hpeek
    rfl
  clear hpeek
  split at h
  · cases h
  · obtain ⟨first, ws, hfirst, h⟩ := exists_of_bind h
    obtain ⟨t, xs, -, h⟩ := exists_of_bind h
    have heq : first = c := by
      split at h
      · cases h
        rfl
      · obtain ⟨cs, xs, -, h⟩ := exists_of_bind h
        cases h
        rfl
      · obtain ⟨⟨⟩, xs, -, h⟩ := exists_of_bind h
        cases h
        rfl
      · cases h
    exact ⟨vs, ws, hskip, heq ▸ hfirst⟩

end Sql.Grammar

namespace Statement

variable {text : String} {c : Clause} {s : Statement}

theorem ofText_of_statements (h : Grammar.statements text.toList = some [c]) :
    ofText text = ((ofClause c).run 0).map Prod.fst := by
  rw [ofText, h]

/-- **The statement** that a text is read as is what the one in the text is recognised as. -/
theorem ofText_eq_ok_iff : ofText text = .ok s ↔ ∃ c m,
    Grammar.statements text.toList = some [c] ∧ (ofClause c).run 0 = .ok (s, m) := by
  constructor
  · intro h
    unfold ofText at h
    split at h
    · cases h
    · next c hc =>
      cases hrun : (ofClause c).run 0 with
      | error e =>
        rw [hrun] at h
        cases h
      | ok r =>
        rw [hrun] at h
        cases h
        exact ⟨c, r.2, hc, hrun⟩
    · cases h
  · rintro ⟨c, m, hc, hrun⟩
    rw [ofText_of_statements hc, hrun]
    rfl

end Statement

end CounterTable
