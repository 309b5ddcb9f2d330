import CounterTable.Proofs.Sql.AnyName
import CounterTable.Proofs.Store.Rows

/-!
# Statements by their first word

A text that begins with a word for what is done to rows is not understood as a statement that
creates or drops a table, whatever follows the word.

* `Grammar.Yields`: what a parser can answer;
* `Grammar.insert_yields`, `Grammar.update_yields`: what is read behind such a word;
* **`Statement.onRows_of_ofText`**: the statement of such a text.
-/

namespace CounterTable

open CounterTable.Sql

namespace Sql.Grammar

variable {α β : Type} {P : β → Prop} {p : Parser α} {f : α → Parser β} {g : Nesting}

/-- All answers of the parser are of this kind. -/
def Yields (P : β → Prop) (p : Parser β) : Prop := ∀ ts b us, p ts = some (b, us) → P b

namespace Yields

theorem pure {b : β} (h : P b) : Yields P (Pure.pure b : Parser β) := by
  intro ts b' us hb
  cases hb
  exact h

theorem bind (h : ∀ a, Yields P (f a)) : Yields P (p >>= f) := by
  intro ts b us hb
  obtain ⟨a, vs, -, hb⟩ := exists_of_bind hb
  exact h a vs b us hb

theorem ite {c : Prop} [Decidable c] {q r : Parser β} (hq : Yields P q) (hr : Yields P r) :
    Yields P (if c then q else r) := by
  split
  · exact hq
  · exact hr

end Yields

theorem insert_yields (g : Nesting) :
    Yields (fun c => ∃ table columns source, c = .insert table columns source) (insert g) := by
  refine .bind fun _ => .bind fun _ => .bind fun _ => .bind fun _ => .bind fun _ => .bind fun _ =>
    .bind fun _ => .bind fun table => .bind fun _ => ?_
  have hends : ∀ read : List Ident × Option Query,
      Yields (fun c => ∃ table columns source, c = Clause.insert table columns source) (do
        phraseMaybe ["AS"] (do
          skip objectName
          optionalColumns)
        phraseMaybe ["ON"] (onConflict g)
        returning g
        return .insert table read.1 read.2) := fun read =>
    .bind fun _ => .bind fun _ => .bind fun _ => .pure ⟨table, read.1, read.2, rfl⟩
  exact .ite (.bind hends) (.bind fun _ => .bind fun _ => .bind hends)

theorem update_yields (g : Nesting) :
    Yields (fun c => ∃ source changes filter, c = .update source changes filter) (update g) := by
  refine .bind fun _ => .bind fun source => .bind fun early => .bind fun _ =>
    .bind fun changes => ?_
  have hends : ∀ _ : Unit,
      Yields (fun c => ∃ source changes filter, c = Clause.update source changes filter) (do
        let filter ← whenever (← keyword? "WHERE") (g.any false)
        returning g
        phraseMaybe ["LIMIT"] (g.any false)
        return .update source.1.relation changes filter) := fun _ =>
    .bind fun _ => .bind fun filter => .bind fun _ => .bind fun _ => .pure ⟨_, _, _, rfl⟩
  exact .ite (hends ()) (.bind hends)

end Sql.Grammar

namespace Statement

open Grammar

variable {s : Statement} {n m : Nat}

theorem onRows_of_insertion {table : List Ident} {source : Option Query}
    (h : (insertion table source).run n = .ok (s, m)) : s.OnRows := by
  unfold insertion at h
  split at h
  · cases h
  · split at h
    · obtain ⟨⟨rows, k⟩, -, h⟩ := exists_of_bind_eq_ok h
      cases h
      trivial
    · cases h

theorem onRows_of_selection {q : Query} (h : (selection q).run n = .ok (s, m)) : s.OnRows := by
  unfold selection at h
  split at h
  · split at h
    · split at h
      · obtain ⟨⟨items, k⟩, -, h⟩ := exists_of_bind_eq_ok h
        obtain ⟨⟨filter, l⟩, -, h⟩ := exists_of_bind_eq_ok h
        cases h
        trivial
      · cases h
    · cases h
  · cases h

theorem onRows_of_updating {source : Relation} {changes : List (Target × Expr)}
    {filter : Option Expr}
    (h : (ofClause (.update source changes filter)).run n = .ok (s, m)) : s.OnRows := by
  cases source with
  | other => cases h
  | table name hinted =>
    obtain ⟨⟨assignments, k⟩, -, h⟩ := exists_of_bind_eq_ok h
    obtain ⟨⟨condition, l⟩, -, h⟩ := exists_of_bind_eq_ok h
    cases h
    trivial

/-- **A statement that begins with a word for what is done to rows** creates and drops no table. -/
theorem onRows_of_ofText {text w word : String}
    (htext : ∃ rest, text.toList = w.toList ++ ' ' :: rest)
    (hw : (w, word) ∈ [("insert", "INSERT"), ("select", "SELECT"), ("update", "UPDATE")])
    (h : ofText text = .ok s) : s.OnRows := by
  obtain ⟨rest, htext⟩ := htext
  obtain ⟨ts, hts, hclause⟩ := exists_clause h
  rw [htext] at hts
  have hspelling : ∀ p ∈ [("insert", "INSERT"), ("select", "SELECT"), ("update", "UPDATE")],
      p ∈ Lexer.spelling := by decide
  obtain ⟨us, rfl, -⟩ := hts.of_keyword word (hspelling _ hw)
  obtain ⟨c, vs, n, hc, hrun⟩ := hclause _ _ _ rfl
  simp only [List.mem_cons, Prod.mk.injEq, List.not_mem_nil, or_false] at hw
  rcases hw with ⟨rfl, rfl⟩ | ⟨rfl, rfl⟩ | ⟨rfl, rfl⟩
  · have hinsert : Grammar.insert (nesting 49) us = some (c, vs) := hc
    obtain ⟨table, columns, source, rfl⟩ := insert_yields (nesting 49) _ _ _ hinsert
    exact onRows_of_insertion hrun
  · have hquery : (Clause.query <$> (nesting 49).query : Parser Clause)
        (.keyword "SELECT" "select" :: us) = some (c, vs) := hc
    obtain ⟨q, -, rfl⟩ := exists_of_map hquery
    exact onRows_of_selection hrun
  · have hupdate : Grammar.update (nesting 49) us = some (c, vs) := hc
    obtain ⟨source, changes, filter, rfl⟩ := update_yields (nesting 49) _ _ _ hupdate
    exact onRows_of_updating hrun

end Statement

end CounterTable
