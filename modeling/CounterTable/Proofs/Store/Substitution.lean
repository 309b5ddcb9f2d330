import CounterTable.Proofs.Store.Failures
import Mathlib.Data.List.Induction

/-!
# Parameters and literals

A statement depends on its operands only through their values. Binding the parameters of a prepared
statement therefore comes to the same as writing their values into it: whatever kind of statement it
is, whichever operands are looked at before others, and in whatever order the values are bound.

* `Statement.operands`, `Statement.parameters`: what stands for values in a statement;
* `Statement.mapOperands`, `Statement.substitute`: other operands, and literals for parameters;
* **`Turn.execute_mapOperands`**: a statement with other operands of the same values;
* `Bindings.lastBound`, `Bindings.get?_ofCalls`: what is bound after some calls;
* `Database.SameBut`: databases that differ in what one connection has prepared;
* **`Database.bindings_substituted`**: a prepared statement whose parameters are bound.
-/

namespace CounterTable

/-! ## Operands -/

namespace Operand

/-- The position of a parameter. -/
def parameter? : Operand → Option Nat
  | literal _ => none
  | param position => some position

/-- A literal for each parameter. -/
def substitute (f : Nat → Int64) : Operand → Operand
  | literal v => literal v
  | param position => literal (f position)

end Operand

/-- A filter on another operand. -/
def Filter.mapOperand (g : Operand → Operand) (filter : Filter) : Filter :=
  { filter with value := g filter.value }

namespace Statement

/-- The operands of a statement. -/
def operands : Statement → List Operand
  | createTable .. | dropTable .. => []
  | insert _ rows => rows.flatten
  | select _ _ filter _ => filter.toList.map Filter.value
  | update _ assignments filter => assignments.map Prod.snd ++ filter.toList.map Filter.value

/-- The positions of the parameters of a statement. -/
def parameters (s : Statement) : List Nat := s.operands.filterMap Operand.parameter?

/-- A statement with other operands. -/
def mapOperands (g : Operand → Operand) : Statement → Statement
  | createTable table columns ifNotExists => createTable table columns ifNotExists
  | dropTable table ifExists => dropTable table ifExists
  | insert table rows => insert table (rows.map (·.map g))
  | select table projection filter forUpdate =>
    select table projection (filter.map (Filter.mapOperand g)) forUpdate
  | update table assignments filter =>
    update table (assignments.map fun a => (a.1, g a.2)) (filter.map (Filter.mapOperand g))

/-- A statement with literals for its parameters. -/
def substitute (f : Nat → Int64) (s : Statement) : Statement := s.mapOperands (.substitute f)

theorem returnsRows_mapOperands (g : Operand → Operand) (s : Statement) :
    (s.mapOperands g).returnsRows = s.returnsRows := by
  cases s <;> rfl

end Statement

/-! ## Tables -/

theorem mapM_map_congr {α β γ ε : Type} {f : α → β} {g : β → Except ε γ} {g' : α → Except ε γ}
    {l : List α} (h : ∀ a ∈ l, g (f a) = g' a) : (l.map f).mapM g = l.mapM g' := by
  induction l with
  | nil => rfl
  | cons a l ih =>
    rw [List.map_cons, List.mapM_cons, List.mapM_cons, h a List.mem_cons_self,
      ih fun b hb => h b (List.mem_cons_of_mem a hb)]

namespace Table

variable {b b' : Bindings} {g : Operand → Operand}

theorem condition_mapOperand (t : Table) {filter : Option Filter}
    (h : ∀ f ∈ filter, b'.resolve (g f.value) = b.resolve f.value) :
    t.condition b' (filter.map (Filter.mapOperand g)) = t.condition b filter := by
  cases filter with
  | none => rfl
  | some f =>
    rw [Option.map_some, condition, condition, Filter.mapOperand, h f rfl]

theorem changes_mapOperands (t : Table) {assignments : List (String × Operand)}
    (h : ∀ a ∈ assignments, b'.resolve (g a.2) = b.resolve a.2) :
    t.changes b' (assignments.map fun a => (a.1, g a.2)) = t.changes b assignments :=
  mapM_map_congr fun a ha => by
    obtain ⟨column, o⟩ := a
    change (do let i ← t.columnIndex column; return (i, ← b'.resolve (g o))) = _
    rw [h (column, o) ha]

theorem newRows_mapOperands (t : Table) (name : String) {rows : List (List Operand)}
    (h : ∀ row ∈ rows, ∀ o ∈ row, b'.resolve (g o) = b.resolve o) :
    t.newRows name b' (rows.map (·.map g)) = t.newRows name b rows :=
  mapM_map_congr fun row hrow => by rw [List.length_map, mapM_map_congr (h row hrow)]

theorem select_mapOperand (t : Table) (reader : Nat) (items : List Projection)
    {filter : Option Filter} (h : ∀ f ∈ filter, b'.resolve (g f.value) = b.resolve f.value) :
    t.select reader items (filter.map (Filter.mapOperand g)) b' =
      t.select reader items filter b := by
  rw [select, select, condition_mapOperand t h]

end Table

/-! ## Turns -/

namespace Turn

variable {id : Nat} {b b' : Bindings} {s : Statement}

/-- **Operands of the same values** make statements that answer the same and leave the same, also
where they fail. -/
theorem execute_mapOperands {g : Operand → Operand}
    (h : ∀ o ∈ s.operands, b'.resolve (g o) = b.resolve o) :
    execute id b' (s.mapOperands g) = execute id b s := by
  cases s with
  | createTable | dropTable => rfl
  | insert name rows =>
    have hrows : ∀ row ∈ rows, ∀ o ∈ row, b'.resolve (g o) = b.resolve o := fun row hrow o ho =>
      h o (List.mem_flatten_of_mem hrow ho)
    funext t
    simp only [Statement.mapOperands, execute, insert, Table.newRows_mapOperands _ _ hrows]
  | select name items filter forUpdate =>
    have hfilter : ∀ f ∈ filter, b'.resolve (g f.value) = b.resolve f.value := fun f hf =>
      h f.value (List.mem_map_of_mem (Option.mem_toList.mpr hf))
    funext t
    simp only [Statement.mapOperands, execute, select, Table.select_mapOperand _ _ _ hfilter]
  | update name assignments filter =>
    have hassignments : ∀ a ∈ assignments, b'.resolve (g a.2) = b.resolve a.2 := fun a ha =>
      h a.2 (List.mem_append_left _ (List.mem_map_of_mem ha))
    have hfilter : ∀ f ∈ filter, b'.resolve (g f.value) = b.resolve f.value := fun f hf =>
      h f.value (List.mem_append_right _ (List.mem_map_of_mem (Option.mem_toList.mpr hf)))
    funext t
    simp only [Statement.mapOperands, execute, update, Table.changes_mapOperands _ hassignments,
      Table.condition_mapOperand _ hfilter]

theorem execute_substitute {f : Nat → Int64}
    (h : ∀ p ∈ s.parameters, b.resolve (.param p) = .ok (f p)) :
    execute id b' (s.substitute f) = execute id b s := by
  refine execute_mapOperands fun o ho => ?_
  cases o with
  | literal v => rfl
  | param p => exact (h p (List.mem_filterMap.mpr ⟨_, ho, rfl⟩)).symm

end Turn

/-! ## Bindings -/

namespace Keyed

variable {κ α : Type} [BEq κ] [LawfulBEq κ]

theorem set_set (m : Keyed κ α) (k : κ) (a a' : α) : (m.set k a).set k a' = m.set k a' := by
  have herase : (m.set k a).erase k = m.erase k := by simp [set, erase, List.filter_filter]
  exact congrArg ((k, a') :: ·) herase

end Keyed

namespace Bindings

/-- The bindings after a call; there is no position 0. -/
def afterCall (b : Bindings) (call : Nat × Value) : Bindings :=
  if call.1 = 0 then b else b.set call.1 call.2

/-- The bindings after some calls on a statement that has just been prepared. -/
def ofCalls (calls : List (Nat × Value)) : Bindings := calls.foldl afterCall []

/-- The value of the last call that was made for a position; there is no position 0. -/
def lastBound (calls : List (Nat × Value)) (p : Nat) : Option Value :=
  ((calls.filter (·.1 ≠ 0)).reverse).lookup p

/-- **What is bound** is what was bound last. -/
theorem get?_ofCalls (calls : List (Nat × Value)) (p : Nat) :
    (ofCalls calls).get? p = lastBound calls p := by
  induction calls using List.reverseRecOn with
  | nil => rfl
  | append_singleton calls call ih =>
    rw [ofCalls, List.foldl_concat, ← ofCalls, lastBound, List.filter_append, List.reverse_append,
      afterCall]
    by_cases hzero : call.1 = 0
    · rw [if_pos hzero, ih, List.filter_cons_of_neg (by simpa using hzero)]
      rfl
    · rw [if_neg hzero, List.filter_cons_of_pos (by simpa using hzero), Keyed.get?_set, ih]
      change _ = List.lookup p ((call.1, call.2) :: _)
      rw [List.lookup_cons]
      cases p == call.1 <;> rfl

end Bindings

/-! ## Databases -/

namespace Database

variable {db : Database} {id : Nat} {link : Link}

/-- The database in which a connection has prepared a statement. -/
def withPrepared (db : Database) (id : Nat) (link : Link) (p : Prepared) : Database :=
  { db with links := db.links.set id { link with prepared := some p } }

theorem prepared?_withPrepared (db : Database) (id : Nat) (link : Link) (p : Prepared) :
    (db.withPrepared id link p).prepared? id = .ok ({ link with prepared := some p }, p) := by
  rw [prepared?_eq_ok]
  simp [withPrepared]

/-- The database after values are bound, one after another. -/
def bindAll (id : Nat) (calls : List (Nat × Value)) (db : Database) : Database :=
  calls.foldl (fun db call => db.after (.call id (.bind call.1 call.2))) db

theorem after_bind_withPrepared (p : Prepared) (call : Nat × Value) :
    (db.withPrepared id link p).after (.call id (.bind call.1 call.2)) =
      db.withPrepared id link { p with bindings := p.bindings.afterCall call } := by
  change (bind id call.1 call.2 _).2 = _
  rw [bind, prepared?_withPrepared, Bindings.afterCall]
  by_cases hzero : call.1 = 0
  · simp only [hzero, if_true]
  · simp only [hzero, if_false, withPrepared, Keyed.set_set]

theorem bindAll_withPrepared (p : Prepared) (calls : List (Nat × Value)) :
    bindAll id calls (db.withPrepared id link p) =
      db.withPrepared id link { p with bindings := calls.foldl Bindings.afterCall p.bindings } := by
  induction calls generalizing p with
  | nil => rfl
  | cons call calls ih =>
    rw [bindAll, List.foldl_cons, after_bind_withPrepared, ← bindAll, ih]
    rfl

/-- Two databases that differ at most in what one connection has prepared. -/
structure SameBut (id : Nat) (db db' : Database) : Prop where
  storage : db'.storage = db.storage
  opened : db'.opened = db.opened
  transaction : db'.transaction? id = db.transaction? id
  others : ∀ c, c ≠ id → db'.links.get? c = db.links.get? c

theorem sameBut_withPrepared (db : Database) (id : Nat) (link : Link) (p p' : Prepared) :
    SameBut id (db.withPrepared id link p) (db.withPrepared id link p') where
  storage := rfl
  opened := rfl
  transaction := by simp [transaction?, withPrepared]
  others c hc := by simp [withPrepared, hc]

theorem run_withPrepared (b : Bindings) (s : Statement) (p : Prepared) :
    run id b s (db.withPrepared id link p) =
      let (r, t) := Turn.execute id b s ⟨db.storage, link.transaction⟩
      (r, { db with storage := t.storage }.withPrepared id
        { link with transaction := t.transaction } p) := by
  rw [run_eq (prepared?_eq_ok.mp (prepared?_withPrepared db id link p)).1, withTurn_eq]
  refine Prod.ext rfl ?_
  simp only [settle, withPrepared, Keyed.set_set]

theorem calls_withPrepared {p p' : Prepared} (hsql : p'.sql = p.sql)
    (hrows : p'.statement.returnsRows = p.statement.returnsRows)
    (h : Turn.execute id p'.bindings p'.statement = Turn.execute id p.bindings p.statement) :
    let db₁ := db.withPrepared id link p
    let db₂ := db.withPrepared id link p'
    (query id db₂).1 = (query id db₁).1 ∧ SameBut id (query id db₁).2 (query id db₂).2 ∧
      (update id db₂).1 = (update id db₁).1 ∧ SameBut id (update id db₁).2 (update id db₂).2 := by
  intro db₁ db₂
  have hp := prepared?_withPrepared db id link p
  have hp' := prepared?_withPrepared db id link p'
  rw [query_eq_run hp, query_eq_run hp', update_eq_run hp, update_eq_run hp', hsql, hrows,
    run_withPrepared, run_withPrepared, h]
  refine ⟨rfl, sameBut_withPrepared .., ?_⟩
  split
  · exact ⟨rfl, sameBut_withPrepared ..⟩
  · exact ⟨rfl, sameBut_withPrepared ..⟩

/-- **Binding is substituting.** A connection prepares a statement, and calls bind values to its
parameters, in any order, some of them perhaps more than once, and perhaps some that the statement
does not have. If what is bound last to each parameter is read as an integer, then the statement
does and answers what it does and answers, without bindings, with these integers as literals for its
parameters: when it is run, and when it is executed for rows or for a count. -/
theorem bindings_substituted {sql : String} {s : Statement} {calls : List (Nat × Value)}
    {f : Nat → Int64} (hl : db.links.get? id = some link) (hs : Statement.ofText sql = .ok s)
    (h : ∀ p ∈ s.parameters, ∃ v, Bindings.lastBound calls p = some v ∧ v.word? = some (f p)) :
    let bound := bindAll id calls (db.after (.call id (.prepare sql)))
    let plain := db.withPrepared id link ⟨sql, s.substitute f, []⟩
    (∃ link' b, bound.prepared? id = .ok (link', ⟨sql, s, b⟩) ∧
        run id b s bound = run id [] (s.substitute f) bound) ∧
      (query id bound).1 = (query id plain).1 ∧ SameBut id (query id plain).2 (query id bound).2 ∧
      (update id bound).1 = (update id plain).1 ∧
        SameBut id (update id plain).2 (update id bound).2 := by
  intro bound plain
  have hbound : bound = db.withPrepared id link ⟨sql, s, Bindings.ofCalls calls⟩ :=
    (congrArg (bindAll id calls) (after_prepare hl hs)).trans
      (bindAll_withPrepared ⟨sql, s, []⟩ calls)
  have hexecute : Turn.execute id [] (s.substitute f) =
      Turn.execute id (Bindings.ofCalls calls) s := by
    refine Turn.execute_substitute fun p hp => ?_
    obtain ⟨v, hv, hword⟩ := h p hp
    simp only [Bindings.resolve, Bindings.get?_ofCalls, hv, hword]
  rw [hbound]
  refine ⟨⟨_, _, prepared?_withPrepared .., ?_⟩, ?_⟩
  · rw [run_withPrepared, run_withPrepared, hexecute]
  · exact calls_withPrepared rfl (Statement.returnsRows_mapOperands _ s).symm hexecute.symm

/-- Values that are bound out of order, one of them twice, one at a position that there is not, and
one as a text. -/
def scattered : List (Nat × Value) :=
  [(0, .integer 9), (2, .text " 7 "), (1, .integer 5), (4, .null), (1, .integer 6)]

/-- The statement of these values. -/
def tripled : Statement := .insert "t" [[.param 2], [.param 1], [.literal (-3)]]

theorem bindings_substituted_scattered :
    let sql := "insert into t values ($2), (?), (-3)"
    let bound := bindAll 1 scattered (ready.after (.call 1 (.prepare sql)))
    let plain := ready.withPrepared 1 {}
      ⟨sql, .insert "t" [[.literal 7], [.literal 6], [.literal (-3)]], []⟩
    (update 1 bound).1 = (update 1 plain).1 ∧ SameBut 1 (update 1 plain).2 (update 1 bound).2 ∧
      (update 1 bound).2.storage.get? "t" = some ⟨["v"], [[7], [6], [-3]], none, none⟩ := by
  intro sql bound plain
  have hs : Statement.ofText sql = .ok tripled := by decide +kernel
  have hbound : ∀ p ∈ tripled.parameters, ∃ v, Bindings.lastBound scattered p = some v ∧
      v.word? = some (if p = 1 then 6 else 7) :=
    List.forall_mem_cons.mpr ⟨⟨.text " 7 ", by decide +kernel, by decide +kernel⟩,
      List.forall_mem_cons.mpr ⟨⟨.integer 6, by decide +kernel, by decide +kernel⟩, nofun⟩⟩
  have hl : ready.links.get? 1 =
      some ⟨none, some ⟨"insert into t values (5)", .insert "t" [[.literal 5]], []⟩⟩ := rfl
  obtain ⟨-, -, -, hanswer, hafter⟩ := bindings_substituted hl hs hbound
  refine ⟨hanswer, hafter, ?_⟩
  rw [hafter.storage]
  rfl

end Database

end CounterTable
