import CounterTable.Proofs.Sql.AnyName
import CounterTable.Proofs.Store.Accesses
import CounterTable.Proofs.Store.OneColumn

/-!
# Databases of one cell

A database with one table, which has one column and one row, and with at most one connection. Each
call on the connection is answered in one way, and the database stays of this kind.

* `Table.cell`, `Storage.lone`, `Turn.cell`: one cell, whose table may be locked;
* `Turn.select_cell`, `Turn.update_cell`: what a selection and an update can come to;
* `Database.cell`, `Database.linked`: without a connection, and with one;
* `Database.prepare_linked`, `Database.bind_linked`, `Database.query_linked`,
  `Database.update_linked`: the calls on the connection;
* `Database.of_execute_linked`: a statement without parameters.
-/

namespace CounterTable

open CounterTable.Sql

theorem Keyed.set_singleton {κ α : Type} [BEq κ] [LawfulBEq κ] (k : κ) (a b : α) :
    Keyed.set [(k, a)] k b = [(k, b)] := by
  simp [Keyed.set, Keyed.erase]

theorem Keyed.get?_singleton {κ α : Type} [BEq κ] [LawfulBEq κ] (k : κ) (a : α) :
    Keyed.get? [(k, a)] k = some a := by
  simp [Keyed.get?]

/-- A table of one cell. -/
def Table.cell (column : String) (v : Int64) : Table := { columns := [column], rows := [[v]] }

/-- The storage of one table. -/
def Storage.lone (name : String) (t : Table) : Storage := ⟨[(name, t)]⟩

/-- A table of one cell that a connection may have locked, with the transaction that holds it. -/
def Turn.cell (name column : String) (v : Int64) (id : Nat) (held : Bool) : Turn :=
  if held then
    ⟨.lone name ((Table.cell column v).acquire id), some { locked := [name] }⟩
  else ⟨.lone name (.cell column v), some {}⟩

namespace Storage

variable {name m : String} {t u : Table}

@[simp] theorem get?_lone : (lone name t).get? name = some t := Keyed.get?_singleton name t

@[simp] theorem put_lone : (lone name t).put name u = lone name u := by
  rw [lone, put, Keyed.set_singleton]
  rfl

theorem get?_lone_of_ne (h : m ≠ name) : (lone name t).get? m = none := by
  have hbeq : (m == name) = false := by simpa using h
  simp [get?, lone, Keyed.get?, List.lookup_cons, hbeq]

end Storage

namespace Table

variable {column : String} {v : Int64} {id : Nat} {t : Table} {b : Bindings}

theorem firstValue_of_select_cell (hc : t.columns = [column]) (hv : t.visibleRows id = [[v]])
    {items : List Projection} {filter : Option Filter} {q : QueryResult}
    (h : t.select id items filter b = .ok q) {value : Value} (hq : q.firstValue? = some value) :
    value = .integer v := by
  obtain ⟨columns, hcolumns, h⟩ := exists_of_bind_eq_ok h
  obtain ⟨condition, -, h⟩ := exists_of_bind_eq_ok h
  cases h
  obtain ⟨cells, hcells, hvalue⟩ := Option.bind_eq_some_iff.mp hq
  obtain ⟨row, hrow, rfl⟩ := List.mem_map.mp (List.mem_of_head? hcells)
  obtain ⟨⟨shown, i⟩, hp, rfl⟩ := List.mem_map.mp (List.mem_of_head? hvalue)
  have hone := selected_lt hcolumns _ hp
  rw [hc, List.length_singleton, Nat.lt_one_iff] at hone
  rw [hv] at hrow
  cases List.mem_singleton.mp (List.mem_of_mem_filter hrow)
  obtain rfl : i = 0 := hone
  rfl

end Table

namespace Turn

variable {name column : String} {v w : Int64} {id : Nat} {held : Bool} {b : Bindings}

theorem hold_cell : (cell name column v id false).hold id name (.cell column v) =
    cell name column v id true := by
  have hput : ∀ table, (Storage.lone name (Table.cell column v)).put name table =
      Storage.lone name table := fun _ => Storage.put_lone
  unfold cell
  rw [if_neg Bool.false_ne_true, if_pos rfl, ← hput (.acquire (.cell column v) id)]
  rfl

theorem select_cell {m : String} {items : List Projection} {filter : Option Filter}
    {forUpdate : Bool} {r : Reply} {t : Turn}
    (h : select id b m items filter forUpdate (.cell name column v id false) = (.ok r, t)) :
    ∃ q, r = .rows q ∧ t = .cell name column v id forUpdate ∧
      ∀ value, q.firstValue? = some value → value = .integer v := by
  have hg : (cell name column v id false).storage.get? name = some (Table.cell column v) :=
    Storage.get?_lone
  have hselect : ∀ {q}, (Table.cell column v).select id items filter b = .ok q →
      ∀ value, q.firstValue? = some value → value = .integer v :=
    fun hq _ hvalue => Table.firstValue_of_select_cell rfl rfl hq hvalue
  by_cases hm : m = name
  · subst hm
    cases forUpdate with
    | false =>
      rw [select_plain hg] at h
      cases hq : (Table.cell column v).select id items filter b with
      | error e =>
        rw [hq] at h
        cases h
      | ok q =>
        rw [hq] at h
        cases h
        exact ⟨q, rfl, rfl, hselect hq⟩
    | true =>
      rw [select_forUpdate_of_free hg rfl (.inl rfl)] at h
      cases hq : (Table.cell column v).select id items filter b with
      | error e =>
        rw [hq] at h
        cases h
      | ok q =>
        rw [hq] at h
        cases h
        exact ⟨q, rfl, hold_cell, hselect hq⟩
  · have hnone : (cell name column v id false).storage.get? m = none :=
      Storage.get?_lone_of_ne hm
    rw [select_of_none hnone] at h
    cases h

theorem get?_cell (name column : String) (v : Int64) (id : Nat) (held : Bool) :
    ∃ table, (cell name column v id held).storage.get? name = some table ∧ table.Sound ∧
      table.Free id ∧ table.columns = [column] ∧ table.rows = [[v]] ∧
        ∀ rows, (cell name column v id held).setRows id name table rows =
          ⟨.lone name { (Table.cell column v).acquire id with rows },
            some { locked := [name] }⟩ := by
  cases held with
  | false =>
    refine ⟨_, Storage.get?_lone, rfl, .inl rfl, rfl, rfl, fun rows => ?_⟩
    rw [setRows, hold_cell]
    exact congrArg (fun s => (⟨s, some { locked := [name] }⟩ : Turn)) Storage.put_lone
  | true =>
    refine ⟨_, Storage.get?_lone, rfl, .inr rfl, rfl, rfl, fun rows => ?_⟩
    exact congrArg (fun s => (⟨s, some { locked := [name] }⟩ : Turn)) Storage.put_lone

theorem update_cell {s : Statement} (hs : s.Replaces name column)
    (hb₁ : b.get? 1 = some (.integer w)) (hb₂ : b.get? 2 = some (.integer v)) (held : Bool) :
    (∃ e t, execute id b s (.cell name column v id held) = (.error e, t)) ∨
      execute id b s (.cell name column v id held) =
        (.ok (.count 1), ⟨.lone name { (Table.cell column v).acquire id with rows := [[w]] },
          some { locked := [name] }⟩) := by
  obtain ⟨x, value, others, filter, rfl, hassigned⟩ := hs
  obtain ⟨table, hg, hsound, hfree, hcolumns, hrows, hset⟩ := get?_cell name column v id held
  have hone : table.columns.length = 1 := by rw [hcolumns]; rfl
  have hw : b.resolve (.param 1) = .ok w := by simp [Bindings.resolve, hb₁, Value.word?]
  have hv : b.resolve (.param 2) = .ok v := by simp [Bindings.resolve, hb₂, Value.word?]
  rw [execute, update_of_free hg hsound hfree]
  by_cases hsame : sameName column x = true
  · obtain ⟨rfl, rfl, y, rfl⟩ := hassigned hsame
    cases hchanges : table.changes b [(x, .param 1)] with
    | error e => exact .inl ⟨_, _, rfl⟩
    | ok changes =>
      cases hcondition : table.condition b (some ⟨y, .param 2⟩) with
      | error e => exact .inl ⟨_, _, rfl⟩
      | ok condition =>
        obtain rfl := Table.changes_single hone hw hchanges
        obtain rfl := Table.condition_single hone hv hcondition
        right
        dsimp only
        have hmeets : table.rows.any (Row.meets · (some (0, v))) = true := by
          simp [hrows, Row.meets]
        rw [if_pos hmeets, hset]
        simp [hrows, Row.meets, Table.changed, Row.assign]
  · left
    have hindex : table.columnIndex x = .error (.unsupported s!"unknown column {x}") := by
      rw [Table.columnIndex, hcolumns]
      simp [List.findIdx?_cons, hsame]
    have hchanges : table.changes b ((x, value) :: others) =
        .error (.unsupported s!"unknown column {x}") := by
      simp [Table.changes, List.mapM_cons, hindex, bind, Except.bind]
    rw [hchanges]
    exact ⟨_, _, rfl⟩

theorem finish_cell (column : String) (v w : Int64) (id : Nat) :
    finish id true ⟨.lone name { (Table.cell column v).acquire id with rows := [[w]] },
      some { locked := [name] }⟩ = (.ok (), ⟨.lone name (.cell column w), none⟩) := by
  have hget : ∀ table, (Storage.lone name table).tables.get? name = some table :=
    fun _ => Storage.get?_lone
  have hrelease : Table.release { (Table.cell column v).acquire id with rows := [[w]] } id true =
      .cell column w := if_pos rfl
  simp only [finish, List.foldl_cons, List.foldl_nil, if_true, Storage.release, hget]
  rw [hrelease, Storage.put_lone]

end Turn

namespace Database

variable {name column : String} {v w : Int64} {id : Nat} {held : Bool} {p? : Option Prepared}

/-- A database with nothing but a table of one cell. -/
def cell (name column : String) (v : Int64) (opened : Nat) : Database :=
  { storage := .lone name (.cell column v), opened }

/-- A database with one connection. -/
def linked (t : Turn) (id : Nat) (prepared : Option Prepared) : Database :=
  { storage := t.storage
    links := [(id, { transaction := t.transaction, prepared })]
    opened := id }

theorem links_linked (t : Turn) (id : Nat) (p? : Option Prepared) : (linked t id p?).links.get? id =
    some { transaction := t.transaction, prepared := p? } := Keyed.get?_singleton id _

theorem withTurn_linked {α : Type} (act : Action Turn α) (t : Turn) :
    withTurn id { transaction := t.transaction, prepared := p? } act (linked t id p?) =
      ((act t).1, linked (act t).2 id p?) := by
  simp only [withTurn, linked, Keyed.set_singleton]

theorem prepare_linked {sql : String} {s : Statement} (hs : Statement.ofText sql = .ok s)
    (t : Turn) (id : Nat) (p? : Option Prepared) :
    prepare id sql (linked t id p?) = (.ok (), linked t id (some ⟨sql, s, []⟩)) := by
  have hprepare := prepare_of_ofText (links_linked t id p?) hs
  simpa only [linked, Keyed.set_singleton] using hprepare

theorem prepare_linked_of_error {sql : String} {e : Error} (hs : Statement.ofText sql = .error e)
    (t : Turn) (id : Nat) (p? : Option Prepared) :
    prepare id sql (linked t id p?) = (.error e, linked t id p?) := by
  simp only [prepare, links_linked, hs]

theorem bind_linked {position : Nat} (h : position ≠ 0) (value : Value) (p : Prepared) (t : Turn) :
    bind id position value (linked t id (some p)) =
      (.ok (), linked t id (some { p with bindings := p.bindings.set position value })) := by
  have hprepared := prepared?_eq_ok.mpr ⟨links_linked t id (some p), rfl⟩
  simp only [bind, hprepared, if_neg h]
  simp only [linked, Keyed.set_singleton]

theorem query_linked (sql : String) (s : Statement) (b : Bindings) (t : Turn) :
    query id (linked t id (some ⟨sql, s, b⟩)) =
      match Turn.execute id b s t with
      | (.error e, t) => (.error e, linked t id (some ⟨sql, s, b⟩))
      | (.ok (.rows q), t) => (.ok q, linked t id (some ⟨sql, s, b⟩))
      | (.ok (.count _), t) => (.error (.unsupported s!"statement does not return rows: {sql}"),
          linked t id (some ⟨sql, s, b⟩)) := by
  have hprepared := prepared?_eq_ok.mpr ⟨links_linked t id (some ⟨sql, s, b⟩), rfl⟩
  simp only [query, hprepared, withTurn_linked]
  rcases Turn.execute id b s t with ⟨e | n | q, t'⟩ <;> rfl

theorem update_linked {s : Statement} (hs : s.returnsRows = false) (sql : String) (b : Bindings)
    (t : Turn) : update id (linked t id (some ⟨sql, s, b⟩)) =
      match Turn.execute id b s t with
      | (.error e, t) => (.error e, linked t id (some ⟨sql, s, b⟩))
      | (.ok (.count n), t) => (.ok n, linked t id (some ⟨sql, s, b⟩))
      | (.ok (.rows q), t) => (.ok q.rowCount, linked t id (some ⟨sql, s, b⟩)) := by
  have hprepared := prepared?_eq_ok.mpr ⟨links_linked t id (some ⟨sql, s, b⟩), rfl⟩
  simp only [update, hprepared, hs, Bool.false_eq_true, if_false, withTurn_linked]
  rcases Turn.execute id b s t with ⟨e | n | q, t'⟩ <;> rfl

theorem after_connect_cell (opened : Nat) : (cell name column v opened).after .connect =
    linked ⟨.lone name (.cell column v), none⟩ (opened + 1) none := rfl

theorem after_begin_cell : (linked ⟨.lone name (.cell column v), none⟩ id p?).after
    (.call id .begin) = linked (.cell name column v id false) id p? := by
  have hbegin : begin id (linked ⟨.lone name (.cell column v), none⟩ id p?) =
      (.ok (), linked (.cell name column v id false) id p?) := by
    simp only [begin, links_linked]
    simp only [linked, Keyed.set_singleton]
    rfl
  exact congrArg Prod.snd hbegin

theorem after_commit_cell : (linked ⟨.lone name { (Table.cell column v).acquire id with
    rows := [[w]] }, some { locked := [name] }⟩ id p?).after (.call id .commit) =
      linked ⟨.lone name (.cell column w), none⟩ id p? := by
  have hfinish : ∀ t, finish id true (linked t id p?) =
      ((Turn.finish id true t).1, linked (Turn.finish id true t).2 id p?) := by
    intro t
    simp only [finish, links_linked]
    exact withTurn_linked _ t
  refine (congrArg Prod.snd (hfinish _)).trans ?_
  rw [Turn.finish_cell]

theorem after_disconnect_cell : (linked ⟨.lone name (.cell column w), none⟩ id p?).after
    (.disconnect id) = cell name column w id := by
  have hout : (linked ⟨.lone name (.cell column w), none⟩ id p?).inTransaction id = false := by
    rw [inTransaction, links_linked]
    rfl
  have hdisconnect : disconnect id (linked ⟨.lone name (.cell column w), none⟩ id p?) =
      cell name column w id := by
    rw [disconnect, hout]
    simp [linked, cell, Keyed.erase]
  exact hdisconnect

theorem of_execute_linked {sql : String} {t : Turn} {n : Nat} {db : Database}
    (h : (connection id).execute sql (linked t id p?) = (.ok n, db)) :
    ∃ s r t', Statement.ofText sql = .ok s ∧ s.returnsRows = false ∧
      Turn.execute id [] s t = (.ok r, t') ∧ db = linked t' id (some ⟨sql, s, []⟩) := by
  cases hs : Statement.ofText sql with
  | error e =>
    have hprepare : (connection id).call (.prepare sql) _ = _ := prepare_linked_of_error hs t id p?
    simp only [Connection.execute, Action.andThen, hprepare] at h
    cases h
  | ok s =>
    have hprepare : (connection id).call (.prepare sql) _ = _ := prepare_linked hs t id p?
    simp only [Connection.execute, Action.andThen, hprepare] at h
    cases hreturns : s.returnsRows with
    | true =>
      have hprepared := prepared?_eq_ok.mpr ⟨links_linked t id (some ⟨sql, s, []⟩), rfl⟩
      change update id (linked t id (some ⟨sql, s, []⟩)) = _ at h
      simp only [update, hprepared, hreturns, if_true] at h
      cases h
    | false =>
      have hupdate : (connection id).call .update _ = _ := update_linked hreturns sql [] t
      rw [hupdate] at h
      rcases ht : Turn.execute id [] s t with ⟨e | q | m, t'⟩ <;> rw [ht] at h <;> cases h
      · exact ⟨s, _, t', rfl, hreturns, ht, rfl⟩
      · exact ⟨s, _, t', rfl, hreturns, ht, rfl⟩

end Database

end CounterTable
