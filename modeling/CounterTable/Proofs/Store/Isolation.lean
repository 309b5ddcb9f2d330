import CounterTable.Proofs.Store.Agreement

/-!
# Isolation

Row changes are hidden until they are committed, and a rollback takes back nothing but what its own
connection has done. Changes of the schema are shown at once, and taken back by name, so this holds
as far as no two connections get in touch with a table while it is being created or dropped.

* **`Database.reads_committed`**: a plain selection shows what is committed and the own changes;
* `Database.dropped_early`: the removal of a table is seen before it is committed;
* `Database.base_after_withdrawal`: what a rollback leaves of tables that were only written;
* **`Database.committed_survives`**: what a rollback leaves of any table;
* `Database.committed_lost`: a rollback that takes back what another connection has created.
-/

namespace CounterTable

namespace Table

variable {t : Table} {id : Nat}

theorem select_eq_base (h : t.Sound) (hl : t.lockedBy? ≠ some id) (items : List Projection)
    (filter : Option Filter) (b : Bindings) :
    t.select id items filter b = t.base.select id items filter b := by
  have hv : t.base.visibleRows id = t.visibleRows id := (visibleRows_eq_committed h hl).symm
  unfold select
  rw [hv]
  rfl

end Table

namespace Database

variable {db : Database} {l : Ledger} {id : Nat} {name : String} {link : Link} {p : Prepared}

theorem stable_of_links (h : ∀ q ∈ db.links, q.1 ≠ id → ∀ x, q.2.transaction = some x →
    ∀ u ∈ x.undo, u.name ≠ name) : db.Stable id name := by
  intro c hc x hx
  obtain ⟨link, hl, hlx⟩ := Option.bind_eq_some_iff.mp hx
  obtain ⟨l₁, l₂, he, -⟩ := List.lookup_eq_some_iff.mp hl
  exact h (c, link) (by rw [he]; exact List.mem_append_right l₁ List.mem_cons_self) hc x hlx

theorem query_select_plain {items : List Projection} {filter : Option Filter}
    (hp : db.prepared? id = .ok (link, p)) (hs : p.statement = .select name items filter false) :
    (query id db).1 = match db.storage.get? name with
      | none => .error (.tableNotFound name)
      | some table => table.select id items filter p.bindings := by
  rw [query_answer hp, executed, hs, Turn.execute]
  cases hg : db.storage.get? name with
  | none => rw [Turn.select_of_none hg]
  | some table =>
    rw [Turn.select_plain hg]
    cases hselect : table.select id items filter p.bindings <;> simp only [hselect] <;> rfl

section Steps

variable {P : Database → Event → Prop}

theorem Recorded.prepare (h : Recorded P db l) (id : Nat) {sql : String} {s : Statement}
    (hs : Statement.ofText sql = .ok s) (hl : db.links.get? id = some link)
    (he : P db (.call id (.prepare sql))) :
    Recorded P { db with
      links := db.links.set id { link with prepared := some ⟨sql, s, []⟩ } } l := by
  have := h.after _ he
  rwa [after_prepare hl hs] at this

theorem Recorded.update (h : Recorded P db l) (id : Nat) (hp : db.prepared? id = .ok (link, p))
    (hs : p.statement.returnsRows = false) {r : Reply} {t : Turn}
    (hx : db.executed id link p = (.ok r, t)) (he : P db (.call id .update)) :
    Recorded P (db.settle id link t)
      (l.note id link.transaction.isSome ⟨p.statement, p.bindings, r⟩) := by
  have := h.after _ he
  rw [show db.after (.call id .update) = _ from update_after hp, record_update hp,
    noted_of_ok (by rw [hx]), hs, hx, inTransaction_eq,
    transaction?_of_link (prepared?_eq_ok.mp hp).1] at this
  exact this

end Steps

/-- **Reads are committed.** A plain selection answers what it answers on the committed table with
the own changes of its connection, as long as no other connection can take back that the table was
created or dropped. -/
theorem reads_committed (h : Recorded (Heeds name) db l) (hst : db.Stable id name)
    (hp : db.prepared? id = .ok (link, p)) {items : List Projection} {filter : Option Filter}
    (hs : p.statement = .select name items filter false) :
    (query id db).1 = match l.view id name with
      | none => .error (.tableNotFound name)
      | some table => table.select id items filter p.bindings := by
  have ha := h.agrees
  rw [query_select_plain hp hs]
  cases hg : db.storage.get? name with
  | none =>
    have hv := ha.isSome_view hst
    rw [hg] at hv
    rw [Option.isSome_eq_false_iff.mp hv |> Option.isNone_iff_eq_none.mp]
  | some table =>
    have hso := h.reachable.sound hg
    by_cases hf : table.Free id
    · have hv := ha.view_of_free hst (fun _ ht => h.reachable.sound ht)
        fun u hu => by cases hg.symm.trans hu; exact hf
      rw [hg] at hv
      rw [← hv]
      change table.select id items filter p.bindings = table.plain.select id items filter p.bindings
      rw [Table.select_eq_plain hso hf, Table.select_eq_plain (t := table.plain) rfl (.inl rfl)]
      rfl
    · -- Another connection holds the lock, so this one has changed nothing.
      have hh : ¬ db.Holds id name := fun hh => hf ((ha.of_holds hh).2 table hg)
      have hsp : Transaction.Spares name (db.transaction? id) := not_not.mp fun hx => hh (.inl hx)
      rw [Ledger.view_of_on_eq_nil (ha.idle id hh), ← ha.shown id hst,
        Turn.withdrawn_of_spares (t := db.turn id) hsp, hg]
      exact Table.select_eq_base hso (fun hl => hf (.inr hl)) items filter p.bindings

theorem ofText_dropTable : Statement.ofText "drop table t" = .ok (.dropTable "t" false) := by
  decide +kernel

theorem ofText_select :
    Statement.ofText "select v from t" = .ok (.select "t" [.column "v" none] none false) := by
  decide +kernel

/-- A connection has prepared a statement without parameters. -/
def preparing (x : Option Transaction) (sql : String) (s : Statement) : Link :=
  ⟨x, some ⟨sql, s, []⟩⟩

/-- A table with the number 5 in each row. -/
def fives (n : Nat) (lockedBy? : Option Nat) (saved? : Option (List Row)) : Storage :=
  ⟨[("t", ⟨["v"], List.replicate n [5], lockedBy?, saved?⟩)]⟩

/-- There is a table with one row, and two connections, the first of which can read it. -/
def shared : Database where
  storage := fives 1 none none
  links := [(1, preparing none "select v from t" (.select "t" [.column "v" none] none false)),
    (2, {})]
  opened := 2

/-- The row is committed. -/
def sharedLedger : Ledger :=
  (({} : Ledger).note 1 false ⟨.createTable "t" ["v"] false, [], .count 0⟩).note 1 false
    ⟨.insert "t" [[.literal 5]], [], .count 1⟩

theorem recorded_shared : Recorded (Heeds "t") shared sharedLedger := by
  have h₁ : Recorded (Heeds "t") ⟨{}, [(1, preparing none "create table t (v bigint)"
      (.createTable "t" ["v"] false)), (2, {})], 2⟩ {} :=
    ((Recorded.new.after .connect trivial).after .connect trivial).prepare 1
      ofText_createTable rfl trivial
  have h₂ : Recorded (Heeds "t") ⟨fives 0 none none, [(1, preparing none "insert into t values (5)"
      (.insert "t" [[.literal 5]])), (2, {})], 2⟩ _ :=
    (h₁.update 1 rfl rfl rfl fun _ _ _ _ => .inr (stable_of_links (by decide))).prepare
      1 ofText_insert rfl trivial
  exact (h₂.update 1 rfl rfl rfl fun _ _ _ _ =>
    .inr (stable_of_links (by decide))).prepare 1 ofText_select rfl trivial

/-- While one connection has inserted a second row in a transaction, the other one sees the first
row only. -/
theorem reads_committed_pending : ∃ db l, Recorded (Heeds "t") db l ∧
    (query 1 db).1 = .ok ⟨["v"], [[.integer 5]]⟩ ∧
    (query 2 db).1 = .ok ⟨["v"], [[.integer 5], [.integer 5]]⟩ := by
  have h₁ : Recorded (Heeds "t") ⟨fives 1 none none,
      [(2, preparing (some {}) "insert into t values (5)" (.insert "t" [[.literal 5]])),
        (1, preparing none "select v from t" (.select "t" [.column "v" none] none false))], 2⟩
      sharedLedger :=
    (recorded_shared.after (.call 2 .begin) trivial).prepare 2 ofText_insert rfl trivial
  have h₂ : Recorded (Heeds "t") ⟨fives 2 (some 2) (some [[5]]),
      [(2, preparing (some ⟨["t"], []⟩) "select v from t"
          (.select "t" [.column "v" none] none false)),
        (1, preparing none "select v from t" (.select "t" [.column "v" none] none false))], 2⟩
      (sharedLedger.note 2 true ⟨.insert "t" [[.literal 5]], [], .count 1⟩) :=
    (h₁.update 2 rfl rfl rfl fun _ _ _ _ => .inr (stable_of_links (by decide))).prepare
      2 ofText_select rfl trivial
  refine ⟨_, _, h₂, ?_, ?_⟩
  · rw [reads_committed h₂ (stable_of_links (by decide)) rfl rfl,
      show Ledger.view _ 1 "t" = some ⟨["v"], [[5]], none, none⟩ by decide]
    rfl
  · rw [reads_committed h₂ (stable_of_links (by decide)) rfl rfl,
      show Ledger.view _ 2 "t" = some ⟨["v"], [[5], [5]], none, none⟩ by decide]
    rfl

/-- The second connection has dropped the table in a transaction. -/
def dropping : Database where
  storage := {}
  links := [(2, preparing (some ⟨["t"], [.dropped "t" ⟨["v"], [[5]], some 2, some [[5]]⟩]⟩)
      "drop table t" (.dropTable "t" false)),
    (1, preparing none "select v from t" (.select "t" [.column "v" none] none false))]
  opened := 2

/-- So far it sees this alone. -/
def droppingLedger : Ledger := sharedLedger.note 2 true ⟨.dropTable "t" false, [], .count 0⟩

theorem recorded_dropping : Recorded (Heeds "t") dropping droppingLedger := by
  have h : Recorded (Heeds "t") ⟨fives 1 none none,
      [(2, preparing (some {}) "drop table t" (.dropTable "t" false)),
        (1, preparing none "select v from t" (.select "t" [.column "v" none] none false))], 2⟩
      sharedLedger :=
    (recorded_shared.after (.call 2 .begin) trivial).prepare 2 ofText_dropTable rfl trivial
  exact h.update 2 rfl rfl rfl fun _ _ _ _ => .inr (stable_of_links (by decide))

/-- The removal of a table is seen by another connection before it is committed. -/
theorem dropped_early : Recorded (Heeds "t") dropping droppingLedger ∧
    (∃ link p, dropping.prepared? 1 = .ok (link, p) ∧
      p.statement = .select "t" [.column "v" none] none false) ∧
    droppingLedger.view 1 "t" = some ⟨["v"], [[5]], none, none⟩ ∧
    (query 1 dropping).1 = .error (.tableNotFound "t") :=
  ⟨recorded_dropping, ⟨_, _, rfl, rfl⟩, by decide, by decide⟩

/-! ## What a rollback leaves -/

/-- Where a transaction has neither created nor dropped a table, taking it back leaves what the
others see. -/
theorem base_after_withdrawal (h : Reachable db) {e : Event} (he : Withdrawal id e)
    (hx : Transaction.Spares name (db.transaction? id)) :
    ((db.after e).storage.get? name).map Table.base = (db.storage.get? name).map Table.base := by
  rw [he.storage_after, h.accounted.get?_withdrawn, Turn.withdrawn_of_spares (t := db.turn id) hx,
    Option.map_map]
  exact Option.map_congr fun table _ => Table.base_release_false table id

/-- **What is committed survives** when another connection takes its transaction back. If the table
is stable for that connection, it is then what is committed; otherwise nothing happens to it. -/
theorem committed_survives (h : Recorded (Heeds name) db l) {e : Event} (he : Withdrawal id e) :
    (db.Stable id name →
      ((db.after e).storage.get? name).map Table.base = l.committed name) ∧
    (¬ db.Stable id name → (db.after e).storage.get? name = db.storage.get? name) := by
  have ha := h.agrees
  refine ⟨fun hst => ?_, fun hst => ?_⟩
  · rw [he.storage_after, h.reachable.accounted.get?_withdrawn, Option.map_map, ← ha.shown id hst]
    exact Option.map_congr fun table _ => Table.base_release_false table id
  · -- The one that has created or dropped the table keeps it from all others.
    obtain ⟨c, hc, hx⟩ : ∃ c, c ≠ id ∧ ¬ Transaction.Spares name (db.transaction? c) := by
      simpa [Stable] using hst
    have hh : ¬ db.Holds id name := by
      rintro (hs | ⟨table, hg, hl⟩)
      · exact hs ((ha.alone c hx).1 id (Ne.symm hc))
      · exact hc (((ha.alone c hx).2 table hg).eq_of_locked hl).symm
    rw [he.storage_after]
    exact h.reachable.accounted.get?_finish_of_not_holds hh false

/-- A table that was dropped in a transaction is there again, with its committed row. -/
theorem committed_survives_drop : dropping.storage.get? "t" = none ∧
    ((dropping.after (.call 2 .rollback)).storage.get? "t").map Table.base =
      some ⟨["v"], [[5]], none, none⟩ :=
  ⟨by decide, ((committed_survives recorded_dropping .rolledBack).1
    (stable_of_links (by decide))).trans (by decide)⟩

/-- A connection drops a table that another one has created in a transaction, and creates and fills
it again outside of one. Once the transaction is rolled back, the table is gone. -/
theorem committed_lost : ∃ db l, Recorded (fun _ _ => True) db l ∧ db.transaction? 2 = none ∧
    l.committed "t" = some ⟨["v"], [[5]], none, none⟩ ∧
    db.storage.get? "t" = some ⟨["v"], [[5]], none, none⟩ ∧
    (db.after (.call 1 .rollback)).storage.get? "t" = none := by
  have h₁ : Recorded (fun _ _ => True) ⟨{}, [(1, preparing (some {}) "create table t (v bigint)"
      (.createTable "t" ["v"] false)), (2, {})], 2⟩ {} :=
    (((Recorded.new.after .connect trivial).after .connect trivial).after (.call 1 .begin)
      trivial).prepare 1 ofText_createTable rfl trivial
  have h₂ : Recorded (fun _ _ => True) ⟨fives 0 none none,
      [(2, preparing none "drop table t" (.dropTable "t" false)),
        (1, preparing (some ⟨[], [.created "t"]⟩) "create table t (v bigint)"
          (.createTable "t" ["v"] false))], 2⟩ _ :=
    (h₁.update 1 rfl rfl rfl trivial).prepare 2 ofText_dropTable rfl trivial
  have h₃ : Recorded (fun _ _ => True) ⟨{},
      [(2, preparing none "create table t (v bigint)" (.createTable "t" ["v"] false)),
        (1, preparing (some ⟨[], [.created "t"]⟩) "create table t (v bigint)"
          (.createTable "t" ["v"] false))], 2⟩ _ :=
    (h₂.update 2 rfl rfl rfl trivial).prepare 2 ofText_createTable rfl trivial
  have h₄ : Recorded (fun _ _ => True) ⟨fives 0 none none,
      [(2, preparing none "insert into t values (5)" (.insert "t" [[.literal 5]])),
        (1, preparing (some ⟨[], [.created "t"]⟩) "create table t (v bigint)"
          (.createTable "t" ["v"] false))], 2⟩ _ :=
    (h₃.update 2 rfl rfl rfl trivial).prepare 2 ofText_insert rfl trivial
  have h₅ := h₄.update 2 rfl rfl rfl trivial
  exact ⟨_, _, h₅, rfl, by decide, by decide, by decide⟩

end Database

end CounterTable
