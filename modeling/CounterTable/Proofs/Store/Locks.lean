import CounterTable.Proofs.Store.Histories
import Mathlib.Tactic.GCongr.Core

/-!
# Every lock is accounted for

A lock is recorded twice: in the table, and by name in the transaction of its holder. Tables can be
dropped and created again meanwhile, and a rollback can put a dropped table back. So the invariant
also speaks about the tables that are kept in the transactions.

* `Transaction.Keeps`: what is known of the tables that a transaction can put back;
* `Turn.Accounted`, `Database.Accounted`: no lock without an entry in a transaction;
* `Turn.Accounted.moves`: executing a statement preserves it;
* `Database.Accounted.after`: every event does;
* **`Database.locks_never_leak`**: the locks in any reachable database.
-/

namespace CounterTable

/-- A transaction lists the table as one that it has locked. -/
def Transaction.Lists (x : Option Transaction) (name : String) : Prop :=
  ∃ y, x = some y ∧ name ∈ y.locked

/-- The dropped tables that a transaction of a connection can put back are locked by it. -/
def Transaction.Keeps (id : Nat) (x : Option Transaction) : Prop :=
  ∀ y, x = some y → ∀ name table, .dropped name table ∈ y.undo →
    table.Sound ∧ table.lockedBy? = some id ∧ name ∈ y.locked

/-- A table saves rows exactly while it is locked, and its holder lists it. -/
def Table.Accounted (H : Nat → Prop) (t : Table) : Prop :=
  t.Sound ∧ ∀ c, t.lockedBy? = some c → H c

namespace Turn

/-- The locks are accounted for, in a turn of the connection `id`. `H` says what the others hold. -/
structure Accounted (id : Nat) (H : Nat → String → Prop) (t : Turn) : Prop where
  tables : ∀ name table, t.storage.get? name = some table →
    table.Accounted fun c => c = id ∧ Transaction.Lists t.transaction name ∨ c ≠ id ∧ H c name
  kept : Transaction.Keeps id t.transaction

variable {id : Nat} {H : Nat → String → Prop} {W : String → Prop} {t t' : Turn} {name : String}
  {table : Table}

theorem Accounted.sound (h : t.Accounted id H) (hg : t.storage.get? name = some table) :
    table.Sound := (h.tables name table hg).1

theorem Accounted.lists (h : t.Accounted id H) (hg : t.storage.get? name = some table)
    (hl : table.lockedBy? = some id) : Transaction.Lists t.transaction name := by
  rcases (h.tables name table hg).2 id hl with ⟨-, hx⟩ | ⟨hne, -⟩
  · exact hx
  · exact absurd rfl hne

theorem Accounted.lock {x : Transaction} (h : t.Accounted id H)
    (hg : t.storage.get? name = some table) (hl : table.lockedBy? = none)
    (hx : t.transaction = some x) :
    Accounted id H
      ⟨t.storage.put name (table.acquire id), some { x with locked := name :: x.locked }⟩ where
  tables m u hm := by
    rw [Storage.get?_put] at hm
    split at hm
    · next hmn =>
      cases hm
      refine ⟨(h.sound hg).acquire id, fun c hc => .inl ?_⟩
      rw [Table.acquire_of_free hl, Option.some.injEq] at hc
      exact ⟨hc.symm, _, rfl, by rw [hmn]; exact List.mem_cons_self⟩
    · refine ⟨h.sound hm, fun c hc => ?_⟩
      rcases (h.tables m u hm).2 c hc with ⟨hid, y, hy, hin⟩ | hother
      · cases hx.symm.trans hy
        exact .inl ⟨hid, _, rfl, List.mem_cons_of_mem _ hin⟩
      · exact .inr hother
  kept y hy m u hu := by
    cases hy
    obtain ⟨hs, hc, hin⟩ := h.kept x hx m u hu
    exact ⟨hs, hc, List.mem_cons_of_mem _ hin⟩

theorem Accounted.write (h : t.Accounted id H) (hg : t.storage.get? name = some table)
    (rows : List Row) :
    Accounted id H { t with storage := t.storage.put name { table with rows } } where
  tables m u hm := by
    rw [Storage.get?_put] at hm
    split at hm
    · next hmn =>
      cases hm
      rw [hmn]
      exact h.tables name table hg
    · exact h.tables m u hm
  kept := h.kept

theorem lists_note {u : Undo} {s : Storage} :
    Transaction.Lists ({ t with storage := s }.note u).transaction name ↔
      Transaction.Lists t.transaction name := by
  unfold Transaction.Lists note
  cases t.transaction <;> simp

theorem Accounted.create (h : t.Accounted id H) (columns : List String) :
    Accounted id H ({ t with storage := t.storage.put name { columns } }.note (.created name)) where
  tables m u hm := by
    simp only [lists_note]
    change (t.storage.put name { columns }).get? m = some u at hm
    rw [Storage.get?_put] at hm
    split at hm
    · cases hm
      exact ⟨rfl, fun c hc => nomatch hc⟩
    · exact h.tables m u hm
  kept y hy m u hu := by
    obtain ⟨x, hx, rfl⟩ := Option.map_eq_some_iff.mp hy
    rcases List.mem_cons.mp hu with hu | hu
    · cases hu
    · exact h.kept x hx m u hu

theorem Accounted.drop (h : t.Accounted id H) (hg : t.storage.get? name = some table)
    (hw : t.MayWrite id table) :
    Accounted id H
      ({ t with storage := ⟨t.storage.tables.erase name⟩ }.note (.dropped name table)) where
  tables m u hm := by
    simp only [lists_note]
    change Storage.get? ⟨t.storage.tables.erase name⟩ m = some u at hm
    rw [Storage.get?_erase] at hm
    split at hm
    · cases hm
    · exact h.tables m u hm
  kept y hy m u hu := by
    obtain ⟨x, hx, rfl⟩ := Option.map_eq_some_iff.mp hy
    rcases List.mem_cons.mp hu with hu | hu
    · cases hu
      -- Only a transaction notes the drop, and in one the lock was taken first.
      have hl : table.lockedBy? = some id := by
        rcases hw with hl | ⟨-, hn⟩
        · exact hl
        · cases hx.symm.trans hn
      obtain ⟨z, hz, hin⟩ := h.lists hg hl
      cases hx.symm.trans hz
      exact ⟨h.sound hg, hl, hin⟩
    · exact h.kept x hx m u hu

theorem Accounted.move (h : t.Accounted id H) (hm : Move id W t t') : t'.Accounted id H := by
  cases hm with
  | lock hg hl hx => exact h.lock hg hl hx
  | write rows _ hg _ _ => exact h.write hg rows
  | create columns _ _ => exact h.create columns
  | drop _ hg hw => exact h.drop hg hw

theorem Accounted.moves (h : t.Accounted id H) (hm : Moves id W t t') : t'.Accounted id H := by
  induction hm with
  | refl => exact h
  | tail _ hm ih => exact ih.move hm

theorem Accounted.began (h : t.Accounted id H) (hn : t.transaction = none) :
    Accounted id H ⟨t.storage, some {}⟩ where
  tables name table hg := by
    refine ⟨h.sound hg, fun c hc => ?_⟩
    rcases (h.tables name table hg).2 c hc with ⟨-, y, hy, -⟩ | hother
    · cases hn.symm.trans hy
    · exact .inr hother
  kept y hy m u hu := by
    cases hy
    cases hu

/-- Once a transaction has ended, each table is sound, and a lock on it belongs to another
connection: in the storage as it is, or in what the rollback puts back, the locks of `id` are all on
the list. -/
theorem Accounted.ended {x : Transaction} (h : t.Accounted id H) (hx : t.transaction = some x)
    (keep : Bool) : Accounted id H ⟨Turn.ended id keep t.storage x, none⟩ where
  tables name table hg := by
    rw [get?_ended] at hg
    obtain ⟨u, hu, rfl⟩ := Option.map_eq_some_iff.mp hg
    have hu : u.Accounted fun c => c = id ∧ name ∈ x.locked ∨ c ≠ id ∧ H c name := by
      have hstay : t.storage.get? name = some u →
          u.Accounted fun c => c = id ∧ name ∈ x.locked ∨ c ≠ id ∧ H c name := by
        intro hu
        refine ⟨h.sound hu, fun c hc => ?_⟩
        rcases (h.tables name u hu).2 c hc with ⟨hid, y, hy, hin⟩ | hother
        · cases hx.symm.trans hy
          exact .inl ⟨hid, hin⟩
        · exact .inr hother
      cases keep with
      | true => exact hstay hu
      | false =>
        rcases Storage.get?_undo_all hu with hu | hu
        · exact hstay hu
        · obtain ⟨hs, hl, hin⟩ := h.kept x hx name u hu
          refine ⟨hs, fun c hc => .inl ⟨?_, hin⟩⟩
          rw [hl, Option.some.injEq] at hc
          exact hc.symm
    split
    · refine ⟨hu.1.release id keep, fun c hc => ?_⟩
      obtain ⟨hne, he⟩ := Table.lockedBy?_release hc
      rw [he] at hc
      rcases hu.2 c hc with ⟨hid, -⟩ | hother
      · exact absurd hid hne
      · exact .inr hother
    · next hout =>
      refine ⟨hu.1, fun c hc => ?_⟩
      rcases hu.2 c hc with ⟨-, hin⟩ | hother
      · exact absurd hin hout
      · exact .inr hother
  kept _ hy := nomatch hy

/-- The end of a transaction that has not changed the schema, or keeps what it has done to it,
releases whatever the connection holds. -/
theorem Accounted.get?_ended {x : Transaction} (h : t.Accounted id H) (hx : t.transaction = some x)
    {keep : Bool} (hu : keep = true ∨ x.undo = []) (m : String) :
    (Turn.ended id keep t.storage x).get? m = (t.storage.get? m).map fun u => u.release id keep := by
  have hs : (if keep then t.storage else x.undo.foldl Storage.undo t.storage) = t.storage := by
    rcases hu with hk | hu
    · rw [if_pos hk]
    · rw [hu]
      exact ite_self _
  rw [Turn.get?_ended, hs]
  cases hg : t.storage.get? m with
  | none => rfl
  | some u =>
    refine congrArg some ?_
    by_cases hin : m ∈ x.locked
    · exact if_pos hin
    · refine (if_neg hin).trans (Table.release_of_ne (fun hl => ?_) keep).symm
      obtain ⟨y, hy, hiny⟩ := h.lists hg hl
      cases hx.symm.trans hy
      exact hin hiny

end Turn

namespace Database

/-- Every lock in the storage is listed in the transaction of its holder, and the tables that
transactions keep are locked by them. -/
structure Accounted (db : Database) : Prop where
  tables : ∀ name table, db.storage.get? name = some table →
    table.Accounted fun c => Transaction.Lists (db.transaction? c) name
  kept : ∀ c, Transaction.Keeps c (db.transaction? c)

variable {db db' : Database} {id : Nat} {W : String → Prop}

theorem Accounted.turn (h : db.Accounted) (id : Nat) :
    Turn.Accounted id (fun c name => Transaction.Lists (db.transaction? c) name)
      ⟨db.storage, db.transaction? id⟩ where
  tables name table hg := by
    refine ⟨(h.tables name table hg).1, fun c hc => ?_⟩
    have := (h.tables name table hg).2 c hc
    by_cases hid : c = id
    · exact .inl ⟨hid, hid ▸ this⟩
    · exact .inr ⟨hid, this⟩
  kept := h.kept id

theorem Accounted.of_turn (h : db.Accounted)
    (ho : ∀ c, c ≠ id → db'.transaction? c = db.transaction? c)
    (ht : Turn.Accounted id (fun c name => Transaction.Lists (db.transaction? c) name)
      ⟨db'.storage, db'.transaction? id⟩) : db'.Accounted where
  tables name table hg := by
    refine ⟨(ht.tables name table hg).1, fun c hc => ?_⟩
    rcases (ht.tables name table hg).2 c hc with ⟨rfl, hx⟩ | ⟨hne, hx⟩
    · exact hx
    · rw [ho c hne]
      exact hx
  kept c := by
    by_cases hid : c = id
    · exact hid ▸ ht.kept
    · rw [ho c hid]
      exact h.kept c

theorem Accounted.acted (h : db.Accounted)
    (ho : ∀ c, c ≠ id → db'.transaction? c = db.transaction? c) (ha : Acted id W db db') :
    db'.Accounted := by
  refine h.of_turn ho ?_
  have ht := h.turn id
  cases ha with
  | rested hr =>
    cases hr with
    | idle hs hx =>
      rw [hs, hx]
      exact ht
    | began hs hn hx =>
      rw [hs, hx]
      exact ht.began (t := ⟨db.storage, _⟩) hn
  | moved hm => exact ht.moves hm
  | ended keep hx hs hn =>
    rw [hs, hn]
    exact ht.ended hx keep

theorem Accounted.after (h : db.Accounted) (hn : db.Numbered) (e : Event) :
    (db.after e).Accounted :=
  h.acted (fun _ hc => transaction?_after e hc) (after_acts hn e)

theorem Reachable.accounted (h : Reachable db) : db.Accounted := by
  induction h with
  | new => exact ⟨fun _ _ hg => (nomatch hg), fun _ _ hy => (nomatch hy)⟩
  | after e h ih => exact ih.after h.numbered e

theorem Reachable.sound (h : Reachable db) {name : String} {table : Table}
    (hg : db.storage.get? name = some table) : table.Sound := (h.accounted.tables name table hg).1

theorem Accounted.lockedBy?_ne (h : db.Accounted) (hx : db.transaction? id = none) {name : String}
    {table : Table} (hg : db.storage.get? name = some table) : table.lockedBy? ≠ some id := by
  intro hl
  obtain ⟨y, hy, -⟩ := (h.tables name table hg).2 id hl
  cases hx.symm.trans hy

theorem Accounted.get?_finish (h : db.Accounted) {keep : Bool}
    (hu : ∀ x, db.transaction? id = some x → keep = true ∨ x.undo = []) (m : String) :
    (finish id keep db).2.storage.get? m = (db.storage.get? m).map fun u => u.release id keep := by
  cases hx : db.transaction? id with
  | none =>
    obtain ⟨e, -, hs, -⟩ := finish_of_none hx keep
    rw [hs]
    cases hg : db.storage.get? m with
    | none => rfl
    | some u => exact congrArg some (Table.release_of_ne (h.lockedBy?_ne hx hg) keep).symm
  | some x =>
    obtain ⟨link, hl, ht⟩ := Option.bind_eq_some_iff.mp hx
    rw [finish_of_transaction hl ht, storage_settle]
    exact (h.turn id).get?_ended hx (hu x hx) m

theorem storage_rollback (id : Nat) (db : Database) :
    (rollback id db).2.storage = (finish id false db).2.storage := by
  unfold rollback
  split
  · rfl
  · next hi =>
    have hx : db.transaction? id = none := by simpa [inTransaction_eq] using hi
    obtain ⟨e, -, hs, -⟩ := finish_of_none hx false
    exact hs.symm

theorem storage_disconnect (id : Nat) (db : Database) :
    (db.disconnect id).storage = (finish id false db).2.storage := by
  rw [← storage_rollback]
  unfold disconnect rollback
  split <;> rfl

/-- The events that end a transaction of a connection. -/
inductive Ending (id : Nat) : Event → Prop
  | committed : Ending id (.call id .commit)
  | rolledBack : Ending id (.call id .rollback)
  | closed : Ending id (.disconnect id)

theorem transaction?_finish (id : Nat) (keep : Bool) (db : Database) :
    (finish id keep db).2.transaction? id = none := by
  cases hx : db.transaction? id with
  | none =>
    obtain ⟨e, -, -, hl⟩ := finish_of_none hx keep
    rw [transaction?, hl]
    exact hx
  | some x =>
    obtain ⟨link, hl, ht⟩ := Option.bind_eq_some_iff.mp hx
    rw [finish_of_transaction hl ht, transaction?_settle, if_pos rfl]

theorem Ending.transaction?_after {e : Event} (he : Ending id e) (db : Database) :
    (db.after e).transaction? id = none := by
  cases he with
  | committed => exact transaction?_finish id true db
  | rolledBack =>
    change (rollback id db).2.transaction? id = none
    unfold rollback
    split
    · exact transaction?_finish id false db
    · next hi => simpa [inTransaction_eq] using hi
  | closed => exact transaction?_of_none ((links_disconnect id db id).trans (if_pos rfl))

/-- **Locks never leak.** In every reachable database a locked table is on the list of an open
transaction of its holder, and a table saves rows exactly while it is locked. Connections that are
not in a transaction hold no lock, and the end of a transaction leaves none behind. -/
theorem locks_never_leak (h : Reachable db) :
    (∀ name table, db.storage.get? name = some table →
      (∀ c, table.lockedBy? = some c → ∃ x, db.transaction? c = some x ∧ name ∈ x.locked) ∧
      (table.saved?.isSome ↔ table.lockedBy?.isSome)) ∧
    (∀ c, db.transaction? c = none →
      ∀ name table, db.storage.get? name = some table → table.lockedBy? ≠ some c) ∧
    ∀ c e, Ending c e → (db.after e).transaction? c = none ∧
      ∀ name table, (db.after e).storage.get? name = some table → table.lockedBy? ≠ some c := by
  refine ⟨fun name table hg => ⟨(h.accounted.tables name table hg).2, ?_⟩,
    fun c hx name table hg => h.accounted.lockedBy?_ne hx hg, fun c e he => ?_⟩
  · rw [h.sound hg]
  · have hx := he.transaction?_after db
    exact ⟨hx, fun name table hg => (h.after e).accounted.lockedBy?_ne hx hg⟩

/-- A database with an empty table, and a connection that is about to insert a row. -/
def ready : Database where
  storage := { tables := [("t", ⟨["v"], [], none, none⟩)] }
  links := [(1, ⟨none, some ⟨"insert into t values (5)", .insert "t" [[.literal 5]], []⟩⟩)]
  opened := 1

theorem ofText_createTable :
    Statement.ofText "create table t (v bigint)" = .ok (.createTable "t" ["v"] false) := by
  decide +kernel

theorem ofText_insert :
    Statement.ofText "insert into t values (5)" = .ok (.insert "t" [[.literal 5]]) := by
  decide +kernel

theorem ofText_update :
    Statement.ofText "update t set v= 7" = .ok (.update "t" [("v", .literal 7)] none) := by
  decide +kernel

theorem ready_reachable : Reachable ready := by
  have h₁ := (Reachable.new.after .connect).after (.call 1 (.prepare "create table t (v bigint)"))
  rw [after_prepare rfl ofText_createTable] at h₁
  have h₂ := (h₁.after (.call 1 .update)).after (.call 1 (.prepare "insert into t values (5)"))
  rw [after_prepare rfl ofText_insert] at h₂
  exact h₂

/-- The database once the connection has inserted the row in a transaction. -/
def inserting : Database where
  storage := { tables := [("t", ⟨["v"], [[5]], some 1, some []⟩)] }
  links := [(1, ⟨some ⟨["t"], []⟩,
    some ⟨"insert into t values (5)", .insert "t" [[.literal 5]], []⟩⟩)]
  opened := 1

theorem inserting_reachable : Reachable inserting :=
  (ready_reachable.after (.call 1 .begin)).after (.call 1 .update)

/-- There the lock is listed, and a rollback gives it back. -/
theorem locks_never_leak_inserting :
    (∃ x, inserting.transaction? 1 = some x ∧ "t" ∈ x.locked) ∧
    ∀ name table, (inserting.after (.call 1 .rollback)).storage.get? name = some table →
      table.lockedBy? ≠ some 1 :=
  ⟨((locks_never_leak inserting_reachable).1 "t" ⟨["v"], [[5]], some 1, some []⟩ rfl).1 1 rfl,
    ((locks_never_leak inserting_reachable).2.2 1 _ .rolledBack).2⟩

end Database

end CounterTable
