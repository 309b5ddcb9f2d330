import CounterTable.Proofs.Store.Frame

/-!
# Rollbacks are exact

A transaction takes its changes back in two ways: what it did to the schema is undone in reverse
order, and the tables that it has locked get the saved rows. Between them a name may stand for
several tables, so the invariant is about what a rollback *would* leave: whatever the transaction
does next, that stays as it was when the transaction began.

* `Storage.get?_undo_all_congr`: what has been undone under a name does not depend on what is there;
* `Turn.Accounted.get?_rolledBack`: a rollback, one table at a time;
* `Turn.Restores`: a rollback would leave this storage;
* `Turn.Restores.move`, `Database.Restores.call`: nothing that the connection does alters that;
* **`Database.rollback_exact`**: however a transaction is taken back, it leaves no trace.
-/

namespace CounterTable

namespace Table

variable {t : Table} {id : Nat}

theorem Sound.release_acquire (h : t.Sound) (hl : t.lockedBy? = none) (keep : Bool) :
    (t.acquire id).release id keep = t := by
  have hs := h.saved_eq_none hl
  obtain ⟨columns, rows, owner, saved⟩ := t
  cases hl
  cases hs
  cases keep <;> simp [Table.acquire, Table.release]

theorem Sound.release_setRows (h : t.Sound) (hl : t.lockedBy? = some id) (rows : List Row) :
    ({ t with rows } : Table).release id false = t.release id false := by
  obtain ⟨saved, hs⟩ := Option.isSome_iff_exists.mp (h.trans (by rw [hl]; rfl))
  simp [Table.release, hl, hs]

end Table

namespace Storage

variable {s s' : Storage} {m : String}

theorem get?_undo_of_name_eq {u : Undo} (h : u.name = m) (s s' : Storage) :
    (s.undo u).get? m = (s'.undo u).get? m := by
  cases u with
  | created name =>
    change name = m at h
    rw [get?_undo_created, get?_undo_created, if_pos h.symm, if_pos h.symm]
  | dropped name t =>
    change name = m at h
    rw [get?_undo_dropped, get?_undo_dropped, if_pos h.symm, if_pos h.symm]

/-- What is under a name once changes are undone is what was there before, unless one of these
changes was of that name: then it does not matter what was there. -/
theorem get?_undo_all_congr {us : List Undo}
    (h : s.get? m = s'.get? m ∨ ∃ u ∈ us, u.name = m) :
    (us.foldl Storage.undo s).get? m = (us.foldl Storage.undo s').get? m := by
  induction us generalizing s s' with
  | nil =>
    rcases h with h | ⟨u, hu, -⟩
    · exact h
    · cases hu
  | cons u us ih =>
    refine ih ?_
    by_cases hu : u.name = m
    · exact .inl (get?_undo_of_name_eq hu s s')
    · rcases h with h | ⟨v, hv, hm⟩
      · exact .inl (by rw [get?_undo_of_ne hu, get?_undo_of_ne hu, h])
      · rcases List.mem_cons.mp hv with rfl | hv
        · exact absurd hm hu
        · exact .inr ⟨v, hv, hm⟩

theorem get?_undo_all_put (us : List Undo) (s : Storage) (name m : String) (t : Table) :
    (us.foldl Storage.undo (s.put name t)).get? m = (us.foldl Storage.undo s).get? m ∨
      m = name ∧ (∀ u ∈ us, u.name ≠ m) ∧ (us.foldl Storage.undo (s.put name t)).get? m = some t ∧
        (us.foldl Storage.undo s).get? m = s.get? m := by
  by_cases hm : m = name
  · by_cases hu : ∃ u ∈ us, u.name = m
    · exact .inl (get?_undo_all_congr (.inr hu))
    · have hne : ∀ u ∈ us, u.name ≠ m := fun u hin he => hu ⟨u, hin, he⟩
      refine .inr ⟨hm, hne, ?_, get?_undo_all_of_ne hne s⟩
      rw [get?_undo_all_of_ne hne, get?_put, if_pos hm]
  · exact .inl (get?_undo_all_congr (.inl (by rw [get?_put, if_neg hm])))

end Storage

namespace Turn

variable {id : Nat} {H : Nat → String → Prop} {W : String → Prop} {t t' : Turn} {s₀ : Storage}

theorem Accounted.get?_rolledBack {x : Transaction} (h : t.Accounted id H)
    (hx : t.transaction = some x) (m : String) :
    (Turn.ended id false t.storage x).get? m =
      ((x.undo.foldl Storage.undo t.storage).get? m).map fun u => u.release id false := by
  rw [Turn.get?_ended]
  change ((x.undo.foldl Storage.undo t.storage).get? m).map _ = _
  refine Option.map_congr fun u hu => ?_
  split
  · rfl
  · next hout =>
    -- A table that the rollback leaves or puts back is on the list if the connection holds it.
    refine (Table.release_of_ne (fun hl => hout ?_) false).symm
    rcases Storage.get?_undo_all hu with hu | hu
    · obtain ⟨y, hy, hin⟩ := h.lists hu hl
      cases hx.symm.trans hy
      exact hin
    · exact (h.kept x hx m u hu).2.2

/-- A rollback of the transaction would leave these tables. -/
def Restores (id : Nat) (s₀ : Storage) (t : Turn) : Prop :=
  ∃ x, t.transaction = some x ∧ ∀ m,
    ((x.undo.foldl Storage.undo t.storage).get? m).map (fun u => u.release id false) = s₀.get? m

/-- Where a table is put in the place of another one that is released to the same, a rollback leaves
the same. -/
theorem Restores.put {x y : Transaction} {name : String} {table u : Table}
    (h : t.Restores id s₀) (hx : t.transaction = some x) (hg : t.storage.get? name = some table)
    (hu : u.release id false = table.release id false) (hy : y.undo = x.undo) :
    Restores id s₀ ⟨t.storage.put name u, some y⟩ := by
  obtain ⟨x', hx', hr⟩ := h
  cases hx.symm.trans hx'
  refine ⟨y, rfl, fun m => ?_⟩
  rw [← hr m, hy]
  rcases Storage.get?_undo_all_put x.undo t.storage name m u with he | ⟨rfl, -, he, hs⟩
  · rw [he]
  · rw [he, hs, hg]
    exact congrArg some hu

theorem Restores.note {x : Transaction} {s : Storage} {u : Undo} (h : t.Restores id s₀)
    (hx : t.transaction = some x) (hs : ∀ m, (s.undo u).get? m = t.storage.get? m) :
    Restores id s₀ ({ t with storage := s }.note u) := by
  obtain ⟨x', hx', hr⟩ := h
  cases hx.symm.trans hx'
  refine ⟨{ x with undo := u :: x.undo }, by simp [Turn.note, hx], fun m => ?_⟩
  rw [← hr m]
  exact congrArg (Option.map _) (Storage.get?_undo_all_congr (.inl (hs m)))

/-- **Whatever changes in a turn**, a rollback would leave the same. -/
theorem Restores.move (h : t.Restores id s₀) (ha : t.Accounted id H) (hm : Move id W t t') :
    t'.Restores id s₀ := by
  have hr := h
  obtain ⟨x, hx, -⟩ := hr
  cases hm with
  | @lock name table y hg hl hy =>
    cases hx.symm.trans hy
    refine h.put hx hg ?_ rfl
    rw [(ha.sound hg).release_acquire hl, Table.release_of_ne (by rw [hl]; exact nofun)]
  | @write name table rows _ hg hw _ =>
    have hl : table.lockedBy? = some id := by
      rcases hw with hl | ⟨-, hn⟩
      · exact hl
      · cases hx.symm.trans hn
    have := h.put hx hg ((ha.sound hg).release_setRows hl rows) (y := x) rfl
    rw [← hx] at this
    exact this
  | @create name columns _ hg =>
    refine h.note hx fun m => ?_
    rw [Storage.get?_undo_created]
    split
    · next hm => rw [hm, hg]
    · next hm => rw [Storage.get?_put, if_neg hm]
  | @drop name table _ hg _ =>
    refine h.note hx fun m => ?_
    rw [Storage.get?_undo_dropped]
    split
    · next hm => rw [hm, hg]
    · next hm => rw [Storage.get?_erase, if_neg hm]

theorem Restores.moves (h : t.Restores id s₀) (ha : t.Accounted id H) (hm : Moves id W t t') :
    t'.Restores id s₀ := by
  have : t'.Accounted id H ∧ t'.Restores id s₀ := by
    induction hm with
    | refl => exact ⟨ha, h⟩
    | tail _ hm ih => exact ⟨ih.1.move hm, ih.2.move ih.1 hm⟩
  exact this.2

end Turn

namespace Database

variable {db db' : Database} {id : Nat} {s₀ : Storage}

/-- The connection is in a transaction whose rollback would leave these tables, or it is not open
and these are the tables. -/
def Restores (id : Nat) (s₀ : Storage) (db : Database) : Prop :=
  Turn.Restores id s₀ ⟨db.storage, db.transaction? id⟩ ∨
    db.links.get? id = none ∧ ∀ m, db.storage.get? m = s₀.get? m

theorem Accounted.restores_begin (ha : db.Accounted) (hx : db.transaction? id = none) :
    (db.after (.call id .begin)).Restores id db.storage := by
  cases hl : db.links.get? id with
  | none =>
    have : db.after (.call id .begin) = db := by
      change (begin id db).2 = db
      simp only [begin, hl]
    rw [this]
    exact .inr ⟨hl, fun _ => rfl⟩
  | some link =>
    have ht := (transaction?_of_link hl).symm.trans hx
    have hafter : db.after (.call id .begin) =
        { db with links := db.links.set id { link with transaction := some {} } } := by
      change (begin id db).2 = _
      simp only [begin, hl, ht]
    rw [hafter]
    refine .inl ⟨{}, by rw [transaction?_set, if_pos rfl], fun m => ?_⟩
    change (db.storage.get? m).map _ = db.storage.get? m
    cases hg : db.storage.get? m with
    | none => rfl
    | some table => exact congrArg some (Table.release_of_ne (ha.lockedBy?_ne hx hg) false)

theorem call_of_closed (hl : db.links.get? id = none) (c : Call) :
    db.after (.call id c) = db := by
  have hp : db.prepared? id = .error (closed id) := by simp only [prepared?, hl]
  have hi : db.inTransaction id = false := by
    rw [inTransaction_eq, transaction?_of_none hl]
    rfl
  cases c with
  | begin =>
    change (begin id db).2 = db
    simp only [begin, hl]
  | commit =>
    change (finish id true db).2 = db
    simp only [finish, hl]
  | rollback =>
    change (rollback id db).2 = db
    simp [rollback, hi]
  | prepare sql =>
    change (prepare id sql db).2 = db
    simp only [prepare, hl]
  | bind position value =>
    change (bind id position value db).2 = db
    simp only [bind, hp]
  | query => exact congrArg Prod.snd (query_after_error hp)
  | update => exact congrArg Prod.snd (update_after_error hp)

theorem Restores.of_rested (h : Turn.Restores id s₀ ⟨db.storage, db.transaction? id⟩)
    (hr : Rested id db db') : db'.Restores id s₀ := by
  cases hr with
  | idle hst htr =>
    refine .inl ?_
    rw [hst, htr]
    exact h
  | began _ hnone _ =>
    obtain ⟨x, hx, -⟩ := h
    cases hx.symm.trans hnone

/-- Until its transaction ends, nothing that the connection does alters what a rollback would
leave. -/
theorem Restores.call (h : db.Restores id s₀) (ha : db.Accounted) {c : Call}
    (hc : c ≠ .commit ∧ c ≠ .rollback) : (db.after (.call id c)).Restores id s₀ := by
  rcases h with h | ⟨hl, hs⟩
  · cases c with
    | begin => exact .of_rested h (rested_begin id db)
    | commit => exact absurd rfl hc.1
    | rollback => exact absurd rfl hc.2
    | prepare sql => exact .of_rested h (rested_prepare id sql db)
    | bind position value => exact .of_rested h (rested_bind id position value db)
    | query =>
      change (query id db).2.Restores id s₀
      cases hp : db.prepared? id with
      | error e =>
        rw [query_after_error hp]
        exact .inl h
      | ok lp =>
        rw [query_after hp]
        exact .inl (h.moves (ha.turn id)
          (moves_settle_execute hp (W := fun _ => True) fun _ _ => trivial))
    | update =>
      change (update id db).2.Restores id s₀
      cases hp : db.prepared? id with
      | error e =>
        rw [update_after_error hp]
        exact .inl h
      | ok lp =>
        rw [update_after hp]
        split
        · exact .inl h
        · exact .inl (h.moves (ha.turn id)
            (moves_settle_execute hp (W := fun _ => True) fun _ _ => trivial))
  · rw [call_of_closed hl]
    exact .inr ⟨hl, hs⟩

theorem Restores.calls (h : db.Restores id s₀) (hr : Reachable db) {calls : List Call}
    (hc : ∀ c ∈ calls, c ≠ .commit ∧ c ≠ .rollback) :
    ((calls.map (Event.call id)).foldl Database.after db).Restores id s₀ := by
  induction calls generalizing db with
  | nil => exact h
  | cons c calls ih =>
    exact ih (h.call hr.accounted (hc c List.mem_cons_self)) (hr.after _)
      fun d hd => hc d (List.mem_cons_of_mem c hd)

theorem Restores.get?_finish (h : db.Restores id s₀) (ha : db.Accounted) (m : String) :
    (finish id false db).2.storage.get? m = s₀.get? m := by
  rcases h with ⟨x, hx, hr⟩ | ⟨hl, hs⟩
  · change db.transaction? id = some x at hx
    obtain ⟨link, hl, ht⟩ := Option.bind_eq_some_iff.mp hx
    rw [finish_of_transaction hl ht, storage_settle, ← hr m]
    exact (ha.turn id).get?_rolledBack hx m
  · obtain ⟨e, -, hst, -⟩ := finish_of_none (transaction?_of_none hl) false
    rw [hst, hs m]

/-- The events that take a transaction of a connection back. -/
inductive Withdrawal (id : Nat) : Event → Prop
  | rolledBack : Withdrawal id (.call id .rollback)
  | closed : Withdrawal id (.disconnect id)

theorem Withdrawal.ending {e : Event} (he : Withdrawal id e) : Ending id e := by
  cases he with
  | rolledBack => exact .rolledBack
  | closed => exact .closed

theorem Withdrawal.storage_after {e : Event} (he : Withdrawal id e) (db : Database) :
    (db.after e).storage = (finish id false db).2.storage := by
  cases he with
  | rolledBack => exact storage_rollback id db
  | closed => exact storage_disconnect id db

/-- **Rollbacks are exact.** Whatever a connection does in a transaction while the others rest, once
the transaction was rolled back, or the connection was closed, every table is what it was before:
the same tables exist, with the same columns, rows, locks and saved rows. -/
theorem rollback_exact (h : Reachable db) (hx : db.transaction? id = none) (calls : List Call)
    (hc : ∀ c ∈ calls, c ≠ .commit ∧ c ≠ .rollback) {e : Event} (he : Withdrawal id e) :
    let db' := (.call id .begin :: calls.map (.call id)).foldl Database.after db
    (db'.after e).transaction? id = none ∧
      ∀ name, (db'.after e).storage.get? name = db.storage.get? name := by
  intro db'
  have hrest : db'.Restores id db.storage :=
    (h.accounted.restores_begin hx).calls (h.after _) hc
  refine ⟨he.ending.transaction?_after db', fun name => ?_⟩
  rw [he.storage_after]
  exact hrest.get?_finish (h.foldl _).accounted name

/-- Calls that insert into a table, drop it, create it with another column, and insert again. -/
def recreating : List Call :=
  [.update, .prepare "drop table t", .update, .prepare "create table t (w bigint)", .update,
    .prepare "insert into t values (7)", .update]

/-- They leave another table, locked by the same connection, until they are taken back. -/
theorem rollback_exact_recreating :
    let db := (.call 1 .begin :: recreating.map (.call 1)).foldl Database.after ready
    db.storage.get? "t" = some ⟨["w"], [[7]], some 1, some []⟩ ∧
      (db.after (.call 1 .rollback)).storage.get? "t" = some ⟨["v"], [], none, none⟩ :=
  ⟨by decide +kernel,
    (rollback_exact ready_reachable rfl recreating (by decide) .rolledBack).2 "t"⟩

end Database

end CounterTable
