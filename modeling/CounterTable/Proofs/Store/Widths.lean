import CounterTable.Proofs.Store.Histories

/-!
# The width of rows

Rows have as many cells as their table has columns. That holds for the rows of a table, for those it
has saved, and for the tables that a transaction can put back.

* `Table.Rectangular`: the rows of a table;
* `Turn.Rectangular`, `Database.Rectangular`: the rows of all tables;
* **`Database.Reachable.rectangular`**: the rows in a reachable database.
-/

namespace CounterTable

namespace Table

/-- Every row of the table, also every saved one, has a cell for each column. -/
structure Rectangular (t : Table) : Prop where
  rows : t.Fits t.rows
  saved : ∀ rows, t.saved? = some rows → t.Fits rows

variable {t : Table} {id : Nat}

theorem Rectangular.committed (h : t.Rectangular) : t.Fits t.committed := by
  unfold Table.committed
  cases hs : t.saved? with
  | none => exact h.rows
  | some rows => exact h.saved rows hs

theorem Rectangular.acquire (h : t.Rectangular) (id : Nat) : (t.acquire id).Rectangular := by
  cases hl : t.lockedBy? with
  | some holder =>
    rw [acquire_of_locked hl]
    exact h
  | none =>
    rw [acquire_of_free hl]
    refine ⟨h.rows, fun rows hrows => ?_⟩
    have : t.rows = rows := Option.some.inj hrows
    subst this
    exact h.rows

theorem Rectangular.release (h : t.Rectangular) (id : Nat) (keep : Bool) :
    (t.release id keep).Rectangular := by
  unfold Table.release
  split
  · refine ⟨?_, fun rows hrows => (nomatch hrows)⟩
    cases keep with
    | true => exact h.rows
    | false => exact h.committed
  · exact h

end Table

/-- The dropped tables that a transaction can put back are rectangular. -/
def Transaction.KeepsRectangular (x : Option Transaction) : Prop :=
  ∀ y, x = some y → ∀ name table, .dropped name table ∈ y.undo → table.Rectangular

namespace Turn

/-- All tables of a turn are rectangular. -/
structure Rectangular (t : Turn) : Prop where
  tables : ∀ name table, t.storage.get? name = some table → table.Rectangular
  kept : Transaction.KeepsRectangular t.transaction

variable {id : Nat} {W : String → Prop} {t t' : Turn} {name : String} {table : Table}

theorem Rectangular.put (h : t.Rectangular) (ht : table.Rectangular) (m : String) (u : Table)
    (hm : (t.storage.put name table).get? m = some u) : u.Rectangular := by
  rw [Storage.get?_put] at hm
  split at hm
  · have : table = u := Option.some.inj hm
    subst this
    exact ht
  · exact h.tables m u hm

theorem Rectangular.note (h : t.Rectangular) {s : Storage} {u : Undo}
    (hu : ∀ name table, u = .dropped name table → table.Rectangular) :
    Transaction.KeepsRectangular ({ t with storage := s }.note u).transaction := by
  intro y hy m v hv
  obtain ⟨x, hx, rfl⟩ := Option.map_eq_some_iff.mp hy
  rcases List.mem_cons.mp hv with hv | hv
  · exact hu m v hv.symm
  · exact h.kept x hx m v hv

theorem Rectangular.move (h : t.Rectangular) (hm : Move id W t t') : t'.Rectangular := by
  cases hm with
  | @lock name table x hg _ hx =>
    refine ⟨h.put ((h.tables name table hg).acquire id), fun y hy m u hu => ?_⟩
    have hundo : y.undo = x.undo := by
      cases hy
      rfl
    rw [hundo] at hu
    exact h.kept x hx m u hu
  | @write name table rows _ hg _ hr =>
    have ht := h.tables name table hg
    exact ⟨h.put ⟨hr ht.rows, ht.saved⟩, h.kept⟩
  | @create name columns _ _ =>
    exact ⟨h.put ⟨fun _ hrow => (nomatch hrow), fun _ hs => (nomatch hs)⟩,
      h.note fun _ _ hu => (nomatch hu)⟩
  | @drop name table _ hg _ =>
    refine ⟨fun m u hm => ?_, h.note fun m u hu => ?_⟩
    · have hm : (if m = name then none else t.storage.get? m) = some u :=
        (Storage.get?_erase t.storage name m).symm.trans hm
      split at hm
      · cases hm
      · exact h.tables m u hm
    · cases hu
      exact h.tables name table hg

theorem Rectangular.moves (h : t.Rectangular) (hm : Moves id W t t') : t'.Rectangular := by
  induction hm with
  | refl => exact h
  | tail _ hm ih => exact ih.move hm

theorem Rectangular.ended {x : Transaction} (h : t.Rectangular) (hx : t.transaction = some x)
    (keep : Bool) (hg : (Turn.ended id keep t.storage x).get? name = some table) :
    table.Rectangular := by
  rw [get?_ended] at hg
  obtain ⟨u, hu, rfl⟩ := Option.map_eq_some_iff.mp hg
  have hrect : u.Rectangular := by
    cases keep with
    | true => exact h.tables name u hu
    | false =>
      rcases Storage.get?_undo_all hu with hu | hu
      · exact h.tables name u hu
      · exact h.kept x hx name u hu
  split
  · exact hrect.release id keep
  · exact hrect

end Turn

namespace Database

/-- All tables of a database are rectangular, also those that transactions can put back. -/
structure Rectangular (db : Database) : Prop where
  tables : ∀ name table, db.storage.get? name = some table → table.Rectangular
  kept : ∀ c, Transaction.KeepsRectangular (db.transaction? c)

variable {db : Database}

theorem Rectangular.after (h : db.Rectangular) (hn : db.Numbered) (e : Event) :
    (db.after e).Rectangular := by
  have ht : Turn.Rectangular ⟨db.storage, db.transaction? (db.actor e)⟩ := ⟨h.tables, h.kept _⟩
  -- Only the actor's own transaction can change, so its turn is all there is to look at.
  have of_turn (hstep : Turn.Rectangular
      ⟨(db.after e).storage, (db.after e).transaction? (db.actor e)⟩) :
      (db.after e).Rectangular := by
    refine ⟨hstep.tables, fun c => ?_⟩
    by_cases hc : c = db.actor e
    · rw [hc]
      exact hstep.kept
    · rw [transaction?_after e hc]
      exact h.kept c
  apply of_turn
  cases after_acts hn e with
  | rested hr =>
    cases hr with
    | idle hs hx =>
      rw [hs, hx]
      exact ht
    | began hs _ hx =>
      rw [hs, hx]
      refine ⟨ht.tables, fun y hy m u hu => ?_⟩
      cases hy
      cases hu
  | moved hm => exact ht.moves hm
  | @ended x keep hx hs hnone =>
    rw [hs, hnone]
    exact ⟨fun m u hg => ht.ended hx keep hg, fun _ hy => (nomatch hy)⟩

/-- **In a reachable database** every row has a cell for each column of its table. -/
theorem Reachable.rectangular (h : Reachable db) : db.Rectangular := by
  induction h with
  | new => exact ⟨fun _ _ hg => (nomatch hg), fun _ _ hy => (nomatch hy)⟩
  | after e h ih => exact ih.after h.numbered e

end Database

end CounterTable
