import CounterTable.Proofs.Store.Locks

/-!
# What leaves a table alone

An event that does not write a table can take its lock or give it back, and that is all it can do to
the table, provided that it ends no transaction which has.

* `Table.Kept`: the same rows and committed rows, and the same lock unless it is the own one;
* `Turn.Moves.kept`: statements that do not write the table;
* **`Database.after_kept`**: events that do not write the table.
-/

namespace CounterTable

/-- The table whose creation or removal is taken back. -/
def Undo.name : Undo → String
  | created name | dropped name _ => name

/-- A transaction has neither created nor dropped a table. -/
def Transaction.Spares (name : String) (x : Option Transaction) : Prop :=
  ∀ y, x = some y → ∀ u ∈ y.undo, u.name ≠ name

/-- The connection has at most taken the lock of the table, or given it back. -/
structure Table.Kept (id : Nat) (t t' : Table) : Prop where
  sound : t'.Sound
  columns : t'.columns = t.columns
  rows : t'.rows = t.rows
  committed : t'.committed = t.committed
  others : ∀ c, c ≠ id → (t'.lockedBy? = some c ↔ t.lockedBy? = some c)

namespace Table

variable {id : Nat} {t t' t'' : Table}

theorem Kept.refl (h : t.Sound) (id : Nat) : Kept id t t := ⟨h, rfl, rfl, rfl, fun _ _ => .rfl⟩

theorem Kept.trans (h : Kept id t t') (h' : Kept id t' t'') : Kept id t t'' where
  sound := h'.sound
  columns := h'.columns.trans h.columns
  rows := h'.rows.trans h.rows
  committed := h'.committed.trans h.committed
  others c hc := (h'.others c hc).trans (h.others c hc)

theorem Kept.acquire (h : t.Sound) (hl : t.lockedBy? = none) (id : Nat) :
    Kept id t (t.acquire id) := by
  refine ⟨h.acquire id, columns_acquire t id, ?_, ?_, fun c hc => ?_⟩
  · rw [acquire_of_free hl]
  · rw [h.committed_eq_rows hl, acquire_of_free hl]
    rfl
  · rw [acquire_of_free hl, hl]
    simp only [Option.some.injEq, reduceCtorEq, iff_false]
    exact Ne.symm hc

theorem Kept.acquire_rows (h : t.Sound) (hf : t.Free id) :
    Kept id t { t.acquire id with rows := t.rows } := by
  rcases hf with hl | hl
  · have := Kept.acquire h hl id
    rwa [acquire_of_free hl] at this ⊢
  · rw [acquire_of_locked hl]
    exact .refl h id

theorem Kept.release (h : t.Sound) (hr : t.lockedBy? = some id → t.rows = t.committed)
    (keep : Bool) : Kept id t (t.release id keep) := by
  by_cases hl : t.lockedBy? = some id
  · have he : t.release id keep = { t with lockedBy? := none, saved? := none } := by
      have hrows : (if keep then t.rows else t.saved?.getD t.rows) = t.rows := by
        split
        · rfl
        · exact (hr hl).symm
      rw [Table.release, if_pos hl, hrows]
    rw [he]
    refine ⟨rfl, rfl, rfl, hr hl, fun c hc => ?_⟩
    rw [hl]
    simp only [reduceCtorEq, Option.some.injEq, false_iff]
    exact Ne.symm hc
  · rw [release_of_ne hl]
    exact .refl h id

end Table

theorem Storage.get?_undo_of_ne {u : Undo} {name : String} (h : u.name ≠ name) (s : Storage) :
    (s.undo u).get? name = s.get? name := by
  cases u with
  | created m => exact (get?_undo_created s m name).trans (if_neg (Ne.symm h))
  | dropped m t => exact (get?_undo_dropped s m name t).trans (if_neg (Ne.symm h))

theorem Storage.get?_undo_all_of_ne {us : List Undo} {name : String} (h : ∀ u ∈ us, u.name ≠ name)
    (s : Storage) : (us.foldl Storage.undo s).get? name = s.get? name := by
  induction us generalizing s with
  | nil => rfl
  | cons u us ih =>
    exact (ih (fun v hv => h v (List.mem_cons_of_mem u hv)) _).trans
      (get?_undo_of_ne (h u List.mem_cons_self) s)

namespace Turn

variable {id : Nat} {W : String → Prop} {t t' : Turn} {name : String} {table : Table}

theorem Move.kept (h : Move id W t t') (hW : ¬ W name) (hg : t.storage.get? name = some table)
    (hs : table.Sound) : ∃ table', t'.storage.get? name = some table' ∧ table.Kept id table' := by
  have hsame : t'.storage.get? name = t.storage.get? name →
      ∃ table', t'.storage.get? name = some table' ∧ table.Kept id table' :=
    fun he => ⟨table, he.trans hg, .refl hs id⟩
  have hne : ∀ {m : String}, W m → name ≠ m := fun hm he => hW (he ▸ hm)
  cases h with
  | @lock m u x hm hl hx =>
    by_cases hn : name = m
    · subst hn
      rw [hg] at hm
      cases hm
      exact ⟨table.acquire id, by rw [Storage.get?_put, if_pos rfl], .acquire hs hl id⟩
    · exact hsame (by rw [Storage.get?_put, if_neg hn])
  | write rows hn hm hw _ =>
    exact hsame ((Storage.get?_put ..).trans (if_neg (hne hn)))
  | create columns hn hm => exact hsame ((Storage.get?_put ..).trans (if_neg (hne hn)))
  | drop hn hm hw => exact hsame ((Storage.get?_erase ..).trans (if_neg (hne hn)))

theorem Moves.kept (h : Moves id W t t') (hW : ¬ W name) (hg : t.storage.get? name = some table)
    (hs : table.Sound) : ∃ table', t'.storage.get? name = some table' ∧ table.Kept id table' := by
  induction h with
  | refl => exact ⟨table, hg, .refl hs id⟩
  | tail _ hm ih =>
    obtain ⟨u, hu, hk⟩ := ih
    obtain ⟨v, hv, hk'⟩ := hm.kept hW hu hk.sound
    exact ⟨v, hv, hk.trans hk'⟩

theorem Moves.spares (h : Moves id W t t') (hW : ¬ W name)
    (hx : Transaction.Spares name t.transaction) : Transaction.Spares name t'.transaction := by
  have hnote : ∀ {t : Turn} {s : Storage} {v : Undo}, v.name ≠ name →
      Transaction.Spares name t.transaction →
        Transaction.Spares name ({ t with storage := s }.note v).transaction := by
    intro t s v hv hx y hy u hu
    obtain ⟨z, hz, rfl⟩ := Option.map_eq_some_iff.mp hy
    rcases List.mem_cons.mp hu with rfl | hu
    · exact hv
    · exact hx z hz u hu
  induction h with
  | refl => exact hx
  | tail _ hm ih =>
    cases hm with
    | lock _ _ hx => exact fun y hy u hu => by cases hy; exact ih _ hx u hu
    | write => exact ih
    | create _ hn => exact hnote (fun he => hW (he ▸ hn)) ih
    | drop hn => exact hnote (fun he => hW (he ▸ hn)) ih

end Turn

namespace Database

variable {db : Database} {e : Event} {name : String} {table : Table}

/-- **Events that do not write a table** keep it, and leave no way to take its creation or removal
back. -/
theorem after_kept (hn : db.Numbered) (hw : ¬ db.Writes e name)
    (hx : Transaction.Spares name (db.transaction? (db.actor e)))
    (hg : db.storage.get? name = some table) (hs : table.Sound)
    (hr : table.lockedBy? = some (db.actor e) → table.rows = table.committed) :
    (∃ table', (db.after e).storage.get? name = some table' ∧ table.Kept (db.actor e) table') ∧
      Transaction.Spares name ((db.after e).transaction? (db.actor e)) := by
  cases after_acts hn e with
  | rested h =>
    cases h with
    | idle hst htr =>
      rw [hst, htr]
      exact ⟨⟨table, hg, .refl hs _⟩, hx⟩
    | began hst _ htr =>
      rw [hst, htr]
      exact ⟨⟨table, hg, .refl hs _⟩, fun y hy u hu => by cases hy; cases hu⟩
  | moved h => exact ⟨h.kept hw hg hs, h.spares hw hx⟩
  | @ended x keep h hst htr =>
    rw [hst, htr]
    refine ⟨?_, fun y hy => nomatch hy⟩
    have hu : (if keep then db.storage else x.undo.foldl Storage.undo db.storage).get? name =
        some table := by
      split
      · exact hg
      · exact (Storage.get?_undo_all_of_ne (hx x h) db.storage).trans hg
    rw [Turn.get?_ended, hu]
    by_cases hin : name ∈ x.locked
    · exact ⟨_, congrArg some (if_pos hin), .release hs hr keep⟩
    · exact ⟨_, congrArg some (if_neg hin), .refl hs _⟩

end Database

end CounterTable
