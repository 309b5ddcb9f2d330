import CounterTable.Store.Table

/-!
# Tables and storages, one table at a time

A storage is looked at through `Storage.get?`, the table of a name: every operation is described by
what it does to each name. A table is *sound* if it keeps saved rows exactly while it is locked;
then its committed rows are the saved ones, or all of its rows.

* `Table.Sound`, `Table.committed`, `Table.Free`: the lock and what it saves;
* `Table.visibleRows_eq_rows`, `Table.visibleRows_eq_committed`: what connections see;
* `Storage.get?` with one lemma for each operation;
* **`Storage.get?_releases`**: a list of locks given back.
-/

namespace CounterTable

namespace Table

/-- The table keeps saved rows exactly while it is locked. -/
def Sound (t : Table) : Prop := t.saved?.isSome = t.lockedBy?.isSome

/-- The rows that connections see which do not hold the lock. -/
def committed (t : Table) : List Row := t.saved?.getD t.rows

/-- These rows have a cell for each column. -/
def Fits (t : Table) (rows : List Row) : Prop := ∀ row ∈ rows, row.length = t.columns.length

/-- No other connection holds the lock. -/
def Free (id : Nat) (t : Table) : Prop := t.lockedBy? = none ∨ t.lockedBy? = some id

instance (id : Nat) (t : Table) : Decidable (t.Free id) := inferInstanceAs (Decidable (_ ∨ _))

variable {t : Table} {id : Nat}

theorem columnIndex_lt {column : String} {i : Nat} (h : t.columnIndex column = .ok i) :
    i < t.columns.length := by
  unfold columnIndex at h
  split at h
  · next j hj =>
    cases h
    exact (List.findIdx?_eq_some_iff_getElem.mp hj).1
  · cases h

theorem Sound.saved_eq_none (h : t.Sound) (hl : t.lockedBy? = none) : t.saved? = none := by
  rw [Sound, hl] at h
  exact Option.isSome_eq_false_iff.mp h |> Option.isNone_iff_eq_none.mp

theorem Sound.committed_eq_rows (h : t.Sound) (hl : t.lockedBy? = none) : t.committed = t.rows := by
  rw [committed, h.saved_eq_none hl, Option.getD_none]

theorem visibleRows_eq_rows (h : t.Sound) (hf : t.Free id) : t.visibleRows id = t.rows := by
  rcases hf with hl | hl
  · rw [visibleRows, h.saved_eq_none hl, hl]
  · rw [visibleRows, hl]
    cases t.saved? <;> simp

theorem visibleRows_eq_committed (h : t.Sound) (hl : t.lockedBy? ≠ some id) :
    t.visibleRows id = t.committed := by
  unfold Sound at h
  unfold visibleRows committed
  cases hs : t.saved? with
  | none => simp
  | some saved =>
    cases ho : t.lockedBy? with
    | none => simp [hs, ho] at h
    | some owner => simpa using fun e : owner = id => absurd ho (by rw [e]; exact hl)

theorem acquire_of_free (hl : t.lockedBy? = none) (id : Nat) :
    t.acquire id = { t with lockedBy? := some id, saved? := some t.rows } := by
  rw [acquire, hl]

theorem acquire_of_locked {owner : Nat} (hl : t.lockedBy? = some owner) (id : Nat) :
    t.acquire id = t := by
  simp only [acquire, hl]

theorem release_of_ne (hl : t.lockedBy? ≠ some id) (keep : Bool) : t.release id keep = t := by
  rw [release, if_neg hl]

theorem release_release (keep : Bool) : (t.release id keep).release id keep = t.release id keep := by
  unfold release
  by_cases h : t.lockedBy? = some id <;> simp [h]

theorem exists_holder (h : ¬ t.Free id) : ∃ holder, t.lockedBy? = some holder ∧ holder ≠ id := by
  obtain ⟨holder, hl⟩ := Option.ne_none_iff_exists'.mp fun hn => h (.inl hn)
  exact ⟨holder, hl, fun he => h (.inr (by rw [hl, he]))⟩

theorem lockedBy?_release {keep : Bool} {c : Nat} (h : (t.release id keep).lockedBy? = some c) :
    c ≠ id ∧ t.release id keep = t := by
  by_cases hl : t.lockedBy? = some id
  · simp [release, hl] at h
  · rw [release_of_ne hl] at h
    exact ⟨fun e => hl (e ▸ h), release_of_ne hl keep⟩

theorem Sound.acquire (h : t.Sound) (id : Nat) : (t.acquire id).Sound := by
  unfold Table.acquire
  split
  · exact h
  · rfl

theorem Sound.release (h : t.Sound) (id : Nat) (keep : Bool) : (t.release id keep).Sound := by
  unfold Table.release
  split
  · rfl
  · exact h

theorem columns_acquire (t : Table) (id : Nat) : (t.acquire id).columns = t.columns := by
  unfold Table.acquire
  split <;> rfl

theorem Free.lockedBy?_acquire (h : t.Free id) : (t.acquire id).lockedBy? = some id := by
  rcases h with hl | hl
  · rw [acquire_of_free hl]
  · rw [acquire_of_locked hl, hl]

theorem Sound.committed_acquire (h : t.Sound) (hf : t.Free id) (rows : List Row) :
    ({ t.acquire id with rows } : Table).committed = t.committed := by
  rcases hf with hl | hl
  · rw [h.committed_eq_rows hl, acquire_of_free hl]
    rfl
  · obtain ⟨saved, hs⟩ := Option.isSome_iff_exists.mp (h.trans (by rw [hl]; rfl))
    rw [acquire_of_locked hl, committed, committed, hs]
    rfl

theorem Free.eq_of_locked {c : Nat} (h : t.Free id) (hl : t.lockedBy? = some c) : c = id := by
  rcases h with h | h
  · exact nomatch hl.symm.trans h
  · exact Option.some.inj (hl.symm.trans h)

end Table

namespace Storage

/-- The table of a name. -/
def get? (s : Storage) (name : String) : Option Table := s.tables.get? name

variable {s : Storage} {name m : String} {t : Table}

theorem contains_eq (s : Storage) (name : String) : s.contains name = (s.get? name).isSome := rfl

theorem table_of_get? (h : s.get? name = some t) : s.table name = .ok t := by
  unfold get? at h
  rw [table, h]

theorem table_of_get?_none (h : s.get? name = none) :
    s.table name = .error (.tableNotFound name) := by
  unfold get? at h
  rw [table, h]

@[simp] theorem get?_put (s : Storage) (name m : String) (t : Table) :
    (s.put name t).get? m = if m = name then some t else s.get? m := by
  simp [get?, put]

@[simp] theorem get?_erase (s : Storage) (name m : String) :
    Storage.get? ⟨s.tables.erase name⟩ m = if m = name then none else s.get? m := by
  simp [get?]

@[simp] theorem get?_empty (m : String) : Storage.get? {} m = none := rfl

theorem create_of_get?_none (h : s.get? name = none) (columns : List String) :
    s.create name columns = .ok (s.put name { columns }) := by
  rw [create, contains_eq, h]
  rfl

theorem create_of_get? (h : s.get? name = some t) (columns : List String) :
    s.create name columns = .error (.tableExists name) := by
  rw [create, contains_eq, h]
  rfl

theorem drop_of_get? (h : s.get? name = some t) :
    s.drop name = .ok (t, ⟨s.tables.erase name⟩) := by
  rw [drop, table_of_get? h]
  rfl

theorem acquire_of_get?_none (h : s.get? name = none) (id : Nat) (hold : Bool) :
    s.acquire name id hold = .error (.tableNotFound name) := by
  rw [acquire, table_of_get?_none h]

theorem acquire_of_free (h : s.get? name = some t) (hl : t.lockedBy? = none) (id : Nat)
    (hold : Bool) :
    s.acquire name id hold = .ok (hold, if hold then s.put name (t.acquire id) else s) := by
  rw [acquire, table_of_get? h]
  simp [hl]

theorem acquire_of_own (h : s.get? name = some t) {id : Nat} (hl : t.lockedBy? = some id)
    (hold : Bool) : s.acquire name id hold = .ok (false, s) := by
  rw [acquire, table_of_get? h]
  simp [hl]

/-- The failure of needing a lock that another connection holds. -/
def lockHeld (name : String) (holder : Nat) : Error :=
  .lock s!"timed out waiting for the lock on {name} held by connection {holder}"

theorem acquire_of_other (h : s.get? name = some t) {id holder : Nat}
    (hl : t.lockedBy? = some holder) (hne : holder ≠ id) (hold : Bool) :
    s.acquire name id hold = .error (lockHeld name holder) := by
  rw [acquire, table_of_get? h]
  simp [hl, hne, lockHeld]

@[simp] theorem get?_release (s : Storage) (id : Nat) (keep : Bool) (name m : String) :
    (s.release id keep name).get? m =
      (s.get? m).map fun t => if m = name then t.release id keep else t := by
  have hname : s.tables.get? name = s.get? name := rfl
  unfold release
  rw [hname]
  by_cases hm : m = name
  · subst hm
    cases h : s.get? m with
    | none => simp [h]
    | some t => simp
  · split <;> simp [hm]

theorem get?_releases (names : List String) (s : Storage) (id : Nat) (keep : Bool) (m : String) :
    (names.foldl (fun s name => s.release id keep name) s).get? m =
      (s.get? m).map fun t => if m ∈ names then t.release id keep else t := by
  induction names generalizing s with
  | nil => simp
  | cons name names ih =>
    rw [List.foldl_cons, ih, get?_release, Option.map_map]
    congr 1
    funext t
    by_cases hm : m = name <;> by_cases hn : m ∈ names <;>
      simp [hm, hn, Table.release_release]

theorem get?_undo_created (s : Storage) (name m : String) :
    (s.undo (.created name)).get? m = if m = name then none else s.get? m := get?_erase s name m

theorem get?_undo_dropped (s : Storage) (name m : String) (t : Table) :
    (s.undo (.dropped name t)).get? m = if m = name then some t else s.get? m := get?_put s name m t

theorem get?_undo_all {us : List Undo} (h : (us.foldl Storage.undo s).get? m = some t) :
    s.get? m = some t ∨ Undo.dropped m t ∈ us := by
  induction us generalizing s with
  | nil => exact .inl h
  | cons u us ih =>
    rcases ih h with h | h
    · cases u with
      | created name =>
        rw [get?_undo_created] at h
        split at h
        · cases h
        · exact .inl h
      | dropped name table =>
        rw [get?_undo_dropped] at h
        split at h
        · next hm =>
          cases h
          exact .inr (by simp [hm])
        · exact .inl h
    · exact .inr (List.mem_cons_of_mem u h)

end Storage

end CounterTable
