import CounterTable.Proofs.Store.Locks
import CounterTable.Proofs.Store.Rows

/-!
# Executing deeds again

A transaction is replayed by executing its statements again, on a storage that nobody else uses.
A deed only depends on the earlier ones of its own table, so a replay is known as soon as it is
known for each table alone.

* `Storage.replay`: a transaction executed again, as long as every answer is the same;
* `Table.redo`, `Table.redoAll`: deeds done again on a single table, without locks;
* **`Storage.replay_eq`**: a replay, one table at a time.
-/

namespace CounterTable

/-- The turn after a deed was executed again; none if the answer is not the same. -/
def Turn.again (id : Nat) (t : Turn) (d : Deed) : Option Turn :=
  match execute id d.bindings d.statement t with
  | (.ok r, t) => if r = d.reply then some t else none
  | (.error _, _) => none

/-- The storage after a transaction was executed again, on its own; none if some answer is not the
same. -/
def Storage.replay (id : Nat) (s : Storage) (ds : List Deed) : Option Storage :=
  (ds.foldlM (Turn.again id) ⟨s, some {}⟩).map fun t => (Turn.finish id true t).2.storage

namespace Table

/-- The table after a deed was done again, without locks; none if the answer is not the same. -/
def redo (t : Table) (d : Deed) : Option Table :=
  match t.run d.bindings d.statement with
  | .ok (r, rows) => if r = d.reply then some { t with rows } else none
  | .error _ => none

/-- The table after some deeds were done again. -/
def redoAll (t : Table) (ds : List Deed) : Option Table := ds.foldlM redo t

variable {t u : Table} {d : Deed} {ds es : List Deed}

theorem redo_eq_some (h : t.redo d = some u) :
    ∃ rows, t.run d.bindings d.statement = .ok (d.reply, rows) ∧ u = { t with rows } := by
  unfold redo at h
  split at h
  · next r rows hr =>
    split at h
    · next he =>
      cases h
      exact ⟨rows, he ▸ hr, rfl⟩
    · cases h
  · cases h

theorem redo_of_run {rows : List Row} (h : t.run d.bindings d.statement = .ok (d.reply, rows)) :
    t.redo d = some { t with rows } := by
  rw [redo, h]
  exact if_pos rfl

theorem redoAll_append (t : Table) (ds es : List Deed) :
    t.redoAll (ds ++ es) = (t.redoAll ds).bind fun u => u.redoAll es := by
  rw [redoAll, List.foldlM_append]
  rfl

theorem redoAll_of_not_changes (hd : ∀ d ∈ ds, d.changes = false) (h : t.redoAll ds = some u) :
    u = t := by
  induction ds generalizing t with
  | nil => exact (Option.some.inj h).symm
  | cons d ds ih =>
    obtain ⟨v, hv, hu⟩ := Option.bind_eq_some_iff.mp h
    obtain ⟨rows, hr, rfl⟩ := redo_eq_some hv
    have hrows : rows = t.rows := rows_of_run hr (hd d List.mem_cons_self)
    rw [hrows] at hu
    exact ih (fun e he => hd e (List.mem_cons_of_mem d he)) hu

end Table

/-- The deeds on one table. -/
def Deed.on (name : String) (ds : List Deed) : List Deed := ds.filter fun d => d.target = name

theorem Deed.on_cons (name : String) (d : Deed) (ds : List Deed) :
    Deed.on name (d :: ds) = if d.target = name then d :: Deed.on name ds else Deed.on name ds := by
  simp [Deed.on, List.filter_cons]

theorem Deed.on_append (name : String) (ds es : List Deed) :
    Deed.on name (ds ++ es) = Deed.on name ds ++ Deed.on name es := List.filter_append ..

/-- What the rest of some deeds makes of each table after the first one is what all make of it
before. -/
theorem Deed.bind_redoAll_on {f g : String → Option Table} {d : Deed} {t u : Table}
    (hf : f d.target = some t) (hu : t.redo d = some u)
    (hg : ∀ m, g m = if m = d.target then some u else f m) (ds : List Deed) (m : String) :
    ((g m).bind fun v => v.redoAll (Deed.on m ds)) =
      (f m).bind fun v => v.redoAll (Deed.on m (d :: ds)) := by
  rw [hg, Deed.on_cons]
  by_cases hm : m = d.target
  · subst hm
    rw [if_pos rfl, if_pos rfl, hf]
    change u.redoAll _ = (t.redo d).bind _
    rw [hu]
    rfl
  · rw [if_neg hm, if_neg (Ne.symm hm)]

namespace Turn

/-- Nobody else holds a lock, and those of the connection are listed. -/
abbrev Alone (id : Nat) (t : Turn) : Prop := t.Accounted id fun _ _ => False

variable {id : Nat} {t : Turn} {name : String} {table : Table} {d : Deed} {ds : List Deed}

theorem Accounted.free_of_alone (h : t.Alone id) (hg : t.storage.get? name = some table) :
    table.Free id := by
  cases hl : table.lockedBy? with
  | none => exact .inl hl
  | some c =>
    rcases (h.tables name table hg).2 c hl with ⟨rfl, -⟩ | ⟨-, hf⟩
    · exact .inr hl
    · exact hf.elim

theorem Accounted.execute {H : Nat → String → Prop} (h : t.Accounted id H) (b : Bindings)
    (s : Statement) : (execute id b s t).2.Accounted id H :=
  h.moves (execute_moves (W := fun _ => True) id b s t fun _ _ => trivial)

theorem transaction_execute_isSome (id : Nat) (b : Bindings) (s : Statement) (t : Turn) :
    (Turn.execute id b s t).2.transaction.isSome = t.transaction.isSome :=
  (execute_moves (W := fun _ => True) id b s t fun _ _ => trivial).transaction_isSome

/-- A table of a turn without its locks. -/
def unlocked (t : Turn) (name : String) : Option Table := (t.storage.get? name).map Table.plain

/-- Where a deed can be done again without locks, it is executed with the same answer, and the turn
has this table. -/
theorem again_of_redo (h : t.Alone id) (hk : d.kept = true)
    (hg : t.storage.get? d.target = some table) {u : Table} (hr : table.plain.redo d = some u) :
    again id t d = some (execute id d.bindings d.statement t).2 ∧
      ∀ m, (execute id d.bindings d.statement t).2.unlocked m =
        if m = d.target then some u else t.unlocked m := by
  obtain ⟨rows, hrun, rfl⟩ := Table.redo_eq_some hr
  have hrun := (Table.run_congr (t := table) (u := table.plain) rfl rfl _ _).trans hrun
  obtain ⟨ha, hw⟩ := execute_of_run hg (h.sound hg) (h.free_of_alone hg) hrun hk
  refine ⟨?_, fun m => ?_⟩
  · rcases hx : execute id d.bindings d.statement t with ⟨r, t'⟩
    rw [hx] at ha
    cases ha
    rw [again, hx]
    exact if_pos rfl
  · rw [unlocked, hw.get? m]
    change (if m = d.target then _ else _ : Option Table).map _ = _
    split
    · simp [Table.plain, claimed_columns]
    · rfl

/-- Deeds that can be done again on each table alone are executed one after another, and the tables
of the turn are what this makes of them. -/
theorem again_all (h : t.Alone id) (hx : t.transaction.isSome)
    (hd : ∀ d ∈ ds, d.kept = true ∧ (t.unlocked d.target).isSome)
    (hr : ∀ m, (t.unlocked m).isSome →
      ((t.unlocked m).bind fun u => u.redoAll (Deed.on m ds)).isSome) :
    ∃ t', ds.foldlM (again id) t = some t' ∧ t'.Alone id ∧ t'.transaction.isSome ∧
      ∀ m, t'.unlocked m = (t.unlocked m).bind fun u => u.redoAll (Deed.on m ds) := by
  induction ds generalizing t with
  | nil =>
    refine ⟨t, rfl, h, hx, fun m => ?_⟩
    exact (Option.bind_fun_some _).symm
  | cons d ds ih =>
    obtain ⟨hk, hsome⟩ := hd d List.mem_cons_self
    obtain ⟨v, hv⟩ := Option.isSome_iff_exists.mp hsome
    obtain ⟨table, hg, rfl⟩ := Option.map_eq_some_iff.mp hv
    have hdone : (table.plain.redoAll (Deed.on d.target (d :: ds))).isSome := by
      have hdone := hr d.target hsome
      rw [hv] at hdone
      exact hdone
    rw [Deed.on_cons, if_pos rfl] at hdone
    obtain ⟨w, hw⟩ := Option.isSome_iff_exists.mp hdone
    obtain ⟨u, hu, -⟩ := Option.bind_eq_some_iff.mp hw
    obtain ⟨hagain, hunlocked⟩ := again_of_redo h hk hg hu
    have hrest := Deed.bind_redoAll_on hv hu hunlocked ds
    have hsame : ∀ m, ((execute id d.bindings d.statement t).2.unlocked m).isSome =
        (t.unlocked m).isSome := by
      intro m
      rw [hunlocked]
      split
      · next hm => rw [hm, hv, Option.isSome_some, Option.isSome_some]
      · rfl
    obtain ⟨t', ht', ha', hx', hget'⟩ := ih (h.execute d.bindings d.statement)
      ((transaction_execute_isSome id _ _ t).trans hx)
      (fun e he => by rw [hsame]; exact hd e (List.mem_cons_of_mem d he))
      (fun m hm => by rw [hrest]; exact hr m (hsame m ▸ hm))
    refine ⟨t', ?_, ha', hx', fun m => (hget' m).trans (hrest m)⟩
    rw [List.foldlM_cons, hagain]
    exact ht'

theorem get?_finish_alone (h : t.Alone id) {x : Transaction} (hx : t.transaction = some x)
    (m : String) :
    (finish id true t).2.storage.get? m = (t.storage.get? m).map Table.plain := by
  rw [finish_of_transaction hx]
  refine (h.get?_ended hx (.inl rfl) m).trans ?_
  cases hg : t.storage.get? m with
  | none => rfl
  | some table =>
    refine congrArg some (?_ : table.release id true = table.plain)
    rcases h.free_of_alone hg with hl | hl
    · rw [Table.release_of_ne (by rw [hl]; exact nofun), (h.sound hg).plain_of_free hl]
    · rw [Table.release, if_pos hl]
      rfl

end Turn

namespace Storage

/-- No table of the storage is locked. -/
def Plain (s : Storage) : Prop := ∀ name table, s.get? name = some table → table.plain = table

variable {s : Storage} {ds : List Deed}

theorem Plain.alone (h : s.Plain) (id : Nat) (x : Option Transaction) (hx : Transaction.Keeps id x) :
    Turn.Alone id ⟨s, x⟩ where
  tables name table hg := by
    rw [← h name table hg]
    exact ⟨rfl, fun c hc => nomatch hc⟩
  kept := hx

/-- **A replay** succeeds if the deeds on each table can be done again on it, and makes of each
table what they do. -/
theorem replay_eq (h : s.Plain) (id : Nat)
    (hd : ∀ d ∈ ds, d.kept = true ∧ (s.get? d.target).isSome)
    (hr : ∀ name table, s.get? name = some table → (table.redoAll (Deed.on name ds)).isSome) :
    ∃ s', s.replay id ds = some s' ∧
      ∀ m, s'.get? m = (s.get? m).bind fun t => t.redoAll (Deed.on m ds) := by
  have ha : Turn.Alone id ⟨s, some {}⟩ :=
    h.alone id (some {}) fun y hy name table hu => by cases hy; cases hu
  have hunlocked : ∀ m, Turn.unlocked ⟨s, some {}⟩ m = s.get? m := fun m =>
    (Option.map_congr (h m)).trans (Option.map_id_fun' ▸ rfl)
  have hr' : ∀ m, (s.get? m).isSome →
      ((s.get? m).bind fun t => t.redoAll (Deed.on m ds)).isSome := by
    intro m hm
    obtain ⟨table, hg⟩ := Option.isSome_iff_exists.mp hm
    rw [hg]
    exact hr m table hg
  obtain ⟨t', ht', ha', hx', hget⟩ := Turn.again_all ha rfl
    (fun d hmem => by rw [hunlocked]; exact hd d hmem)
    (fun m hm => by rw [hunlocked] at hm ⊢; exact hr' m hm)
  obtain ⟨x, hx⟩ := Option.isSome_iff_exists.mp hx'
  refine ⟨(Turn.finish id true t').2.storage, by rw [replay, ht']; rfl, fun m => ?_⟩
  rw [Turn.get?_finish_alone ha' hx, ← hunlocked m]
  exact hget m

end Storage

end CounterTable
