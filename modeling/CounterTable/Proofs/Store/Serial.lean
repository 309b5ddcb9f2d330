import CounterTable.Proofs.Store.Chronicle

/-!
# Writes are serializable

A connection holds the lock of every table that it has written, or read for update, until its
transaction ends. So what it did there is done again with the same answers on the rows that were
committed when it took the lock, and these are still the committed ones when it ends.

* `Chronicle.replayed?`: the committed transactions of a chronicle, one after another;
* `Database.Serial`: a database agrees with a replay of its chronicle;
* `Database.Serial.executed`, `Database.Serial.committed`, `Database.Serial.undone`: each event
  preserves this;
* **`Database.writes_serializable`**: what is committed is what the replay makes.
-/

namespace CounterTable

/-- The deeds that a replay executes: those that wrote rows or read them for update. -/
def Deed.keep (ds : List Deed) : List Deed := ds.filter Deed.kept

theorem Deed.keep_append (ds es : List Deed) :
    Deed.keep (ds ++ es) = Deed.keep ds ++ Deed.keep es := List.filter_append ..

theorem Deed.keep_of_not_kept {d : Deed} (hk : d.kept = false) : Deed.keep [d] = [] := by
  simp [Deed.keep, hk]

theorem Deed.keep_of_kept {d : Deed} (hk : d.kept = true) : Deed.keep [d] = [d] := by
  simp [Deed.keep, hk]

theorem Table.redoAll_keep {t : Table} {d : Deed} {rows : List Row}
    (h : t.run d.bindings d.statement = .ok (d.reply, rows)) :
    t.plain.redoAll (Deed.keep [d]) = some { t.plain with rows } := by
  cases hk : d.kept with
  | true =>
    rw [Deed.keep_of_kept hk]
    refine (Option.bind_fun_some _).trans (redo_of_run ?_)
    exact (run_congr rfl rfl _ _).trans h
  | false =>
    have : rows = t.rows := rows_of_run h (changes_of_not_kept h hk)
    rw [Deed.keep_of_not_kept hk, this]
    rfl

theorem Deed.eq_of_mem_keep {d e : Deed} (h : e ∈ Deed.keep [d]) : e = d :=
  List.mem_singleton.mp (List.mem_filter.mp h).1

theorem Deed.on_eq_self {name : String} {ds : List Deed} (h : ∀ d ∈ ds, d.target = name) :
    Deed.on name ds = ds :=
  List.filter_eq_self.mpr fun d hd => decide_eq_true (h d hd)

theorem Deed.on_eq_nil {name m : String} {ds : List Deed} (h : ∀ d ∈ ds, d.target = name)
    (hm : m ≠ name) : Deed.on m ds = [] :=
  List.filter_eq_nil_iff.mpr fun d hd he => hm ((of_decide_eq_true he).symm.trans (h d hd))

/-- The storage after the committed transactions were executed again, one after another; none if
some answer is not the same. -/
def Chronicle.replayed? (h : Chronicle) (id : Nat) (s : Storage) : Option Storage :=
  (h.committed.map Deed.keep).foldlM (Storage.replay id) s

theorem Chronicle.replayed?_append (h : Chronicle) (id : Nat) (s : Storage) (ds : List Deed) :
    (h.append ds).replayed? id s = (h.replayed? id s).bind fun s => s.replay id (Deed.keep ds) := by
  rw [replayed?, append, List.map_append, List.foldlM_append]
  change (h.replayed? id s).bind (fun s => [Deed.keep ds].foldlM (Storage.replay id) s) = _
  refine Option.bind_congr fun s _ => ?_
  rw [List.foldlM_cons]
  exact Option.bind_fun_some _

namespace Database

/-- The replay of a chronicle gives the storage `s`, which has the committed rows of all tables; and
what a connection has done to a table that it holds turns the committed rows into those there
are. -/
structure Serial (id : Nat) (s₀ : Storage) (h : Chronicle) (db : Database) (s : Storage) : Prop where
  replayed : h.replayed? id s₀ = some s
  tables : ∀ name, s.get? name = (db.storage.get? name).map Table.base
  held : ∀ c, ∀ d ∈ Deed.keep (h.pending c),
    ∃ table, db.storage.get? d.target = some table ∧ table.lockedBy? = some c
  redone : ∀ name table c, db.storage.get? name = some table → table.lockedBy? = some c →
    table.base.redoAll (Deed.on name (Deed.keep (h.pending c))) = some table.plain
  undo : ∀ c x, db.transaction? c = some x → x.undo = []

variable {k id : Nat} {s₀ s : Storage} {h : Chronicle} {db db' : Database} {link : Link}
  {p : Prepared} {name : String} {table : Table}

theorem Serial.plain (hs : db.Serial k s₀ h s) : s.Plain := by
  intro name table hg
  rw [hs.tables name] at hg
  obtain ⟨u, -, rfl⟩ := Option.map_eq_some_iff.mp hg
  rfl

theorem Serial.on_eq_nil (hs : db.Serial k s₀ h s) {c : Nat}
    (hn : ∀ table, db.storage.get? name = some table → table.lockedBy? ≠ some c) :
    Deed.on name (Deed.keep (h.pending c)) = [] := by
  refine List.filter_eq_nil_iff.mpr fun d hd he => ?_
  obtain ⟨table, hg, hl⟩ := hs.held c d hd
  have he : d.target = name := of_decide_eq_true he
  rw [he] at hg
  exact hn table hg hl

/-- What is kept of a connection on a free table turns the committed rows into those there are,
whether or not the table is locked. -/
theorem Serial.redone_of_free (hs : db.Serial k s₀ h s) (hg : db.storage.get? name = some table)
    (ht : table.Sound) (hf : table.Free id) :
    table.base.redoAll (Deed.on name (Deed.keep (h.pending id))) = some table.plain := by
  rcases hf with hl | hl
  · rw [hs.on_eq_nil fun u hu => by rw [hg] at hu; cases hu; rw [hl]; exact nofun]
    exact congrArg some (ht.base_of_free hl)
  · exact hs.redone name table id hg hl

theorem Serial.of_storage (hs : db.Serial k s₀ h s)
    (he : ∀ m, db'.storage.get? m = db.storage.get? m)
    (hu : ∀ c x, db'.transaction? c = some x → db.transaction? c = some x ∨ x = {}) :
    db'.Serial k s₀ h s where
  replayed := hs.replayed
  tables name := by rw [he]; exact hs.tables name
  held c d hd := by rw [he]; exact hs.held c d hd
  redone name table c hg hl := hs.redone name table c ((he name).symm.trans hg) hl
  undo c x hx := by
    rcases hu c x hx with hx | rfl
    · exact hs.undo c x hx
    · rfl

/-! ## Statements -/

theorem Serial.of_keep_eq (hs : db.Serial k s₀ h s) {h' : Chronicle}
    (hc : h'.committed.map Deed.keep = h.committed.map Deed.keep)
    (hp : ∀ c, Deed.keep (h'.pending c) = Deed.keep (h.pending c)) : db.Serial k s₀ h' s where
  replayed := by
    rw [Chronicle.replayed?, hc]
    exact hs.replayed
  tables := hs.tables
  held c d hd := hs.held c d (by rw [← hp]; exact hd)
  redone name table c hg hl := by
    rw [hp]
    exact hs.redone name table c hg hl
  undo := hs.undo

theorem keep_setPending (h : Chronicle) (id c : Nat) (ds : List Deed) :
    Deed.keep ((h.setPending id ds).pending c) =
      if c = id then Deed.keep ds else Deed.keep (h.pending c) := by
  simp only [Chronicle.setPending]
  split <;> rfl

theorem Serial.note_of_not_kept (hs : db.Serial k s₀ h s) {d : Deed} (hk : d.kept = false) (id : Nat)
    (inTransaction : Bool) : db.Serial k s₀ (h.note id inTransaction d) s := by
  cases inTransaction with
  | true =>
    refine hs.of_keep_eq rfl fun c => ?_
    change Deed.keep ((h.setPending id (h.pending id ++ [d])).pending c) = _
    rw [keep_setPending, Deed.keep_append, Deed.keep_of_not_kept hk, List.append_nil]
    split
    · next hc => rw [hc]
    · rfl
  | false =>
    refine ⟨?_, hs.tables, hs.held, hs.redone, hs.undo⟩
    change (h.append [d]).replayed? k s₀ = some s
    rw [Chronicle.replayed?_append, hs.replayed, Deed.keep_of_not_kept hk]
    rfl

theorem Serial.wrote (hs : db.Serial k s₀ h s) {x y : Transaction} (ds : List Deed) {rows : List Row}
    (ht : db.transaction? id = some x) (hg : db.storage.get? name = some table) (hso : table.Sound)
    (hf : table.Free id)
    (hget : ∀ m, db'.storage.get? m =
      if m = name then some { table.acquire id with rows } else db.storage.get? m)
    (hy : db'.transaction? id = some y) (hu : y.undo = x.undo)
    (ho : ∀ c, c ≠ id → db'.transaction? c = db.transaction? c)
    (hd : ∀ d ∈ Deed.keep ds, d.target = name)
    (hr : table.plain.redoAll (Deed.keep ds) = some { table.plain with rows }) :
    db'.Serial k s₀ (h.setPending id (h.pending id ++ ds)) s where
  replayed := hs.replayed
  tables m := by
    rw [hs.tables m, hget m]
    split
    · next hm =>
      rw [hm, hg]
      exact congrArg some (hso.base_acquire hf rows).symm
    · rfl
  held c d hd' := by
    have hold : d ∈ Deed.keep (h.pending c) → ∃ table, db'.storage.get? d.target = some table ∧
        table.lockedBy? = some c := by
      intro hd'
      obtain ⟨u, hgu, hlu⟩ := hs.held c d hd'
      by_cases hm : d.target = name
      · rw [hm, hg] at hgu
        cases hgu
        exact ⟨_, (hget _).trans (if_pos hm), hf.eq_of_locked hlu ▸ hf.lockedBy?_acquire⟩
      · exact ⟨u, by rw [hget, if_neg hm]; exact hgu, hlu⟩
    rw [keep_setPending] at hd'
    split at hd'
    · next hc =>
      rw [Deed.keep_append, List.mem_append] at hd'
      rcases hd' with hd' | hd'
      · exact hold (hc ▸ hd')
      · exact ⟨_, (hget _).trans (if_pos (hd d hd')), hc ▸ hf.lockedBy?_acquire⟩
    · exact hold hd'
  redone m u c hgu hlu := by
    rw [hget m] at hgu
    rw [keep_setPending]
    split at hgu
    · next hm =>
      cases hgu
      have hcid : c = id := Option.some.inj (hlu.symm.trans hf.lockedBy?_acquire)
      rw [if_pos hcid, hso.base_acquire hf, hm, Deed.keep_append, Deed.on_append, Table.redoAll_append,
        hs.redone_of_free hg hso hf, Deed.on_eq_self hd]
      refine hr.trans (congrArg some ?_)
      rw [Table.plain, Table.plain, Table.columns_acquire]
    · next hm =>
      split
      · next hc =>
        subst hc
        rw [Deed.keep_append, Deed.on_append, Deed.on_eq_nil hd hm, List.append_nil]
        exact hs.redone m u c hgu hlu
      · exact hs.redone m u c hgu hlu
  undo c z hz := by
    by_cases hc : c = id
    · subst hc
      rw [hy] at hz
      cases hz
      rw [hu]
      exact hs.undo c x ht
    · rw [ho c hc] at hz
      exact hs.undo c z hz

/-! ## Committed transactions -/

/-- One more transaction is replayed if its deeds on each table can be done again on the committed
rows. -/
theorem Serial.replayed_append (hs : db.Serial k s₀ h s) (ds : List Deed)
    (hd : ∀ d ∈ Deed.keep ds, (db.storage.get? d.target).isSome)
    (hr : ∀ m u, db.storage.get? m = some u →
      (u.base.redoAll (Deed.on m (Deed.keep ds))).isSome) :
    ∃ s', (h.append ds).replayed? k s₀ = some s' ∧
      ∀ m, s'.get? m = (db.storage.get? m).bind fun u =>
        u.base.redoAll (Deed.on m (Deed.keep ds)) := by
  have hd' : ∀ d ∈ Deed.keep ds, d.kept = true ∧ (s.get? d.target).isSome := by
    intro d hin
    refine ⟨(List.mem_filter.mp hin).2, ?_⟩
    rw [hs.tables, Option.isSome_map]
    exact hd d hin
  have hr' : ∀ m u, s.get? m = some u → (u.redoAll (Deed.on m (Deed.keep ds))).isSome := by
    intro m u hg
    rw [hs.tables] at hg
    obtain ⟨v, hv, rfl⟩ := Option.map_eq_some_iff.mp hg
    exact hr m v hv
  obtain ⟨s', hs', hget⟩ := Storage.replay_eq hs.plain k hd' hr'
  refine ⟨s', ?_, fun m => ?_⟩
  · rw [Chronicle.replayed?_append, hs.replayed]
    exact hs'
  · rw [hget, hs.tables, Option.bind_map]
    rfl

/-- Outside of a transaction, a table that is not locked comes to the rows that one deed leads
to. -/
theorem Serial.wrote_alone (hs : db.Serial k s₀ h s) {d : Deed} {rows : List Row}
    (hg : db.storage.get? d.target = some table) (hso : table.Sound) (hl : table.lockedBy? = none)
    (hr : table.run d.bindings d.statement = .ok (d.reply, rows))
    (hget : ∀ m, db'.storage.get? m =
      if m = d.target then some { table with rows } else db.storage.get? m)
    (ho : ∀ c, db'.transaction? c = db.transaction? c) :
    ∃ s', db'.Serial k s₀ (h.append [d]) s' := by
  have hredo := Table.redoAll_keep hr
  rw [← hso.base_of_free hl] at hredo
  have htarget : ∀ e ∈ Deed.keep [d], e.target = d.target := fun e he =>
    congrArg Deed.target (Deed.eq_of_mem_keep he)
  have hon := Deed.on_eq_self htarget
  have hoff := fun m (hm : m ≠ d.target) => Deed.on_eq_nil htarget hm
  obtain ⟨s', hs', htab⟩ := hs.replayed_append [d]
    (fun e he => by rw [htarget e he, hg]; rfl)
    (fun m u hu => by
      by_cases hm : m = d.target
      · subst hm
        rw [hg] at hu
        cases hu
        rw [hon, hredo]
        rfl
      · rw [hoff m hm]
        rfl)
  refine ⟨s', hs', fun m => ?_, fun c e he => ?_, fun m u c hu hc => ?_, fun c x hx => ?_⟩
  · rw [htab, hget]
    split
    · next hm =>
      subst hm
      rw [hg]
      refine (congrArg (table.base.redoAll ·) hon).trans (hredo.trans (congrArg some ?_))
      have : ({ table with rows } : Table).Sound := hso
      exact (this.base_of_free hl).symm
    · next hm =>
      rw [hoff m hm]
      cases db.storage.get? m <;> rfl
  · obtain ⟨u, hu, hc⟩ := hs.held c e he
    refine ⟨u, ?_, hc⟩
    rw [hget, if_neg]
    · exact hu
    · intro hm
      rw [hm, hg] at hu
      cases hu
      rw [hl] at hc
      cases hc
  · rw [hget] at hu
    split at hu
    · cases hu
      exact nomatch hl.symm.trans hc
    · exact hs.redone m u c hu hc
  · exact hs.undo c x (by rw [← ho]; exact hx)

/-! ## Ends of transactions -/

theorem Serial.released (hs : db.Serial k s₀ h s) {keep : Bool} {h' : Chronicle} {s' : Storage}
    (hget : ∀ m, db'.storage.get? m = (db.storage.get? m).map fun u => u.release id keep)
    (hx : db'.transaction? id = none)
    (ho : ∀ c, c ≠ id → db'.transaction? c = db.transaction? c)
    (hp : h'.pending = (h.setPending id []).pending) (hr : h'.replayed? k s₀ = some s')
    (ht : ∀ m, s'.get? m = (db'.storage.get? m).map Table.base) : db'.Serial k s₀ h' s' where
  replayed := hr
  tables := ht
  held c d hd := by
    rw [hp, keep_setPending] at hd
    split at hd
    · cases hd
    · next hc =>
      obtain ⟨u, hu, hl⟩ := hs.held c d hd
      refine ⟨u, ?_, hl⟩
      rw [hget, hu]
      exact congrArg some (Table.release_of_ne (fun he => hc (Option.some.inj (hl.symm.trans he))) keep)
  redone m u c hu hl := by
    rw [hget] at hu
    obtain ⟨v, hv, rfl⟩ := Option.map_eq_some_iff.mp hu
    obtain ⟨hc, he⟩ := Table.lockedBy?_release hl
    rw [hp, keep_setPending, if_neg hc, he]
    exact hs.redone m v c hv (he ▸ hl)
  undo c x hcx := by
    by_cases hc : c = id
    · rw [hc, hx] at hcx
      cases hcx
    · exact hs.undo c x (by rw [← ho c hc]; exact hcx)

theorem Serial.committed (hs : db.Serial k s₀ h s)
    (hget : ∀ m, db'.storage.get? m = (db.storage.get? m).map fun u => u.release id true)
    (hx : db'.transaction? id = none)
    (ho : ∀ c, c ≠ id → db'.transaction? c = db.transaction? c) :
    ∃ s', db'.Serial k s₀ ((h.append (h.pending id)).setPending id []) s' := by
  -- The committed rows after the release are what the pending deeds make of those before.
  have hbase : ∀ m u, db.storage.get? m = some u →
      u.base.redoAll (Deed.on m (Deed.keep (h.pending id))) = some (u.release id true).base := by
    intro m u hu
    by_cases hl : u.lockedBy? = some id
    · rw [hs.redone m u id hu hl, Table.base_release_true hl]
    · rw [hs.on_eq_nil fun v hv => by rw [hu] at hv; cases hv; exact hl, Table.release_of_ne hl]
      rfl
  obtain ⟨s', hs', htab⟩ := hs.replayed_append (h.pending id)
    (fun d hd => by
      obtain ⟨u, hu, -⟩ := hs.held id d hd
      rw [hu]
      rfl)
    (fun m u hu => by rw [hbase m u hu]; rfl)
  refine ⟨s', hs.released hget hx ho rfl hs' fun m => ?_⟩
  rw [htab, hget]
  cases hu : db.storage.get? m with
  | none => rfl
  | some u => exact hbase m u hu

theorem Serial.undone (hs : db.Serial k s₀ h s)
    (hget : ∀ m, db'.storage.get? m = (db.storage.get? m).map fun u => u.release id false)
    (hx : db'.transaction? id = none)
    (ho : ∀ c, c ≠ id → db'.transaction? c = db.transaction? c) :
    db'.Serial k s₀ (h.setPending id []) s := by
  refine hs.released hget hx ho rfl hs.replayed fun m => ?_
  rw [hs.tables, hget, Option.map_map]
  exact Option.map_congr fun u _ => (Table.base_release_false u id).symm

/-! ## Events -/

/-- What is noted of the execution of a prepared statement. -/
def noteOf (h : Chronicle) (db : Database) (id : Nat) (link : Link) (p : Prepared) : Chronicle :=
  match db.deedOf id link p with
  | some d => h.note id (db.inTransaction id) d
  | none => h

theorem noteOf_error {e : Error} (hr : (db.executed id link p).1 = .error e) :
    noteOf h db id link p = h := by
  rw [noteOf, deedOf, hr]
  rfl

theorem noteOf_ok {r : Reply} (hr : (db.executed id link p).1 = .ok r) :
    noteOf h db id link p = h.note id (db.inTransaction id) ⟨p.statement, p.bindings, r⟩ := by
  rw [noteOf, deedOf, hr]
  rfl

theorem Serial.settled_idle (hs : db.Serial k s₀ h s) (hl : db.links.get? id = some link)
    (he : (db.executed id link p).2 = ⟨db.storage, link.transaction⟩)
    (hk : ∀ r, (db.executed id link p).1 = .ok r →
      Deed.kept ⟨p.statement, p.bindings, r⟩ = false) :
    (db.settle id link (db.executed id link p).2).Serial k s₀ (noteOf h db id link p) s := by
  have hsame : (db.settle id link (db.executed id link p).2).Serial k s₀ h s := by
    rw [he]
    exact hs.of_storage (fun _ => rfl) fun c x hx =>
      .inl ((transaction?_settle_of_eq hl rfl c).symm.trans hx)
  cases hx : (db.executed id link p).1 with
  | error e =>
    rw [noteOf_error hx]
    exact hsame
  | ok r =>
    rw [noteOf_ok hx]
    exact hsame.note_of_not_kept (hk r hx) id _

/-- A turn in which its table is claimed, and comes to the rows that the deeds lead to in a
transaction. -/
theorem Serial.settled_inside (hs : db.Serial k s₀ h s) (ha : db.Accounted)
    (hl : db.links.get? id = some link) {x : Transaction} (hx : link.transaction = some x)
    (hg : db.storage.get? name = some table) (hf : table.Free id) {rows : List Row} {t : Turn}
    (hw : Turn.Written id name table rows ⟨db.storage, link.transaction⟩ t) (ds : List Deed)
    (hd : ∀ d ∈ Deed.keep ds, d.target = name)
    (hr : table.plain.redoAll (Deed.keep ds) = some { table.plain with rows }) :
    (db.settle id link t).Serial k s₀ (h.setPending id (h.pending id ++ ds)) s := by
  obtain ⟨y, hy, hu⟩ := hw.transaction_inside hx
  have hsettled : (db.settle id link t).transaction? id = some y := by
    rw [transaction?_settle, if_pos rfl, hy]
  have hothers : ∀ c, c ≠ id → (db.settle id link t).transaction? c = db.transaction? c :=
    fun c hc => by rw [transaction?_settle, if_neg hc]
  exact hs.wrote ds ((transaction?_of_link hl).trans hx) hg (ha.tables name table hg).1 hf
    (hw.get?_inside hx) hsettled hu hothers hd hr

theorem Serial.settled_failed (hs : db.Serial k s₀ h s) (ha : db.Accounted)
    (hl : db.links.get? id = some link) (hg : db.storage.get? name = some table)
    (hf : table.Free id) {t : Turn}
    (hw : Turn.Written id name table table.rows ⟨db.storage, link.transaction⟩ t) :
    (db.settle id link t).Serial k s₀ h s := by
  cases hx : link.transaction with
  | none =>
    have hsame := transaction?_settle_of_eq hl ((hw.transaction_outside hx).trans hx.symm)
    refine hs.of_storage (fun m => ?_) fun c x hcx => .inl ((hsame c).symm.trans hcx)
    refine (hw.get?_outside hx m).trans ?_
    split
    · next hm => exact (hm ▸ hg).symm
    · rfl
  | some x =>
    refine (hs.settled_inside ha hl hx hg hf hw [] nofun rfl).of_keep_eq rfl fun c => ?_
    rw [keep_setPending, List.append_nil]
    split
    · next hc => rw [hc]
    · rfl

theorem Serial.settled_done (hs : db.Serial k s₀ h s) (ha : db.Accounted)
    (hl : db.links.get? id = some link) {d : Deed} (hg : db.storage.get? d.target = some table)
    (hf : table.Free id) {rows : List Row} {t : Turn}
    (hrun : table.run d.bindings d.statement = .ok (d.reply, rows))
    (hw : Turn.Written id d.target table rows ⟨db.storage, link.transaction⟩ t) :
    ∃ s', (db.settle id link t).Serial k s₀ (h.note id (db.inTransaction id) d) s' := by
  have hlink := transaction?_of_link hl
  cases hx : link.transaction with
  | none =>
    have hout : db.inTransaction id = false := by rw [inTransaction_eq, hlink, hx]; rfl
    have hfree := hf.resolve_right (ha.lockedBy?_ne (hlink.trans hx) hg)
    simp only [Chronicle.note, hout, Bool.false_eq_true, if_false]
    exact hs.wrote_alone hg (ha.tables _ table hg).1 hfree hrun (hw.get?_outside hx)
      (transaction?_settle_of_eq hl ((hw.transaction_outside hx).trans hx.symm))
  | some x =>
    have hin : db.inTransaction id = true := by rw [inTransaction_eq, hlink, hx]; rfl
    simp only [Chronicle.note, hin, if_true]
    exact ⟨s, hs.settled_inside ha hl hx hg hf hw [d]
      (fun e he => congrArg Deed.target (Deed.eq_of_mem_keep he)) (Table.redoAll_keep hrun)⟩

theorem Serial.settled (hs : db.Serial k s₀ h s) (ha : db.Accounted)
    (hl : db.links.get? id = some link) (hr : p.statement.OnRows) :
    ∃ s', (db.settle id link (db.executed id link p).2).Serial k s₀ (noteOf h db id link p) s' := by
  have hsound : ∀ table, db.storage.get? p.statement.target = some table → table.Sound :=
    fun table hg => (ha.tables _ table hg).1
  cases Turn.execute_cases (t := ⟨db.storage, link.transaction⟩) hsound hr id p.bindings with
  | idle he hk => exact ⟨s, hs.settled_idle hl he hk⟩
  | failed hg hf he hw =>
    rw [noteOf_error he]
    exact ⟨s, hs.settled_failed ha hl hg hf hw⟩
  | @done table r rows hg hf he hrun hw =>
    rw [noteOf_ok he]
    exact hs.settled_done ha hl (d := ⟨p.statement, p.bindings, r⟩) hg hf hrun hw

theorem Serial.rested (hs : db.Serial k s₀ h s) (hr : Rested id db db')
    (ho : ∀ c, c ≠ id → db'.transaction? c = db.transaction? c) : db'.Serial k s₀ h s := by
  have hstore : db'.storage = db.storage := by cases hr <;> assumption
  refine hs.of_storage (fun m => by rw [hstore]) fun c x hx => ?_
  by_cases hc : c = id
  · subst hc
    cases hr with
    | idle _ ht => exact .inl (ht.symm.trans hx)
    | began _ _ ht =>
      rw [ht] at hx
      exact .inr (Option.some.inj hx).symm
  · exact .inl ((ho c hc).symm.trans hx)

theorem Serial.query (hs : db.Serial k s₀ h s) (ha : db.Accounted) (id : Nat)
    (hd : db.Admits (.call id .query)) :
    ∃ s', (Database.query id db).2.Serial k s₀ (h.record db (.call id .query)) s' := by
  cases hp : db.prepared? id with
  | error e =>
    have hn : h.record db (.call id .query) = h := by
      simp only [Chronicle.record, deed?, hp]
    rw [query_after_error hp, hn]
    exact ⟨s, hs⟩
  | ok lp =>
    obtain ⟨link, p⟩ := lp
    have hrows : p.statement.OnRows := by
      have := hd link p hp
      cases hst : p.statement <;> simp_all [Statement.returnsRows, Statement.OnRows]
    have hn : h.record db (.call id .query) = noteOf h db id link p := by
      cases hdeed : db.deedOf id link p <;>
        simp only [Chronicle.record, deed?_query hp (hd link p hp), noteOf, actor, hdeed]
    rw [query_after hp, hn]
    exact hs.settled ha (prepared?_eq_ok.mp hp).1 hrows

theorem Serial.update (hs : db.Serial k s₀ h s) (ha : db.Accounted) (id : Nat)
    (hd : db.Admits (.call id .update)) :
    ∃ s', (Database.update id db).2.Serial k s₀ (h.record db (.call id .update)) s' := by
  cases hp : db.prepared? id with
  | error e =>
    have hn : h.record db (.call id .update) = h := by
      simp only [Chronicle.record, deed?, hp]
    rw [update_after_error hp, hn]
    exact ⟨s, hs⟩
  | ok lp =>
    obtain ⟨link, p⟩ := lp
    cases hr : p.statement.returnsRows with
    | true =>
      obtain ⟨hnone, hsame⟩ := update_of_returnsRows hp hr
      have hn : h.record db (.call id .update) = h := by
        simp only [Chronicle.record, hnone]
      rw [hsame, hn]
      exact ⟨s, hs⟩
    | false =>
      have hn : h.record db (.call id .update) = noteOf h db id link p := by
        cases hdeed : db.deedOf id link p <;>
          simp only [Chronicle.record, deed?_update hp hr, noteOf, actor, hdeed]
      rw [update_after hp, hr, hn]
      exact hs.settled ha (prepared?_eq_ok.mp hp).1 (hd link p hp)

theorem Serial.commit (hs : db.Serial k s₀ h s) (ha : db.Accounted) (id : Nat) :
    ∃ s', (finish id true db).2.Serial k s₀ (h.record db (.call id .commit)) s' := by
  have ho : ∀ c, c ≠ id → (finish id true db).2.transaction? c = db.transaction? c :=
    fun c hc => transaction?_after (.call id .commit) hc
  cases hx : db.transaction? id with
  | none =>
    obtain ⟨e, he, hstore, -⟩ := finish_of_none hx true
    have hn : h.record db (.call id .commit) = h := by
      simp only [Chronicle.record, he]
    rw [hn]
    exact ⟨s, hs.rested (.idle hstore (by rw [transaction?_finish, hx])) ho⟩
  | some x =>
    obtain ⟨link, hl, ht⟩ := Option.bind_eq_some_iff.mp hx
    have hn : h.record db (.call id .commit) = (h.append (h.pending id)).setPending id [] := by
      simp only [Chronicle.record, finish_of_transaction hl ht]
    rw [hn]
    exact hs.committed (fun m => ha.get?_finish (fun _ _ => .inl rfl) m)
      (transaction?_finish id true db) ho

/-- **Every event** keeps the database in agreement with the replay of its chronicle. -/
theorem Serial.after (hs : db.Serial k s₀ h s) (hdb : Reachable db) (e : Event) (hd : db.Admits e) :
    ∃ s', (db.after e).Serial k s₀ (h.record db e) s' := by
  have ha := hdb.accounted
  have ho : ∀ c, c ≠ db.actor e → (db.after e).transaction? c = db.transaction? c :=
    fun c hc => transaction?_after e hc
  -- A rollback of `id` gives back what it held, and leaves no transaction.
  have hundone : ∀ id e, Ending id e → id = db.actor e →
      (db.after e).storage = (finish id false db).2.storage →
      (∀ c, c ≠ id → (db.after e).transaction? c = db.transaction? c) →
      (db.after e).Serial k s₀ (h.setPending id []) s := by
    intro id e he _ hstore ho
    refine hs.undone (fun m => ?_) (he.transaction?_after db) ho
    rw [hstore]
    exact ha.get?_finish (fun x hx => .inr (hs.undo id x hx)) m
  cases e with
  | connect => exact ⟨s, hs.rested (rested_connect hdb.numbered) ho⟩
  | disconnect id => exact ⟨s, hundone id _ .closed rfl (storage_disconnect id db) ho⟩
  | call id c =>
    cases c with
    | begin => exact ⟨s, hs.rested (rested_begin id db) ho⟩
    | commit => exact hs.commit ha id
    | rollback => exact ⟨s, hundone id _ .rolledBack rfl (storage_rollback id db) ho⟩
    | prepare sql => exact ⟨s, hs.rested (rested_prepare id sql db) ho⟩
    | bind position value => exact ⟨s, hs.rested (rested_bind id position value db) ho⟩
    | query => exact hs.query ha id hd
    | update => exact hs.update ha id hd

theorem Serial.start (h₀ : Reachable db) (hx : ∀ c, db.transaction? c = none) :
    db.Serial k db.storage {} db.storage where
  replayed := rfl
  tables name := by
    cases hg : db.storage.get? name with
    | none => rfl
    | some table =>
      have hl : table.lockedBy? = none := by
        cases hl : table.lockedBy? with
        | none => rfl
        | some c => exact absurd hl (h₀.accounted.lockedBy?_ne (hx c) hg)
      exact congrArg some (((h₀.sound hg).base_of_free hl).trans ((h₀.sound hg).plain_of_free hl)).symm
  held _ _ hd := nomatch hd
  redone name table c hg hl := absurd hl (h₀.accounted.lockedBy?_ne (hx c) hg)
  undo c x hcx := nomatch (hx c).symm.trans hcx

theorem History.serial {db₀ : Database} (h₀ : Reachable db₀) (hx : ∀ c, db₀.transaction? c = none)
    (hh : History db₀ db h) (k : Nat) : ∃ s, db.Serial k db₀.storage h s := by
  induction hh with
  | start => exact ⟨db₀.storage, .start h₀ hx⟩
  | after e hh ha ih =>
    obtain ⟨s, hs⟩ := ih
    exact hs.after (hh.reachable h₀) e ha

theorem Serial.visible (hs : db.Serial k s₀ h s) (hdb : Reachable db) {c : Nat}
    (hc : ∀ d ∈ h.pending c, d.changes = false) (name : String) :
    (db.storage.get? name).map (·.visibleRows c) = (s.get? name).map (·.rows) := by
  rw [hs.tables, Option.map_map]
  refine Option.map_congr fun table hg => ?_
  by_cases hl : table.lockedBy? = some c
  · have hsame : table.plain = table.base :=
      Table.redoAll_of_not_changes
        (fun d hd => hc d (List.mem_filter.mp (List.mem_filter.mp hd).1).1)
        (hs.redone name table c hg hl)
    have hrows : table.plain.rows = table.base.rows := by rw [hsame]
    exact (Table.visibleRows_eq_rows (hdb.sound hg) (.inr hl)).trans hrows
  · exact Table.visibleRows_eq_committed (hdb.sound hg) hl

/-- **Writes are serializable.** However the connections interleave, the replay of the committed
transactions in the order of their commits, each with its successful writes and its reads for update,
gets the same answers and ends with the rows that every connection sees which has not written any in
its transaction. -/
theorem writes_serializable {db₀ : Database} (h₀ : Reachable db₀)
    (hx : ∀ c, db₀.transaction? c = none) (hh : History db₀ db h) (k : Nat) :
    ∃ s, h.replayed? k db₀.storage = some s ∧
      ∀ c, (∀ d ∈ h.pending c, d.changes = false) →
        ∀ name, (db.storage.get? name).map (·.visibleRows c) = (s.get? name).map (·.rows) := by
  obtain ⟨s, hs⟩ := hh.serial h₀ hx k
  exact ⟨s, hs.replayed, fun c hc name => hs.visible (hh.reachable h₀) hc name⟩

/-- A table with one row, and two connections: one is about to set the row, and the other one to read
it for update. -/
def contended : Database where
  storage := ⟨[("t", ⟨["v"], [[5]], none, none⟩)]⟩
  links := [
    (2, ⟨none, some ⟨"select v from t for update", .select "t" [.column "v" none] none true, []⟩⟩),
    (1, ⟨none, some ⟨"update t set v= 7", .update "t" [("v", .literal 7)] none, []⟩⟩)]
  opened := 2

theorem contended_reachable : contended.Reachable := by
  have hs : Statement.ofText "select v from t for update" =
      .ok (.select "t" [.column "v" none] none true) := by decide +kernel
  have h₁ := ((ready_reachable.after (.call 1 .update)).after .connect).after
    (.call 1 (.prepare "update t set v= 7"))
  rw [after_prepare rfl ofText_update] at h₁
  have h₂ := h₁.after (.call 2 (.prepare "select v from t for update"))
  rw [after_prepare rfl hs] at h₂
  exact h₂

/-- The second connection begins first. It is refused the row while the first one holds it, reads
what the first one has committed, and then holds the row against it. -/
def contention : List Event :=
  [.call 2 .begin, .call 1 .begin, .call 1 .update, .call 2 .query, .call 1 .commit,
    .call 2 .query, .call 1 .update, .call 2 .commit]

/-- The replay has both transactions in the order of their commits, and nothing of what was
refused. -/
theorem writes_serializable_contended :
    ∃ h, History contended (contention.foldl Database.after contended) h ∧
      h.committed = [[⟨.update "t" [("v", .literal 7)] none, [], .count 1⟩],
        [⟨.select "t" [.column "v" none] none true, [], .rows ⟨["v"], [[.integer 7]]⟩⟩]] ∧
      ∃ s, h.replayed? 3 contended.storage = some s ∧ (s.get? "t").map (·.rows) = some [[7]] := by
  have hx : ∀ c, contended.transaction? c = none := transaction?_eq_none (by simp [contended])
  have h₁ := ((History.start : History contended contended {}).after (.call 2 .begin) trivial).after
    (.call 1 .begin) trivial
  have h₂ := (h₁.after (.call 1 .update) fun link p hp => by cases hp; trivial).after
    (.call 2 .query) fun link p hp => by cases hp; trivial
  have h₃ := (h₂.after (.call 1 .commit) trivial).after (.call 2 .query)
    fun link p hp => by cases hp; trivial
  have hh := (h₃.after (.call 1 .update) fun link p hp => by cases hp; trivial).after
    (.call 2 .commit) trivial
  obtain ⟨s, hs, hv⟩ := writes_serializable contended_reachable hx hh 3
  exact ⟨_, hh, rfl, s, hs, (hv 0 (fun d hd => by cases hd) "t").symm⟩

end Database

end CounterTable
