import CounterTable.Proofs.Store.Ledger
import CounterTable.Proofs.Store.Rollback

/-!
# Databases agree with their ledgers

A connection holds a table if it has locked it, or can take back that it was created or dropped.
Then it alone works on the table, and what it sees there is the committed table with its own
changes. Without what it did to the schema, everybody else sees the committed table. This is an
invariant for each table alone, provided that connections do no more than select from it while
another one can take back that it was created or dropped.

* `Turn.withdrawn`: a storage without what a transaction did to the schema;
* `Database.Holds`, `Database.Agrees`: the invariant;
* `Database.Agrees.of_stable`: what has to be known after a step of the only connection at work;
* **`Database.Agrees.executed`**, **`Database.Agrees.published`**, **`Database.Agrees.forgotten`**:
  the steps;
* **`Database.Recorded.agrees`**: the invariant holds after any such history.
-/

namespace CounterTable

theorem Table.Free.release {t : Table} {id : Nat} (h : t.Free id) (keep : Bool) :
    (t.release id keep).lockedBy? = none := by
  unfold Table.release
  split
  · rfl
  · next hl => exact h.resolve_right hl

theorem Table.Sound.base_release {t : Table} {id : Nat} (h : t.Sound) (hf : t.Free id) :
    (t.release id true).base = t.plain := by
  rcases hf with hl | hl
  · rw [release_of_ne (by rw [hl]; exact nofun), h.base_of_free hl]
  · exact base_release_true hl

theorem Storage.map_get?_undo_all {α : Type} (f : Table → α) {us : List Undo} {s s' : Storage}
    {name : String} (h : (s.get? name).map f = (s'.get? name).map f) :
    ((us.foldl Storage.undo s).get? name).map f = ((us.foldl Storage.undo s').get? name).map f := by
  by_cases hu : ∃ u ∈ us, u.name = name
  · rw [get?_undo_all_congr (.inr hu)]
  · have hne : ∀ u ∈ us, u.name ≠ name := fun u hin he => hu ⟨u, hin, he⟩
    rw [get?_undo_all_of_ne hne, get?_undo_all_of_ne hne, h]

theorem Transaction.Spares.of_none {x : Option Transaction} (h : x = none) (name : String) :
    Spares name x := by
  rw [h]
  exact nofun

namespace Turn

variable {id : Nat} {name m : String} {t t' : Turn}

/-- The storage without what the transaction did to the schema. -/
def withdrawn (t : Turn) : Storage :=
  match t.transaction with
  | none => t.storage
  | some x => x.undo.foldl Storage.undo t.storage

theorem withdrawn_of_spares (h : Transaction.Spares name t.transaction) :
    t.withdrawn.get? name = t.storage.get? name := by
  unfold withdrawn
  split
  · rfl
  · next x hx => exact Storage.get?_undo_all_of_ne (h x hx) t.storage

theorem withdrawn_congr (hx : t'.transaction = t.transaction)
    (hg : t'.storage.get? name = t.storage.get? name) :
    t'.withdrawn.get? name = t.withdrawn.get? name := by
  unfold withdrawn
  rw [hx]
  split
  · exact hg
  · exact Storage.get?_undo_all_congr (.inl hg)

theorem Works.elsewhere (h : Works id name t t') (hm : m ≠ name) :
    (Transaction.Spares m t'.transaction ↔ Transaction.Spares m t.transaction) ∧
      t'.withdrawn.get? m = t.withdrawn.get? m := by
  cases hx : t.transaction with
  | none =>
    have hx' := h.outside hx
    refine ⟨by rw [hx'], ?_⟩
    rw [withdrawn, withdrawn, hx, hx']
    exact h.others m hm
  | some x =>
    obtain ⟨y, us, hy, hu, hus, -, -⟩ := h.noted x hx
    have hne : ∀ u ∈ us, u.name ≠ m := fun u hin he => hm (he.symm.trans (hus u hin))
    refine ⟨⟨fun hs z hz u hin => ?_, fun hs z hz u hin => ?_⟩, ?_⟩
    · cases hz
      exact hs y hy u (by rw [hu]; exact List.mem_append_right us hin)
    · cases hy.symm.trans hz
      rw [hu] at hin
      rcases List.mem_append.mp hin with hin | hin
      · exact hne u hin
      · exact hs x rfl u hin
    · simp only [withdrawn, hx, hy, hu, List.foldl_append]
      refine Storage.get?_undo_all_congr (.inl ?_)
      rw [Storage.get?_undo_all_of_ne hne, h.others m hm]

theorem Works.withdrawn {x : Transaction} (h : Works id name t t') (hx : t.transaction = some x) :
    (t'.withdrawn.get? name).map Table.base = (t.withdrawn.get? name).map Table.base := by
  obtain ⟨y, us, hy, hu, -, hb, -⟩ := h.noted x hx
  simp only [Turn.withdrawn, hx, hy, hu, List.foldl_append]
  exact Storage.map_get?_undo_all Table.base hb

/-- In a transaction, the connection holds a table that it has worked on, or can take back what it
did to the schema. -/
theorem Works.holds {x : Transaction} (h : Works id name t t') (hx : t.transaction = some x) :
    ¬ Transaction.Spares name t'.transaction ∨
      ∃ table, t'.storage.get? name = some table ∧ table.lockedBy? = some id := by
  obtain ⟨y, us, hy, hu, hus, -, hl⟩ := h.noted x hx
  cases us with
  | nil => exact .inr (hl rfl)
  | cons u us =>
    have hin : u ∈ y.undo := by
      rw [hu]
      exact List.mem_append_left x.undo List.mem_cons_self
    exact .inl fun hs => hs y hy u hin (hus u List.mem_cons_self)

end Turn

namespace Database

variable {db db' : Database} {l l' : Ledger} {id c : Nat} {name : String}

/-- What a turn of a connection starts from. -/
abbrev turn (db : Database) (id : Nat) : Turn := ⟨db.storage, db.transaction? id⟩

/-- The connection has locked the table, or can take back that it was created or dropped. -/
def Holds (db : Database) (id : Nat) (name : String) : Prop :=
  ¬ Transaction.Spares name (db.transaction? id) ∨
    ∃ table, db.storage.get? name = some table ∧ table.lockedBy? = some id

theorem Accounted.not_holds (h : db.Accounted) (hx : db.transaction? id = none) :
    ¬ db.Holds id name := by
  rintro (hs | ⟨table, hg, hl⟩)
  · exact hs (.of_none hx name)
  · exact h.lockedBy?_ne hx hg hl

/-- The storage and the ledger agree on a table. -/
structure Agrees (name : String) (l : Ledger) (db : Database) : Prop where
  /-- Without what one connection did to the schema, everybody sees what is committed. -/
  shown : ∀ c, db.Stable c name →
    ((db.turn c).withdrawn.get? name).map Table.base = l.committed name
  /-- Only one connection at a time has created or dropped the table, and it is free for it. -/
  alone : ∀ c, ¬ Transaction.Spares name (db.transaction? c) →
    db.Stable c name ∧ ∀ table, db.storage.get? name = some table → table.Free c
  /-- Who holds the table sees its own changes. -/
  own : ∀ c, db.Holds c name → (db.storage.get? name).map Table.plain = l.view c name
  /-- Who does not has none. -/
  idle : ∀ c, ¬ db.Holds c name → Deed.on name (l.pending c) = []

theorem Agrees.of_holds (h : db.Agrees name l) (hc : db.Holds c name) :
    db.Stable c name ∧ ∀ table, db.storage.get? name = some table → table.Free c := by
  rcases hc with hs | ⟨table, hg, hl⟩
  · exact h.alone c hs
  · refine ⟨fun d hd => ?_, fun u hu => ?_⟩
    · by_contra hs
      exact hd (((h.alone d hs).2 table hg).eq_of_locked hl).symm
    · cases hg.symm.trans hu
      exact .inr hl

theorem Agrees.view_of_free (h : db.Agrees name l) (hst : db.Stable id name)
    (hs : ∀ table, db.storage.get? name = some table → table.Sound)
    (hf : ∀ table, db.storage.get? name = some table → table.Free id) :
    (db.storage.get? name).map Table.plain = l.view id name := by
  by_cases hh : db.Holds id name
  · exact h.own id hh
  · have hx : Transaction.Spares name (db.transaction? id) := not_not.mp fun hx => hh (.inl hx)
    rw [Ledger.view_of_on_eq_nil (h.idle id hh), ← h.shown id hst,
      Turn.withdrawn_of_spares (t := db.turn id) hx]
    refine Option.map_congr fun table hg => ?_
    have hl := (hf table hg).resolve_right fun hl => hh (.inr ⟨table, hg, hl⟩)
    exact ((hs table hg).base_of_free hl).symm

theorem Agrees.isSome_view (h : db.Agrees name l) (hst : db.Stable id name) :
    (l.view id name).isSome = (db.storage.get? name).isSome := by
  by_cases hh : db.Holds id name
  · rw [← h.own id hh, Option.isSome_map]
  · have hx : Transaction.Spares name (db.transaction? id) := not_not.mp fun hx => hh (.inl hx)
    rw [Ledger.view_of_on_eq_nil (h.idle id hh), ← h.shown id hst, Option.isSome_map,
      Turn.withdrawn_of_spares (t := db.turn id) hx]

/-! ## Steps -/

theorem Agrees.congr (h : db.Agrees name l)
    (hg : db'.storage.get? name = db.storage.get? name)
    (ho : ∀ c, c ≠ id → db'.transaction? c = db.transaction? c)
    (hx : Transaction.Spares name (db'.transaction? id) ↔
      Transaction.Spares name (db.transaction? id))
    (hw : (db'.turn id).withdrawn.get? name = (db.turn id).withdrawn.get? name)
    (hc : l'.committed name = l.committed name)
    (hp : ∀ c, Deed.on name (l'.pending c) = Deed.on name (l.pending c)) :
    db'.Agrees name l' := by
  have hsp : ∀ c, Transaction.Spares name (db'.transaction? c) ↔
      Transaction.Spares name (db.transaction? c) := by
    intro c
    by_cases hcid : c = id
    · exact hcid ▸ hx
    · rw [ho c hcid]
  have hst : ∀ c, db'.Stable c name ↔ db.Stable c name :=
    fun c => forall₂_congr fun d _ => hsp d
  have hwd : ∀ c, (db'.turn c).withdrawn.get? name = (db.turn c).withdrawn.get? name := by
    intro c
    by_cases hcid : c = id
    · exact hcid ▸ hw
    · exact Turn.withdrawn_congr (ho c hcid) hg
  have hh : ∀ c, db'.Holds c name ↔ db.Holds c name := by
    intro c
    unfold Holds
    rw [hsp c, hg]
  exact {
    shown := fun c hcs => by rw [hwd c, hc]; exact h.shown c ((hst c).mp hcs)
    alone := fun c hcs => by
      obtain ⟨hs, hf⟩ := h.alone c fun hs => hcs ((hsp c).mpr hs)
      exact ⟨(hst c).mpr hs, by rw [hg]; exact hf⟩
    own := fun c hch => by
      rw [hg, Ledger.view, hp c, hc]
      exact h.own c ((hh c).mp hch)
    idle := fun c hch => by
      rw [hp c]
      exact h.idle c fun hd => hch ((hh c).mpr hd) }

/-- Where one connection may work on a table and has come to one that still is free for it, only
what that connection sees has to be known. -/
theorem Agrees.of_stable (h : db.Agrees name l) (hst : db.Stable id name)
    (hf : ∀ table, db.storage.get? name = some table → table.Free id)
    (hf' : ∀ table, db'.storage.get? name = some table → table.Free id)
    (ho : ∀ c, c ≠ id → db'.transaction? c = db.transaction? c)
    (hp : ∀ c, c ≠ id → l'.pending c = l.pending c)
    (hs : ((db'.turn id).withdrawn.get? name).map Table.base = l'.committed name)
    (hv : db'.Holds id name → (db'.storage.get? name).map Table.plain = l'.view id name)
    (hn : ¬ db'.Holds id name → Deed.on name (l'.pending id) = []) :
    db'.Agrees name l' := by
  have hst' : db'.Stable id name := fun c hc => by rw [ho c hc]; exact hst c hc
  -- No other connection holds the table, before or after.
  have hother : ∀ c, c ≠ id → ¬ db.Holds c name := by
    rintro c hc (hx | ⟨table, hg, hl⟩)
    · exact hx (hst c hc)
    · exact hc ((hf table hg).eq_of_locked hl)
  have hother' : ∀ c, c ≠ id → ¬ db'.Holds c name := by
    rintro c hc (hx | ⟨table, hg, hl⟩)
    · exact hx (hst' c hc)
    · exact hc ((hf' table hg).eq_of_locked hl)
  refine ⟨fun c hcs => ?_, fun c hcs => ?_, fun c hch => ?_, fun c hch => ?_⟩
  · by_cases hc : c = id
    · exact hc ▸ hs
    · rw [← hs, Turn.withdrawn_of_spares (t := db'.turn c) (hst' c hc),
        Turn.withdrawn_of_spares (t := db'.turn id) (hcs id (Ne.symm hc))]
  · by_cases hc : c = id
    · exact hc ▸ ⟨hst', hf'⟩
    · exact absurd (hst' c hc) hcs
  · by_cases hc : c = id
    · subst hc
      exact hv hch
    · exact absurd hch (hother' c hc)
  · by_cases hc : c = id
    · subst hc
      exact hn hch
    · rw [hp c hc]
      exact h.idle c (hother c hc)

theorem Agrees.rested (h : db.Agrees name l) (hr : Rested id db db')
    (ho : ∀ c, c ≠ id → db'.transaction? c = db.transaction? c) : db'.Agrees name l := by
  cases hr with
  | idle hs hx =>
    refine h.congr (by rw [hs]) ho (by rw [hx]) ?_ rfl fun _ => rfl
    exact Turn.withdrawn_congr hx (congrArg (Storage.get? · name) hs)
  | began hs hn hx =>
    have hx₁ : Transaction.Spares name (db'.transaction? id) := by
      rw [hx]
      intro y hy u hu
      cases hy
      cases hu
    have hx₂ : Transaction.Spares name (db.transaction? id) := .of_none hn name
    refine h.congr (by rw [hs]) ho (iff_of_true hx₁ hx₂) ?_ rfl fun _ => rfl
    rw [Turn.withdrawn_of_spares (t := db'.turn id) hx₁,
      Turn.withdrawn_of_spares (t := db.turn id) hx₂]
    exact congrArg (Storage.get? · name) hs

theorem Agrees.works (h : db.Agrees name l) (hr' : Reachable db')
    (hst : db.Stable id name) (hw : Turn.Works id name (db.turn id) (db'.turn id))
    (ho : ∀ c, c ≠ id → db'.transaction? c = db.transaction? c)
    (hp : ∀ c, c ≠ id → l'.pending c = l.pending c)
    (hin : ∀ x, db.transaction? id = some x → l'.committed name = l.committed name ∧
      (db'.storage.get? name).map Table.plain = l'.view id name)
    (hout : db.transaction? id = none →
      (db'.storage.get? name).map Table.plain = l'.committed name ∧
        Deed.on name (l'.pending id) = []) : db'.Agrees name l' := by
  cases hx : db.transaction? id with
  | none =>
    have hx' : db'.transaction? id = none := hw.outside hx
    have hh' : ¬ db'.Holds id name := hr'.accounted.not_holds hx'
    refine h.of_stable hst hw.before hw.after ho hp ?_ (fun hh => absurd hh hh') fun _ =>
      (hout hx).2
    rw [Turn.withdrawn_of_spares (t := db'.turn id) (.of_none hx' name), ← (hout hx).1]
    refine Option.map_congr fun table hg => ?_
    have hl := (hw.after table hg).resolve_right (hr'.accounted.lockedBy?_ne hx' hg)
    exact (hr'.sound hg).base_of_free hl
  | some x =>
    obtain ⟨hc, hv⟩ := hin x hx
    refine h.of_stable hst hw.before hw.after ho hp ?_ (fun _ => hv) fun hh => absurd ?_ hh
    · rw [hw.withdrawn hx, hc]
      exact h.shown id hst
    · exact hw.holds hx

/-- What a ledger notes of an execution. -/
def noted (db : Database) (l : Ledger) (id : Nat) (link : Link) (p : Prepared) : Ledger :=
  match db.deedOf id link p with
  | some d => l.note id (db.inTransaction id) d
  | none => l

variable {link : Link} {p : Prepared}

theorem noted_of_error {e : Error} (h : (db.executed id link p).1 = .error e) :
    db.noted l id link p = l := by
  rw [noted, deedOf, h]
  rfl

theorem noted_of_ok {r : Reply} (h : (db.executed id link p).1 = .ok r) :
    db.noted l id link p = l.note id (db.inTransaction id) ⟨p.statement, p.bindings, r⟩ := by
  rw [noted, deedOf, h]
  rfl

theorem Agrees.noted_of_ne (h : db.Agrees name l) (hr : Reachable db)
    (hn : p.statement.target ≠ name) (id : Nat) (link : Link) :
    (db.noted l id link p).committed name = l.committed name ∧
      ∀ c, Deed.on name ((db.noted l id link p).pending c) = Deed.on name (l.pending c) := by
  cases hx : (db.executed id link p).1 with
  | error e =>
    rw [noted_of_error hx]
    exact ⟨rfl, fun _ => rfl⟩
  | ok r =>
    rw [noted_of_ok hx]
    refine Ledger.note_of_ne (d := ⟨p.statement, p.bindings, r⟩) hn fun hi =>
      h.idle id (hr.accounted.not_holds ?_)
    rw [inTransaction_eq] at hi
    exact Option.isSome_eq_false_iff.mp hi |> Option.isNone_iff_eq_none.mp

theorem Agrees.of_turn_eq (h : db.Agrees name l) (ht : db'.turn id = db.turn id)
    (ho : ∀ c, c ≠ id → db'.transaction? c = db.transaction? c)
    (hc : l'.committed name = l.committed name)
    (hp : ∀ c, Deed.on name (l'.pending c) = Deed.on name (l.pending c)) : db'.Agrees name l' := by
  have hs : db'.storage = db.storage := congrArg Turn.storage ht
  have hx : db'.transaction? id = db.transaction? id := congrArg Turn.transaction ht
  exact h.congr (by rw [hs]) ho (by rw [hx]) (by rw [ht]) hc hp

theorem noted_eq_self (he : ∀ r, (db.executed id link p).1 = .ok r →
    Deed.effect ⟨p.statement, p.bindings, r⟩ (l.view id p.statement.target) =
      l.view id p.statement.target) : db.noted l id link p = l := by
  cases hx : (db.executed id link p).1 with
  | error e => exact noted_of_error hx
  | ok r =>
    rw [noted_of_ok hx]
    exact Ledger.note_of_effect (he r hx) _

theorem executed_eq (hp : db.prepared? id = .ok (link, p)) :
    db.executed id link p = Turn.execute id p.bindings p.statement (db.turn id) := by
  rw [turn, transaction?_of_link (prepared?_eq_ok.mp hp).1]
  rfl

theorem turn_settle (hp : db.prepared? id = .ok (link, p)) :
    (db.settle id link (db.executed id link p).2).turn id =
      (Turn.execute id p.bindings p.statement (db.turn id)).2 := by
  rw [turn, transaction?_settle, if_pos rfl, executed_eq hp]
  rfl

theorem transaction?_settle_of_ne (t : Turn) {c : Nat} (hc : c ≠ id) :
    (db.settle id link t).transaction? c = db.transaction? c :=
  (transaction?_settle ..).trans (if_neg hc)

theorem Agrees.executed_elsewhere (h : db.Agrees name l) (hr : Reachable db)
    (hp : db.prepared? id = .ok (link, p)) (hn : p.statement.target ≠ name) :
    (db.settle id link (db.executed id link p).2).Agrees name (db.noted l id link p) := by
  obtain ⟨hc, hon⟩ := h.noted_of_ne hr hn id link
  have hturn := turn_settle hp
  have ho : ∀ c, c ≠ id →
      (db.settle id link (db.executed id link p).2).transaction? c = db.transaction? c :=
    fun c hc => transaction?_settle_of_ne _ hc
  have hworks : Turn.Works id p.statement.target (db.turn id)
      (Turn.execute id p.bindings p.statement (db.turn id)).2 →
        (db.settle id link (db.executed id link p).2).Agrees name (db.noted l id link p) := by
    intro hw
    rw [← hturn] at hw
    obtain ⟨hsp, hwd⟩ := hw.elsewhere (Ne.symm hn)
    exact h.congr (hw.others name (Ne.symm hn)) ho hsp hwd hc hon
  cases Turn.execute_course (t := db.turn id) (fun _ hg => hr.sound hg) id p.bindings with
  | idle hsame _ => exact h.of_turn_eq (hturn.trans hsame) ho hc hon
  | failed hw _ _ => exact hworks hw
  | done hw _ _ => exact hworks hw

theorem Agrees.executed_of_stable (h : db.Agrees p.statement.target l) (hr : Reachable db)
    (hr' : Reachable (db.settle id link (db.executed id link p).2))
    (hp : db.prepared? id = .ok (link, p)) (hst : db.Stable id p.statement.target) :
    (db.settle id link (db.executed id link p).2).Agrees p.statement.target
      (db.noted l id link p) := by
  have hexec := executed_eq hp
  have hturn := turn_settle hp
  have ho : ∀ c, c ≠ id →
      (db.settle id link (db.executed id link p).2).transaction? c = db.transaction? c :=
    fun c hc => transaction?_settle_of_ne _ hc
  cases Turn.execute_course (t := db.turn id) (fun _ hg => hr.sound hg) id p.bindings with
  | idle hsame he =>
    rw [noted_eq_self fun r hx => he r (by rw [← hexec]; exact hx) _ (h.isSome_view hst)]
    exact h.of_turn_eq (hturn.trans hsame) ho rfl fun _ => rfl
  | failed hw hx he =>
    rw [← hturn] at hw he
    rw [noted_of_error (by rw [hexec]; exact hx)]
    have hv := he.trans (h.view_of_free hst (fun _ hg => hr.sound hg) hw.before)
    refine h.works hr' hst hw ho (fun _ _ => rfl) (fun _ _ => ⟨rfl, hv⟩) fun hnone => ?_
    have hon := h.idle id (hr.accounted.not_holds hnone)
    exact ⟨hv.trans (Ledger.view_of_on_eq_nil hon), hon⟩
  | @done r hw hx he =>
    rw [← hturn] at hw he
    rw [noted_of_ok (by rw [hexec]; exact hx), inTransaction_eq]
    rw [h.view_of_free hst (fun _ hg => hr.sound hg) hw.before] at he
    refine h.works hr' hst hw ho (fun _ hc => Ledger.pending_note_of_ne hc _)
      (fun x hsome => ?_) fun hnone => ?_
    · rw [hsome]
      exact ⟨congrFun (Ledger.committed_note_inside ..) _, he.trans (Ledger.view_note ..).symm⟩
    · rw [hnone]
      have hon := h.idle id (hr.accounted.not_holds hnone)
      have hcommitted := Ledger.committed_note_outside (d := ⟨p.statement, p.bindings, r⟩) hon
      exact ⟨he.trans hcommitted.symm, Ledger.on_note_outside hon⟩

/-- **Statements** agree with what is noted of them, if the table is stable where they do more than
select from it. -/
theorem Agrees.executed (h : db.Agrees name l) (hr : Reachable db)
    (hr' : Reachable (db.settle id link (db.executed id link p).2))
    (hp : db.prepared? id = .ok (link, p))
    (hd : p.statement.target = name → p.statement.IsPlain ∨ db.Stable id name) :
    (db.settle id link (db.executed id link p).2).Agrees name (db.noted l id link p) := by
  by_cases hn : p.statement.target = name
  · subst hn
    rcases hd rfl with hplain | hst
    · rw [noted_eq_self fun r _ => Deed.effect_of_returnsRows hplain.returnsRows p.bindings r _]
      exact h.of_turn_eq ((turn_settle hp).trans (Turn.execute_of_isPlain hplain))
        (fun c hc => transaction?_settle_of_ne _ hc) rfl fun _ => rfl
    · exact h.executed_of_stable hr hr' hp hst
  · exact h.executed_elsewhere hr hp hn

/-- A rollback undoes what the connection did to the schema, and gives back the locks that it then
has. -/
theorem Accounted.get?_withdrawn (h : db.Accounted) (id : Nat) (m : String) :
    (finish id false db).2.storage.get? m =
      ((db.turn id).withdrawn.get? m).map fun u => u.release id false := by
  cases hx : db.transaction? id with
  | none =>
    rw [h.get?_finish (fun x hx' => nomatch hx.symm.trans hx')]
    exact congrArg _ (Turn.withdrawn_of_spares (t := db.turn id) (.of_none hx m)).symm
  | some x =>
    obtain ⟨link, hl, hlx⟩ := Option.bind_eq_some_iff.mp hx
    have hw : (db.turn id).withdrawn = x.undo.foldl Storage.undo db.storage := by
      simp only [Turn.withdrawn, hx]
    rw [finish_of_transaction hl hlx, storage_settle, hw]
    exact (h.turn id).get?_rolledBack hx m

theorem Accounted.get?_finish_of_not_holds (h : db.Accounted) (hh : ¬ db.Holds id name)
    (keep : Bool) : (finish id keep db).2.storage.get? name = db.storage.get? name := by
  have hg : (finish id keep db).2.storage.get? name =
      (db.storage.get? name).map fun u => u.release id keep := by
    cases keep with
    | true => exact h.get?_finish (fun _ _ => .inl rfl) name
    | false =>
      have hsp : Transaction.Spares name (db.transaction? id) := not_not.mp fun hx => hh (.inl hx)
      rw [h.get?_withdrawn, Turn.withdrawn_of_spares (t := db.turn id) hsp]
  rw [hg]
  cases ht : db.storage.get? name with
  | none => rfl
  | some table =>
    exact congrArg some (Table.release_of_ne (fun hl => hh (.inr ⟨table, ht, hl⟩)) keep)

theorem Agrees.ended_of_not_holds (h : db.Agrees name l) (hh : ¬ db.Holds id name)
    (hg : db'.storage.get? name = db.storage.get? name) (hx' : db'.transaction? id = none)
    (ho : ∀ c, c ≠ id → db'.transaction? c = db.transaction? c)
    (hc : l'.committed name = l.committed name)
    (hp : l'.pending = (l.setPending id []).pending) : db'.Agrees name l' := by
  have hsp : Transaction.Spares name (db.transaction? id) := not_not.mp fun hx => hh (.inl hx)
  have hsp' : Transaction.Spares name (db'.transaction? id) := .of_none hx' name
  refine h.congr hg ho (iff_of_true hsp' hsp) ?_ hc fun c => ?_
  · rw [Turn.withdrawn_of_spares (t := db'.turn id) hsp',
      Turn.withdrawn_of_spares (t := db.turn id) hsp]
    exact hg
  · rw [hp, Ledger.pending_setPending]
    split
    · next hc => rw [hc, h.idle id hh]; rfl
    · rfl

/-- The end of a transaction, for a table that the connection holds: what is shown then has to be
known. -/
theorem Agrees.ended_of_holds (h : db.Agrees name l) (hr' : Reachable db') (hh : db.Holds id name)
    (hf' : ∀ table, db'.storage.get? name = some table → table.Free id)
    (hx' : db'.transaction? id = none)
    (ho : ∀ c, c ≠ id → db'.transaction? c = db.transaction? c)
    (hs : (db'.storage.get? name).map Table.base = l'.committed name)
    (hp : l'.pending = (l.setPending id []).pending) : db'.Agrees name l' := by
  obtain ⟨hst, hf⟩ := h.of_holds hh
  have hh' : ¬ db'.Holds id name := hr'.accounted.not_holds hx'
  have hsp' : Transaction.Spares name (db'.transaction? id) := .of_none hx' name
  refine h.of_stable hst hf hf' ho (fun c hc => ?_) ?_ (fun hh => absurd hh hh') fun _ => ?_
  · rw [hp]
    exact if_neg hc
  · rw [Turn.withdrawn_of_spares (t := db'.turn id) hsp']
    exact hs
  · rw [hp, Ledger.pending_setPending, if_pos rfl]
    rfl

/-- **A commit** agrees with the changes of the connection being committed. -/
theorem Agrees.published (h : db.Agrees name l) (hr : Reachable db) (hr' : Reachable db')
    (hs : db'.storage = (finish id true db).2.storage) (hx' : db'.transaction? id = none)
    (ho : ∀ c, c ≠ id → db'.transaction? c = db.transaction? c) :
    db'.Agrees name (l.publish id) := by
  have hg : db'.storage.get? name = (db.storage.get? name).map fun u => u.release id true := by
    rw [hs]
    exact hr.accounted.get?_finish (fun _ _ => .inl rfl) name
  by_cases hh : db.Holds id name
  · obtain ⟨hst, hf⟩ := h.of_holds hh
    refine h.ended_of_holds hr' hh (fun table ht => ?_) hx' ho ?_ rfl
    · rw [hg] at ht
      obtain ⟨u, hu, rfl⟩ := Option.map_eq_some_iff.mp ht
      exact .inl ((hf u hu).release true)
    · rw [hg, Option.map_map]
      change _ = l.view id name
      rw [← h.own id hh]
      exact Option.map_congr fun u hu => (hr.sound hu).base_release (hf u hu)
  · have hsame := hr.accounted.get?_finish_of_not_holds hh true
    exact h.ended_of_not_holds hh (by rw [hs, hsame]) hx' ho
      (Ledger.view_of_on_eq_nil (h.idle id hh)) rfl

/-- **A rollback** agrees with the changes of the connection being forgotten. -/
theorem Agrees.forgotten (h : db.Agrees name l) (hr : Reachable db) (hr' : Reachable db')
    (hs : db'.storage = (finish id false db).2.storage) (hx' : db'.transaction? id = none)
    (ho : ∀ c, c ≠ id → db'.transaction? c = db.transaction? c) :
    db'.Agrees name (l.setPending id []) := by
  have hg : db'.storage.get? name =
      ((db.turn id).withdrawn.get? name).map fun u => u.release id false := by
    rw [hs]
    exact hr.accounted.get?_withdrawn id name
  by_cases hh : db.Holds id name
  · obtain ⟨hst, hf⟩ := h.of_holds hh
    refine h.ended_of_holds hr' hh (fun table ht => ?_) hx' ho ?_ rfl
    · rw [hg] at ht
      obtain ⟨u, hu, rfl⟩ := Option.map_eq_some_iff.mp ht
      -- The table is there already, or it is put back as the connection has dropped it.
      refine .inl (Table.Free.release ?_ false)
      unfold Turn.withdrawn at hu
      split at hu
      · exact hf u hu
      · next x hx =>
        rcases Storage.get?_undo_all hu with hu | hu
        · exact hf u hu
        · exact .inr (hr.accounted.kept id x hx name u hu).2.1
    · rw [hg, Option.map_map]
      change _ = l.committed name
      rw [← h.shown id hst]
      exact Option.map_congr fun u _ => Table.base_release_false u id
  · have hsame := hr.accounted.get?_finish_of_not_holds hh false
    exact h.ended_of_not_holds hh (by rw [hs, hsame]) hx' ho rfl rfl

theorem record_query (h : db.prepared? id = .ok (link, p)) :
    l.record db (.call id .query) = db.noted l id link p := by
  simp only [Ledger.record, done?, h]
  rfl

theorem record_update (h : db.prepared? id = .ok (link, p)) :
    l.record db (.call id .update) =
      if p.statement.returnsRows then l else db.noted l id link p := by
  simp only [Ledger.record, done?, h, noted, actor]
  split <;> simp_all

/-- **Every event** agrees with what is noted of it. -/
theorem Agrees.after (h : db.Agrees name l) (hr : Reachable db) {e : Event}
    (he : Heeds name db e) : (db.after e).Agrees name (l.record db e) := by
  have hr' : Reachable (db.after e) := hr.after e
  have ho : ∀ c, c ≠ db.actor e → (db.after e).transaction? c = db.transaction? c :=
    fun c hc => transaction?_after e hc
  cases e with
  | connect => exact h.rested (rested_connect hr.numbered) ho
  | disconnect id =>
    exact h.forgotten hr hr' (storage_disconnect id db) (Ending.closed.transaction?_after db) ho
  | call id c =>
    cases c with
    | begin => exact h.rested (rested_begin id db) ho
    | commit => exact h.published hr hr' rfl (Ending.committed.transaction?_after db) ho
    | rollback =>
      exact h.forgotten hr hr' (storage_rollback id db) (Ending.rolledBack.transaction?_after db) ho
    | prepare sql => exact h.rested (rested_prepare id sql db) ho
    | bind position value => exact h.rested (rested_bind id position value db) ho
    | query =>
      cases hp : db.prepared? id with
      | error e =>
        have hl : l.record db (.call id .query) = l := by simp only [Ledger.record, done?, hp]
        rw [hl, show db.after (.call id .query) = db from congrArg Prod.snd (query_after_error hp)]
        exact h
      | ok lp =>
        obtain ⟨link, p⟩ := lp
        have hdb : db.after (.call id .query) = _ := query_after hp
        rw [hdb] at hr' ⊢
        rw [record_query hp]
        exact h.executed hr hr' hp (he link p hp)
    | update =>
      cases hp : db.prepared? id with
      | error e =>
        have hl : l.record db (.call id .update) = l := by simp only [Ledger.record, done?, hp]
        have hafter : db.after (.call id .update) = db := congrArg Prod.snd (update_after_error hp)
        rw [hl, hafter]
        exact h
      | ok lp =>
        obtain ⟨link, p⟩ := lp
        have hdb : db.after (.call id .update) = _ := update_after hp
        rw [hdb] at hr' ⊢
        rw [record_update hp]
        split
        · exact h
        · next hs =>
          rw [if_neg hs] at hr'
          exact h.executed hr hr' hp (he link p hp)

theorem Recorded.agrees (h : Recorded (Heeds name) db l) : db.Agrees name l := by
  induction h with
  | new =>
    refine ⟨fun _ _ => rfl, fun c hc => absurd (.of_none rfl name) hc, fun c hh => ?_,
      fun _ _ => rfl⟩
    exact absurd hh (Reachable.new.accounted.not_holds rfl)
  | after e h he ih => exact ih.after h.reachable he

end Database

end CounterTable
