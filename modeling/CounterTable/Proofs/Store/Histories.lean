import CounterTable.Proofs.Store.Turns
import CounterTable.Store.Database

/-!
# Histories of a database

Connections are opened and closed, and calls are made on them, in any order. An event of one
connection changes its own link, and the storage within its own transaction.

* `Event`, `Database.after`: what can happen, and what the database is then;
* `Database.Reachable`: the databases that histories lead to;
* `Database.Acted`: all that an event can do to the storage and to the transaction of a connection;
* **`Database.after_acts`**: an event does nothing else, and leaves all other links alone;
* `Database.Called`, **`Database.called`**: what a call comes to.
-/

namespace CounterTable

/-- What can happen to a database. -/
inductive Event where
  | connect
  | disconnect (id : Nat)
  | call (id : Nat) (c : Call)
deriving DecidableEq, Repr

namespace Database

/-- The database after an event. -/
def after (db : Database) : Event → Database
  | .connect => db.connect.2
  | .disconnect id => db.disconnect id
  | .call id c => ((connection id).call c db).2

/-- The databases that histories lead to, from a new one. -/
inductive Reachable : Database → Prop
  | new : Reachable {}
  | after {db : Database} (e : Event) (h : Reachable db) : Reachable (db.after e)

/-- The transaction that a connection is in. -/
def transaction? (db : Database) (id : Nat) : Option Transaction :=
  (db.links.get? id).bind Link.transaction

/-- The connection that an event belongs to. -/
def actor (db : Database) : Event → Nat
  | .connect => db.opened + 1
  | .disconnect id | .call id _ => id

/-- The tables that the statement which an event executes may change, create or drop. -/
def Writes (db : Database) : Event → String → Prop
  | .call id .query, name | .call id .update, name =>
    ∃ link p, db.prepared? id = .ok (link, p) ∧ p.statement.written? = some name
  | _, _ => False

/-- The number of every open connection has been given out. -/
def Numbered (db : Database) : Prop :=
  ∀ id, (db.links.get? id).isSome → 0 < id ∧ id ≤ db.opened

variable {db : Database} {id : Nat} {link : Link}

theorem transaction?_of_link (h : db.links.get? id = some link) :
    db.transaction? id = link.transaction := by
  rw [transaction?, h]
  rfl

theorem transaction?_of_none (h : db.links.get? id = none) : db.transaction? id = none := by
  rw [transaction?, h]
  rfl

theorem transaction?_eq_none (h : ∀ p ∈ db.links, p.2.transaction = none) (id : Nat) :
    db.transaction? id = none := by
  cases hl : db.links.get? id with
  | none => exact transaction?_of_none hl
  | some link =>
    obtain ⟨before, after, hsplit, -⟩ := List.lookup_eq_some_iff.mp hl
    rw [transaction?_of_link hl]
    exact h (id, link) (by simp [hsplit])

theorem inTransaction_eq (db : Database) (id : Nat) :
    db.inTransaction id = (db.transaction? id).isSome := by
  unfold inTransaction transaction?
  cases db.links.get? id <;> rfl

theorem transaction?_set (db : Database) (link : Link) (id c : Nat) :
    ({ db with links := db.links.set id link } : Database).transaction? c =
      if c = id then link.transaction else db.transaction? c := by
  unfold transaction?
  by_cases h : c = id <;> simp [h]

/-! ## Calls that work on the storage -/

/-- The database with what a turn of a connection has come to. -/
def settle (db : Database) (id : Nat) (link : Link) (t : Turn) : Database :=
  { db with
    storage := t.storage
    links := db.links.set id { link with transaction := t.transaction } }

theorem withTurn_eq {α : Type} (id : Nat) (link : Link) (act : Action Turn α) (db : Database) :
    withTurn id link act db =
      ((act ⟨db.storage, link.transaction⟩).1,
        db.settle id link (act ⟨db.storage, link.transaction⟩).2) := rfl

@[simp] theorem links_settle (db : Database) (id : Nat) (link : Link) (t : Turn) (c : Nat) :
    (db.settle id link t).links.get? c =
      if c = id then some { link with transaction := t.transaction } else db.links.get? c := by
  simp [settle]

@[simp] theorem storage_settle (db : Database) (id : Nat) (link : Link) (t : Turn) :
    (db.settle id link t).storage = t.storage := rfl

theorem transaction?_settle (db : Database) (id : Nat) (link : Link) (t : Turn) (c : Nat) :
    (db.settle id link t).transaction? c =
      if c = id then t.transaction else db.transaction? c := by
  unfold transaction?
  by_cases h : c = id <;> simp [h]

theorem transaction?_settle_of_eq (hl : db.links.get? id = some link) {t : Turn}
    (ht : t.transaction = link.transaction) (c : Nat) :
    (db.settle id link t).transaction? c = db.transaction? c := by
  rw [transaction?_settle]
  split
  · next hc => rw [ht, hc, transaction?_of_link hl]
  · rfl

theorem finish_of_transaction {x : Transaction} (hl : db.links.get? id = some link)
    (hx : link.transaction = some x) (keep : Bool) :
    finish id keep db =
      (.ok (), db.settle id link ⟨Turn.ended id keep db.storage x, none⟩) := by
  have ht : (⟨db.storage, link.transaction⟩ : Turn).transaction = some x := hx
  simp only [finish, hl, withTurn_eq, Turn.finish_of_transaction ht]

theorem finish_of_none (h : db.transaction? id = none) (keep : Bool) :
    ∃ e, (finish id keep db).1 = .error e ∧ (finish id keep db).2.storage = db.storage ∧
      ∀ c, (finish id keep db).2.links.get? c = db.links.get? c := by
  cases hl : db.links.get? id with
  | none =>
    have : finish id keep db = (.error (.transaction "no active transaction"), db) := by
      simp only [finish, hl]
    rw [this]
    exact ⟨_, rfl, rfl, fun _ => rfl⟩
  | some link =>
    rw [transaction?_of_link hl] at h
    have ht : (⟨db.storage, link.transaction⟩ : Turn).transaction = none := h
    have : finish id keep db = (.error (.transaction "no active transaction"),
        db.settle id link ⟨db.storage, link.transaction⟩) := by
      simp only [finish, hl, withTurn_eq, Turn.finish_of_none ht]
    rw [this]
    refine ⟨_, rfl, rfl, fun c => ?_⟩
    rw [links_settle]
    split
    · next hc => rw [hc, hl]
    · rfl

/-- The turn that the prepared statement of a connection is executed on, and what comes of it. -/
def executed (db : Database) (id : Nat) (link : Link) (p : Prepared) : Except Error Reply × Turn :=
  Turn.execute id p.bindings p.statement ⟨db.storage, link.transaction⟩

theorem prepare_of_ofText {sql : String} {s : Statement} (hl : db.links.get? id = some link)
    (hs : Statement.ofText sql = .ok s) :
    prepare id sql db =
      (.ok (), { db with links := db.links.set id { link with prepared := some ⟨sql, s, []⟩ } }) := by
  simp only [prepare, hl, hs]

theorem after_prepare {sql : String} {s : Statement} (hl : db.links.get? id = some link)
    (hs : Statement.ofText sql = .ok s) :
    db.after (.call id (.prepare sql)) =
      { db with links := db.links.set id { link with prepared := some ⟨sql, s, []⟩ } } :=
  congrArg Prod.snd (prepare_of_ofText hl hs)

theorem prepared?_eq_ok {p : Prepared} :
    db.prepared? id = .ok (link, p) ↔ db.links.get? id = some link ∧ link.prepared = some p := by
  unfold prepared?
  split
  · next hl => simp [hl]
  · next l hl =>
    rw [hl]
    split
    · next hp =>
      simp only [reduceCtorEq, Option.some.injEq, false_iff, not_and]
      rintro rfl
      simp [hp]
    · next q hp =>
      simp only [Except.ok.injEq, Prod.mk.injEq, Option.some.injEq]
      refine and_congr_right ?_
      rintro rfl
      rw [hp, Option.some.injEq]

theorem query_answer {p : Prepared} (h : db.prepared? id = .ok (link, p)) :
    (query id db).1 = match (db.executed id link p).1 with
      | .error e => .error e
      | .ok (.rows result) => .ok result
      | .ok (.count _) => .error (.unsupported s!"statement does not return rows: {p.sql}") := by
  simp only [query, h, withTurn_eq, executed]
  rcases Turn.execute id p.bindings p.statement ⟨db.storage, link.transaction⟩ with
    ⟨_ | _ | _, t⟩ <;> rfl

theorem update_answer {p : Prepared} (h : db.prepared? id = .ok (link, p))
    (hs : p.statement.returnsRows = false) :
    (update id db).1 = match (db.executed id link p).1 with
      | .error e => .error e
      | .ok (.count n) => .ok n
      | .ok (.rows result) => .ok result.rowCount := by
  simp only [update, h, withTurn_eq, hs, Bool.false_eq_true, if_false, executed]
  rcases Turn.execute id p.bindings p.statement ⟨db.storage, link.transaction⟩ with
    ⟨_ | _ | _, t⟩ <;> rfl

theorem query_after {p : Prepared} (h : db.prepared? id = .ok (link, p)) :
    (query id db).2 = db.settle id link (db.executed id link p).2 := by
  simp only [query, h, withTurn_eq, executed]
  rcases Turn.execute id p.bindings p.statement ⟨db.storage, link.transaction⟩ with
    ⟨_ | _ | _, t⟩ <;> rfl

theorem update_after {p : Prepared} (h : db.prepared? id = .ok (link, p)) :
    (update id db).2 =
      if p.statement.returnsRows then db else db.settle id link (db.executed id link p).2 := by
  simp only [update, h, withTurn_eq, executed]
  split
  · rfl
  · rcases Turn.execute id p.bindings p.statement ⟨db.storage, link.transaction⟩ with
      ⟨_ | _ | _, t⟩ <;> rfl

/-! ## What an event can do -/

/-- The storage stays as it is, and at most a transaction begins. -/
inductive Rested (id : Nat) (db db' : Database) : Prop
  | idle (hs : db'.storage = db.storage) (ht : db'.transaction? id = db.transaction? id)
  | began (hs : db'.storage = db.storage) (h : db.transaction? id = none)
      (ht : db'.transaction? id = some {})

/-- Everything that a connection can do to the storage and to its transaction. -/
inductive Acted (id : Nat) (W : String → Prop) (db db' : Database) : Prop
  | rested (h : Rested id db db')
  | moved (h : Turn.Moves id W ⟨db.storage, db.transaction? id⟩
      ⟨db'.storage, db'.transaction? id⟩)
  | ended {x : Transaction} (keep : Bool) (h : db.transaction? id = some x)
      (hs : db'.storage = Turn.ended id keep db.storage x) (ht : db'.transaction? id = none)

theorem query_after_error {e : Error} (h : db.prepared? id = .error e) :
    query id db = (.error e, db) := by
  simp only [query, h]

theorem update_after_error {e : Error} (h : db.prepared? id = .error e) :
    update id db = (.error e, db) := by
  simp only [update, h]

variable {W : String → Prop}

theorem moves_settle_execute {p : Prepared} (h : db.prepared? id = .ok (link, p))
    (hW : ∀ name ∈ p.statement.written?, W name) :
    Turn.Moves id W ⟨db.storage, db.transaction? id⟩
      ⟨(db.settle id link (db.executed id link p).2).storage,
        (db.settle id link (db.executed id link p).2).transaction? id⟩ := by
  have hl := (prepared?_eq_ok.mp h).1
  rw [transaction?_settle, if_pos rfl, transaction?_of_link hl]
  exact Turn.execute_moves id p.bindings p.statement _ hW

theorem acted_settle_execute {p : Prepared} (h : db.prepared? id = .ok (link, p))
    (hW : ∀ name ∈ p.statement.written?, W name) :
    Acted id W db (db.settle id link (db.executed id link p).2) :=
  .moved (moves_settle_execute h hW)

theorem acted_query (id : Nat) (db : Database) (hW : ∀ name, Writes db (.call id .query) name → W name) :
    Acted id W db (query id db).2 := by
  cases h : db.prepared? id with
  | error e =>
    rw [query_after_error h]
    exact .rested (.idle rfl rfl)
  | ok lp =>
    obtain ⟨link, p⟩ := lp
    rw [query_after h]
    exact acted_settle_execute h fun name hn => hW name ⟨link, p, h, hn⟩

theorem acted_update (id : Nat) (db : Database)
    (hW : ∀ name, Writes db (.call id .update) name → W name) :
    Acted id W db (update id db).2 := by
  cases h : db.prepared? id with
  | error e =>
    rw [update_after_error h]
    exact .rested (.idle rfl rfl)
  | ok lp =>
    obtain ⟨link, p⟩ := lp
    rw [update_after h]
    split
    · exact .rested (.idle rfl rfl)
    · exact acted_settle_execute h fun name hn => hW name ⟨link, p, h, hn⟩

theorem acted_finish (id : Nat) (keep : Bool) (db : Database) :
    Acted id W db (finish id keep db).2 := by
  cases hx : db.transaction? id with
  | none =>
    obtain ⟨e, -, hs, hl⟩ := finish_of_none hx keep
    exact .rested (.idle hs (by rw [transaction?, transaction?, hl]))
  | some x =>
    obtain ⟨link, hl, ht⟩ := Option.bind_eq_some_iff.mp hx
    rw [finish_of_transaction hl ht]
    exact .ended keep hx rfl (by rw [transaction?_settle, if_pos rfl])

theorem rested_begin (id : Nat) (db : Database) : Rested id db (begin id db).2 := by
  unfold begin
  split
  · exact .idle rfl rfl
  · next link hl =>
    split
    · exact .idle rfl rfl
    · next ht =>
      exact .began rfl (by rw [transaction?_of_link hl, ht])
        (by rw [transaction?_set, if_pos rfl])

theorem acted_rollback (id : Nat) (db : Database) : Acted id W db (rollback id db).2 := by
  unfold rollback
  split
  · exact acted_finish id false db
  · exact .rested (.idle rfl rfl)

theorem rested_prepare (id : Nat) (sql : String) (db : Database) :
    Rested id db (prepare id sql db).2 := by
  unfold prepare
  split
  · exact .idle rfl rfl
  · next link hl =>
    split
    · exact .idle rfl rfl
    · exact .idle rfl (by rw [transaction?_set, if_pos rfl, transaction?_of_link hl])

theorem rested_bind (id position : Nat) (value : Value) (db : Database) :
    Rested id db (bind id position value db).2 := by
  unfold bind
  split
  · exact .idle rfl rfl
  · next link p h =>
    split
    · exact .idle rfl rfl
    · exact .idle rfl
        (by rw [transaction?_set, if_pos rfl, transaction?_of_link (prepared?_eq_ok.mp h).1])

theorem acted_disconnect (id : Nat) (db : Database) : Acted id W db (db.disconnect id) := by
  have ht : (db.disconnect id).transaction? id = none := by
    simp [disconnect, transaction?]
  cases hx : db.transaction? id with
  | none =>
    have hi : db.inTransaction id = false := by rw [inTransaction_eq, hx]; rfl
    refine .rested (.idle ?_ (by rw [ht, hx]))
    simp [disconnect, hi]
  | some x =>
    have hi : db.inTransaction id = true := by rw [inTransaction_eq, hx]; rfl
    obtain ⟨link, hl, hlx⟩ := Option.bind_eq_some_iff.mp hx
    refine .ended false hx ?_ ht
    simp [disconnect, hi, finish_of_transaction hl hlx]

theorem rested_connect (h : db.Numbered) : Rested (db.opened + 1) db db.connect.2 := by
  have hn : db.links.get? (db.opened + 1) = none := by
    cases hc : db.links.get? (db.opened + 1) with
    | none => rfl
    | some link =>
      have := h _ (Option.isSome_of_eq_some hc)
      omega
  refine .idle rfl ?_
  rw [transaction?_of_none hn]
  simp [connect, transaction?]

/-- **An event** does to the storage and the transaction of its connection what it can do, and
nothing else. -/
theorem after_acts (h : db.Numbered) (e : Event) :
    Acted (db.actor e) (db.Writes e) db (db.after e) := by
  cases e with
  | connect => exact .rested (rested_connect h)
  | disconnect id => exact acted_disconnect id db
  | call id c =>
    cases c with
    | begin => exact .rested (rested_begin id db)
    | commit => exact acted_finish id true db
    | rollback => exact acted_rollback id db
    | prepare sql => exact .rested (rested_prepare id sql db)
    | bind position value => exact .rested (rested_bind id position value db)
    | query => exact acted_query id db fun _ hn => hn
    | update => exact acted_update id db fun _ hn => hn

/-! ## What a call comes to -/

/-- A call leaves the database as it is, replaces the link of its connection, or settles what has
become of the storage and its transaction. -/
inductive Called (id : Nat) (db : Database) : Call → Database → Prop
  | idle (c : Call) : Called id db c db
  | begun {link : Link} (hl : db.links.get? id = some link) (hx : link.transaction = none) :
      Called id db .begin
        { db with links := db.links.set id { link with transaction := some {} } }
  | finished {link : Link} {c : Call} (keep : Bool) (hl : db.links.get? id = some link) :
      Called id db c
        (db.settle id link (Turn.finish id keep ⟨db.storage, link.transaction⟩).2)
  | prepared {link : Link} {sql : String} {s : Statement} (hl : db.links.get? id = some link)
      (hs : Statement.ofText sql = .ok s) :
      Called id db (.prepare sql)
        { db with links := db.links.set id { link with prepared := some ⟨sql, s, []⟩ } }
  | bound {link : Link} {p : Prepared} {position : Nat} {value : Value}
      (hp : db.prepared? id = .ok (link, p)) :
      Called id db (.bind position value)
        { db with links := db.links.set id { link with
          prepared := some { p with bindings := p.bindings.set position value } } }
  | executed {link : Link} {p : Prepared} {c : Call} (hp : db.prepared? id = .ok (link, p)) :
      Called id db c (db.settle id link (db.executed id link p).2)

theorem called_finish (id : Nat) (keep : Bool) (c : Call) (db : Database) :
    Called id db c (finish id keep db).2 := by
  unfold finish
  split
  · next link hl => exact .finished keep hl
  · exact .idle c

theorem called_query (id : Nat) (db : Database) : Called id db .query (query id db).2 := by
  cases h : db.prepared? id with
  | error e =>
    rw [query_after_error h]
    exact .idle _
  | ok lp =>
    rw [query_after h]
    exact .executed h

theorem called_update (id : Nat) (db : Database) : Called id db .update (update id db).2 := by
  cases h : db.prepared? id with
  | error e =>
    rw [update_after_error h]
    exact .idle _
  | ok lp =>
    rw [update_after h]
    split
    · exact .idle _
    · exact .executed h

/-- **A call** comes to nothing else. -/
theorem called (id : Nat) (c : Call) (db : Database) :
    Called id db c ((connection id).call c db).2 := by
  cases c with
  | begin =>
    change Called id db .begin (begin id db).2
    unfold begin
    split
    · exact .idle _
    · next link hl =>
      split
      · exact .idle _
      · next hx => exact .begun hl hx
  | commit => exact called_finish id true _ db
  | rollback =>
    change Called id db .rollback (rollback id db).2
    unfold rollback
    split
    · exact called_finish id false _ db
    · exact .idle _
  | prepare sql =>
    change Called id db (.prepare sql) (prepare id sql db).2
    unfold prepare
    split
    · exact .idle _
    · next link hl =>
      split
      · exact .idle _
      · next s hs => exact .prepared hl hs
  | bind position value =>
    change Called id db (.bind position value) (bind id position value db).2
    unfold bind
    split
    · exact .idle _
    · next link p hp =>
      split
      · exact .idle _
      · exact .bound hp
  | query => exact called_query id db
  | update => exact called_update id db

/-! ## What an event leaves alone -/

/-- Two databases that have the same links, but for the one of a connection that is open in both or
in neither. -/
structure SameLinks (id : Nat) (db db' : Database) : Prop where
  opened : db'.opened = db.opened
  others : ∀ c, c ≠ id → db'.links.get? c = db.links.get? c
  isOpen : (db'.links.get? id).isSome = (db.links.get? id).isSome

theorem SameLinks.refl (id : Nat) (db : Database) : SameLinks id db db := ⟨rfl, fun _ _ => rfl, rfl⟩

theorem sameLinks_set (hl : db.links.get? id = some link) (s : Storage) (link' : Link) :
    SameLinks id db { db with storage := s, links := db.links.set id link' } where
  opened := rfl
  others c hc := by simp [hc]
  isOpen := by simp [hl]

theorem sameLinks_settle (hl : db.links.get? id = some link) (t : Turn) :
    SameLinks id db (db.settle id link t) := sameLinks_set hl _ _

theorem sameLinks_finish (id : Nat) (keep : Bool) (db : Database) :
    SameLinks id db (finish id keep db).2 := by
  unfold finish
  split
  · next link hl => exact sameLinks_settle hl _
  · exact .refl id db

theorem Called.sameLinks {c : Call} {db' : Database} (h : Called id db c db') :
    SameLinks id db db' := by
  cases h with
  | idle => exact .refl id db
  | begun hl _ => exact sameLinks_set hl _ _
  | finished keep hl => exact sameLinks_settle hl _
  | prepared hl _ => exact sameLinks_set hl _ _
  | bound hp => exact sameLinks_set (prepared?_eq_ok.mp hp).1 _ _
  | executed hp => exact sameLinks_settle (prepared?_eq_ok.mp hp).1 _

theorem sameLinks_call (id : Nat) (c : Call) (db : Database) :
    SameLinks id db ((connection id).call c db).2 := (called id c db).sameLinks

theorem opened_disconnect (id : Nat) (db : Database) : (db.disconnect id).opened = db.opened := by
  unfold disconnect
  split
  · exact (sameLinks_finish id false db).opened
  · rfl

theorem links_disconnect (id : Nat) (db : Database) (c : Nat) :
    (db.disconnect id).links.get? c = if c = id then none else db.links.get? c := by
  unfold disconnect
  by_cases hc : c = id
  · simp [hc]
  · simp only [Keyed.get?_erase, beq_iff_eq, if_neg hc]
    split
    · exact (sameLinks_finish id false db).others c hc
    · rfl

theorem links_after {c : Nat} (e : Event) (hc : c ≠ db.actor e) :
    (db.after e).links.get? c = db.links.get? c := by
  cases e with
  | connect =>
    change c ≠ db.opened + 1 at hc
    simp [after, connect, hc]
  | disconnect id => exact (links_disconnect id db c).trans (if_neg hc)
  | call id call => exact (sameLinks_call id call db).others c hc

theorem transaction?_after {c : Nat} (e : Event) (hc : c ≠ db.actor e) :
    (db.after e).transaction? c = db.transaction? c := by
  rw [transaction?, links_after e hc, transaction?]

theorem opened_le_after (db : Database) (e : Event) : db.opened ≤ (db.after e).opened := by
  cases e with
  | connect => exact Nat.le_succ _
  | disconnect id => exact Nat.le_of_eq (opened_disconnect id db).symm
  | call id c => exact Nat.le_of_eq (sameLinks_call id c db).opened.symm

theorem Numbered.after (h : db.Numbered) (e : Event) : (db.after e).Numbered := by
  intro c hc
  have hle := opened_le_after db e
  by_cases hca : c = db.actor e
  · cases e with
    | connect =>
      change c = db.opened + 1 at hca
      change 0 < c ∧ c ≤ db.opened + 1
      omega
    | disconnect id =>
      rw [show (db.after (.disconnect id)).links.get? c = none from
        (links_disconnect id db c).trans (if_pos hca)] at hc
      cases hc
    | call id call =>
      change c = id at hca
      subst hca
      rw [show ((db.after (.call c call)).links.get? c).isSome = _ from
        (sameLinks_call c call db).isOpen] at hc
      have := h c hc
      omega
  · rw [links_after e hca] at hc
    have := h c hc
    omega

theorem Reachable.numbered (h : Reachable db) : db.Numbered := by
  induction h with
  | new => exact fun _ hid => by cases hid
  | after e _ ih => exact ih.after e

theorem Reachable.foldl (h : Reachable db) (es : List Event) :
    Reachable (es.foldl Database.after db) := by
  induction es generalizing db with
  | nil => exact h
  | cons e es ih => exact ih (h.after e)

end Database

end CounterTable
