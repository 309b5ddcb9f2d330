import CounterTable.Proofs.Store.Chronicle
import CounterTable.Proofs.Store.Frame

/-!
# Ledgers

A ledger says what the tables ought to be: those that are committed, and what each connection has
changed in its transaction. It is kept from the statements that were executed, and knows neither
locks nor saved rows, nor how a database takes changes back.

* `Deed.effect`: what a deed makes of its table;
* `Ledger.view`: the committed tables with the changes of one connection;
* `Ledger.record`: what is noted of an event;
* `Database.Stable`: nobody else can take back that a table was created or dropped;
* `Database.Recorded`: a database with its ledger, after a history;
* **`Turn.execute_course`**: executing a statement does to its table what the deed does.
-/

namespace CounterTable

/-- What a deed makes of its table, if there is one. -/
def Deed.effect (d : Deed) (t? : Option Table) : Option Table :=
  match d.statement with
  | .createTable _ columns _ => some (t?.getD { columns })
  | .dropTable .. => none
  | _ => t?.map fun t => (t.redo d).getD t

/-- The statement takes no locks and changes nothing. -/
def Statement.IsPlain : Statement → Prop
  | select _ _ _ forUpdate => forUpdate = false
  | _ => False

theorem Statement.IsPlain.returnsRows {s : Statement} (h : s.IsPlain) : s.returnsRows := by
  cases s with
  | select => rfl
  | _ => exact h.elim

/-- What the tables ought to be. -/
structure Ledger where
  committed : String → Option Table := fun _ => none
  /-- What each connection has changed in the transaction that it is in. -/
  pending : Nat → List Deed := fun _ => []

namespace Ledger

/-- The committed table, with the changes of one connection. -/
def view (l : Ledger) (id : Nat) (name : String) : Option Table :=
  (Deed.on name (l.pending id)).foldl (fun t? d => d.effect t?) (l.committed name)

/-- The ledger with other changes of one connection. -/
def setPending (l : Ledger) (id : Nat) (ds : List Deed) : Ledger :=
  { l with pending := fun c => if c = id then ds else l.pending c }

/-- The changes of a connection are committed. -/
def publish (l : Ledger) (id : Nat) : Ledger :=
  { l with committed := l.view id }.setPending id []

/-- Notes a deed, if it changes its table. A deed outside of a transaction is committed at once. -/
def note (l : Ledger) (id : Nat) (inTransaction : Bool) (d : Deed) : Ledger :=
  if d.effect (l.view id d.target) = l.view id d.target then l
  else if inTransaction then l.setPending id (l.pending id ++ [d])
  else (l.setPending id (l.pending id ++ [d])).publish id

end Ledger

namespace Database

/-- What an event executes with success, also if the answer is then not the one it is called for. -/
def done? (db : Database) : Event → Option Deed
  | .call id .query =>
    match db.prepared? id with
    | .ok (link, p) => db.deedOf id link p
    | .error _ => none
  | .call id .update =>
    match db.prepared? id with
    | .ok (link, p) => if p.statement.returnsRows then none else db.deedOf id link p
    | .error _ => none
  | _ => none

end Database

namespace Ledger

/-- Notes an event of a database. -/
def record (l : Ledger) (db : Database) : Event → Ledger
  | .disconnect id | .call id .rollback => l.setPending id []
  | .call id .commit => l.publish id
  | e =>
    match db.done? e with
    | some d => l.note (db.actor e) (db.inTransaction (db.actor e)) d
    | none => l

end Ledger

namespace Database

/-- No other connection can take back that the table was created or dropped. -/
def Stable (db : Database) (id : Nat) (name : String) : Prop :=
  ∀ c, c ≠ id → Transaction.Spares name (db.transaction? c)

/-- Where the table is not stable for its connection, the event does no more than select from it. -/
def Heeds (name : String) (db : Database) : Event → Prop
  | .call id .query | .call id .update => ∀ link p, db.prepared? id = .ok (link, p) →
    p.statement.target = name → p.statement.IsPlain ∨ db.Stable id name
  | _ => True

/-- A database with its ledger, after any history of events that are as `P` says. -/
inductive Recorded (P : Database → Event → Prop) : Database → Ledger → Prop
  | new : Recorded P {} {}
  | after {db : Database} {l : Ledger} (e : Event) (h : Recorded P db l) (he : P db e) :
      Recorded P (db.after e) (l.record db e)

theorem Recorded.reachable {P : Database → Event → Prop} {db : Database} {l : Ledger}
    (h : Recorded P db l) : Reachable db := by
  induction h with
  | new => exact .new
  | after e _ _ ih => exact ih.after e

end Database

namespace Ledger

variable {l : Ledger} {id c : Nat} {name : String} {d : Deed}

theorem pending_setPending (l : Ledger) (id c : Nat) (ds : List Deed) :
    (l.setPending id ds).pending c = if c = id then ds else l.pending c := rfl

theorem pending_publish (l : Ledger) (id c : Nat) :
    (l.publish id).pending c = if c = id then [] else l.pending c := rfl

theorem view_of_on_eq_nil (h : Deed.on name (l.pending id) = []) :
    l.view id name = l.committed name := by
  rw [view, h, List.foldl_nil]

theorem view_append (l : Ledger) (id : Nat) (d : Deed) (name : String) :
    (l.setPending id (l.pending id ++ [d])).view id name =
      if d.target = name then d.effect (l.view id name) else l.view id name := by
  change (Deed.on name ((l.setPending id _).pending id)).foldl _ (l.committed name) = _
  rw [pending_setPending, if_pos rfl, Deed.on_append, List.foldl_append, Deed.on_cons]
  split <;> rfl

theorem view_note (l : Ledger) (id : Nat) (d : Deed) :
    (l.note id true d).view id d.target = d.effect (l.view id d.target) := by
  unfold note
  split
  · next he => exact he.symm
  · rw [if_pos rfl, view_append, if_pos rfl]

theorem committed_note_inside (l : Ledger) (id : Nat) (d : Deed) :
    (l.note id true d).committed = l.committed := by
  unfold note
  split <;> rfl

theorem committed_note_outside (h : Deed.on d.target (l.pending id) = []) :
    (l.note id false d).committed d.target = d.effect (l.view id d.target) := by
  unfold note
  split
  · next he => rw [he, view_of_on_eq_nil h]
  · exact (view_append l id d d.target).trans (if_pos rfl)

theorem on_note_outside (h : Deed.on name (l.pending id) = []) :
    Deed.on name ((l.note id false d).pending id) = [] := by
  unfold note
  split
  · exact h
  · rw [if_neg Bool.false_ne_true, pending_publish, if_pos rfl]
    rfl

theorem pending_note_of_ne (hc : c ≠ id) (inTransaction : Bool) :
    (l.note id inTransaction d).pending c = l.pending c := by
  unfold note
  split
  · rfl
  split
  · exact if_neg hc
  · exact (if_neg hc).trans (if_neg hc)

theorem note_of_ne (hd : d.target ≠ name) {inTransaction : Bool}
    (h : inTransaction = false → Deed.on name (l.pending id) = []) :
    (l.note id inTransaction d).committed name = l.committed name ∧
      ∀ c, Deed.on name ((l.note id inTransaction d).pending c) = Deed.on name (l.pending c) := by
  have happend : ∀ c, Deed.on name ((l.setPending id (l.pending id ++ [d])).pending c) =
      Deed.on name (l.pending c) := by
    intro c
    rw [pending_setPending]
    split
    · next hc => rw [hc, Deed.on_append, Deed.on_cons, if_neg hd]; exact List.append_nil _
    · rfl
  unfold note
  split
  · exact ⟨rfl, fun _ => rfl⟩
  · cases inTransaction with
    | true => exact ⟨rfl, happend⟩
    | false =>
      refine ⟨(view_append l id d name).trans ((if_neg hd).trans (view_of_on_eq_nil (h rfl))), ?_⟩
      intro c
      rw [if_neg Bool.false_ne_true, pending_publish]
      split
      · next hc => rw [hc, h rfl]; rfl
      · exact happend c

theorem note_of_effect (h : d.effect (l.view id d.target) = l.view id d.target)
    (inTransaction : Bool) : l.note id inTransaction d = l := if_pos h

end Ledger

namespace Deed

variable {b : Bindings} {s : Statement} {r : Reply} {t : Table}

theorem effect_of_onRows (hs : s.OnRows) (b : Bindings) (r : Reply) (t? : Option Table) :
    Deed.effect ⟨s, b, r⟩ t? = t?.map fun t => (t.redo ⟨s, b, r⟩).getD t := by
  cases s with
  | createTable => exact hs.elim
  | dropTable => exact hs.elim
  | _ => rfl

theorem effect_of_run (hs : s.OnRows) {rows : List Row} (h : t.run b s = .ok (r, rows)) :
    Deed.effect ⟨s, b, r⟩ (some t.plain) = some { t.plain with rows } := by
  have hr : t.plain.run b s = .ok (r, rows) := (Table.run_congr rfl rfl b s).trans h
  rw [effect_of_onRows hs, Option.map_some, Table.redo_of_run (d := ⟨s, b, r⟩) hr, Option.getD_some]

theorem effect_of_not_changes (hs : s.OnRows) (hk : Deed.changes ⟨s, b, r⟩ = false)
    (t? : Option Table) : Deed.effect ⟨s, b, r⟩ t? = t? := by
  rw [effect_of_onRows hs]
  cases t? with
  | none => rfl
  | some t =>
    rw [Option.map_some, Option.some.injEq]
    cases hr : t.redo ⟨s, b, r⟩ with
    | none => rfl
    | some u =>
      obtain ⟨rows, hrun, rfl⟩ := Table.redo_eq_some hr
      rw [Table.rows_of_run hrun hk]
      rfl

theorem effect_of_returnsRows (hs : s.returnsRows) (b : Bindings) (r : Reply) (t? : Option Table) :
    Deed.effect ⟨s, b, r⟩ t? = t? := by
  cases s with
  | select name items filter forUpdate =>
    rw [effect_of_onRows (s := .select name items filter forUpdate) trivial]
    cases t? with
    | none => rfl
    | some t =>
      rw [Option.map_some, Option.some.injEq]
      cases hr : t.redo ⟨.select name items filter forUpdate, b, r⟩ with
      | none => rfl
      | some u =>
        obtain ⟨rows, hrun, rfl⟩ := Table.redo_eq_some hr
        simp only [Table.run] at hrun
        cases hsel : t.plain.select 0 items filter b with
        | error e => rw [hsel] at hrun; cases hrun
        | ok result => rw [hsel] at hrun; cases hrun; rfl
  | _ => cases hs

end Deed

/-! ## The course of a statement -/

namespace Turn

variable {id : Nat} {b : Bindings} {s : Statement} {name : String} {t t' : Turn} {table : Table}

/-- The connection works on one table that is free for it. In a transaction it has noted how to take
back what it did to the schema, and holds the table if it did nothing to it. -/
structure Works (id : Nat) (name : String) (t t' : Turn) : Prop where
  others : ∀ m, m ≠ name → t'.storage.get? m = t.storage.get? m
  before : ∀ table, t.storage.get? name = some table → table.Free id
  after : ∀ table, t'.storage.get? name = some table → table.Free id
  outside : t.transaction = none → t'.transaction = none
  noted : ∀ x, t.transaction = some x → ∃ y us, t'.transaction = some y ∧ y.undo = us ++ x.undo ∧
    (∀ u ∈ us, u.name = name) ∧
    ((us.foldl Storage.undo t'.storage).get? name).map Table.base =
      (t.storage.get? name).map Table.base ∧
    (us = [] → ∃ table, t'.storage.get? name = some table ∧ table.lockedBy? = some id)

/-- All that executing a statement can come to, for its table: nothing that matters, or work with
the effect of the deed. -/
inductive Course (id : Nat) (b : Bindings) (s : Statement) (t : Turn) : Prop
  | idle (h : (execute id b s t).2 = t)
      (he : ∀ r, (execute id b s t).1 = .ok r → ∀ t? : Option Table,
        t?.isSome = (t.storage.get? s.target).isSome → Deed.effect ⟨s, b, r⟩ t? = t?)
  | failed {e : Error} (h : Works id s.target t (execute id b s t).2)
      (hr : (execute id b s t).1 = .error e)
      (he : ((execute id b s t).2.storage.get? s.target).map Table.plain =
        (t.storage.get? s.target).map Table.plain)
  | done {r : Reply} (h : Works id s.target t (execute id b s t).2)
      (hr : (execute id b s t).1 = .ok r)
      (he : ((execute id b s t).2.storage.get? s.target).map Table.plain =
        Deed.effect ⟨s, b, r⟩ ((t.storage.get? s.target).map Table.plain))

theorem execute_of_isPlain (h : s.IsPlain) : (execute id b s t).2 = t := by
  cases s with
  | select name items filter forUpdate =>
    cases h
    simp only [execute, select, Bool.false_eq_true, if_false]
    split <;> rfl
  | _ => exact h.elim

theorem Written.works {rows : List Row} (hw : Written id name table rows t t')
    (hg : t.storage.get? name = some table) (hs : table.Sound) (hf : table.Free id) :
    Works id name t t' where
  others m hm := (hw.get? m).trans (if_neg hm)
  before u hu := by
    cases hg.symm.trans hu
    exact hf
  after u hu := by
    rw [hw.get?, if_pos rfl] at hu
    cases hu
    exact claimed_free (t := t) hf
  outside := hw.transaction_outside
  noted x hx := by
    obtain ⟨y, hy, hyu⟩ := hw.transaction_inside hx
    have hget := (hw.get?_inside hx name).trans (if_pos rfl)
    refine ⟨y, [], hy, hyu, nofun, ?_, fun _ => ⟨_, hget, hf.lockedBy?_acquire⟩⟩
    rw [List.foldl_nil, hget, hg]
    exact congrArg some (hs.base_acquire hf rows)

theorem Written.plain {rows : List Row} (hw : Written id name table rows t t') :
    (t'.storage.get? name).map Table.plain = some { table.plain with rows } := by
  rw [hw.get?, if_pos rfl, Option.map_some, Table.plain, claimed_columns]
  rfl

theorem course_onRows (hs : ∀ table, t.storage.get? s.target = some table → table.Sound)
    (hr : s.OnRows) (id : Nat) (b : Bindings) : Course id b s t := by
  cases execute_cases hs hr id b with
  | idle h hk =>
    refine .idle h fun r hok t? _ => ?_
    cases hsel : s.returnsRows with
    | true => exact Deed.effect_of_returnsRows hsel b r t?
    | false =>
      refine Deed.effect_of_not_changes hr ?_ t?
      have := hk r hok
      cases s with
      | select => cases hsel
      | _ => exact this
  | failed hg hf he hw =>
    refine .failed (hw.works hg (hs _ hg) hf) he ?_
    rw [hw.plain, hg]
    rfl
  | done hg hf hok hrun hw =>
    refine .done (hw.works hg (hs _ hg) hf) hok ?_
    rw [hw.plain, hg, Option.map_some, Deed.effect_of_run hr hrun]

theorem works_created (hg : t.storage.get? name = none) (id : Nat) (columns : List String) :
    Works id name t
      ({ t with storage := t.storage.put name { columns } }.note (.created name)) where
  others m hm := (Storage.get?_put t.storage name m { columns }).trans (if_neg hm)
  before u hu := by cases hg.symm.trans hu
  after u hu := by
    cases ((Storage.get?_put t.storage name name { columns }).trans (if_pos rfl)).symm.trans hu
    exact .inl rfl
  outside hx := by simp [note, hx]
  noted x hx := by
    refine ⟨{ x with undo := .created name :: x.undo }, [.created name], ?_, rfl, ?_, ?_,
      fun he => by cases he⟩
    · simp [note, hx]
    · intro u hu
      rw [List.mem_singleton.mp hu]
      rfl
    · change ((Storage.undo _ (.created name)).get? name).map Table.base =
        (t.storage.get? name).map Table.base
      rw [Storage.get?_undo_created, if_pos rfl, hg]

theorem works_dropped (hg : t.storage.get? name = some table) (hs : table.Sound)
    (hf : table.Free id) : Works id name t
      ({ t.hold id name table with
          storage := ⟨(t.hold id name table).storage.tables.erase name⟩ }.note
        (.dropped name (t.claimed id table))) := by
  have hheld : Written id name table table.rows t (t.hold id name table) := written_hold hg
  have hget : ∀ m, Storage.get? ⟨(t.hold id name table).storage.tables.erase name⟩ m =
      if m = name then none else t.storage.get? m := by
    intro m
    refine (Storage.get?_erase (t.hold id name table).storage name m).trans ?_
    split
    · rfl
    · next hm => rw [get?_hold hg, if_neg hm]
  refine ⟨fun m hm => (hget m).trans (if_neg hm), ?_, ?_, ?_, ?_⟩
  · intro u hu
    cases hg.symm.trans hu
    exact hf
  · intro u hu
    cases ((hget name).trans (if_pos rfl)).symm.trans hu
  · intro hx
    simp [note, hheld.transaction_outside hx]
  · intro x hx
    obtain ⟨y, hy, hyu⟩ := hheld.transaction_inside hx
    refine ⟨{ y with undo := .dropped name (t.claimed id table) :: y.undo },
      [.dropped name (t.claimed id table)], ?_, ?_, ?_, ?_, fun he => by cases he⟩
    · simp [note, hy]
    · rw [hyu]
      rfl
    · intro u hu
      rw [List.mem_singleton.mp hu]
      rfl
    · have hclaimed : t.claimed id table = table.acquire id := by
        rw [claimed, hx]
        rfl
      change ((Storage.undo _ (.dropped name (t.claimed id table))).get? name).map Table.base =
        (t.storage.get? name).map Table.base
      rw [Storage.get?_undo_dropped, if_pos rfl, hg, Option.map_some, Option.map_some,
        ← claimed_setRows, hclaimed]
      exact congrArg some (hs.base_acquire hf table.rows)

theorem course_createTable (id : Nat) (b : Bindings) (name : String) (columns : List String)
    (ifNotExists : Bool) (t : Turn) : Course id b (.createTable name columns ifNotExists) t := by
  cases hg : t.storage.get? name with
  | none =>
    have hc : t.storage.contains name = false := by rw [Storage.contains_eq, hg]; rfl
    have hx : execute id b (.createTable name columns ifNotExists) t =
        (.ok (.count 0),
          { t with storage := t.storage.put name { columns } }.note (.created name)) := by
      simp only [execute, createTable, hc, Bool.false_and, Bool.false_eq_true, if_false,
        Storage.create_of_get?_none hg]
    have hnew : (t.storage.put name { columns }).get? name = some { columns } :=
      (Storage.get?_put t.storage name name { columns }).trans (if_pos rfl)
    refine .done (r := .count 0) ?_ (by rw [hx]) ?_
    · rw [hx]
      exact works_created hg id columns
    · rw [hx]
      change ((t.storage.put name { columns }).get? name).map Table.plain =
        Deed.effect _ ((t.storage.get? name).map Table.plain)
      rw [hnew, hg]
      rfl
  | some table =>
    have hsome : (t.storage.get? (Statement.createTable name columns ifNotExists).target).isSome =
        true := by
      change (t.storage.get? name).isSome = true
      rw [hg]
      rfl
    refine .idle ?_ fun r _ t? ht => ?_
    · have := Storage.create_of_get? hg columns
      simp only [execute, createTable, this]
      split <;> rfl
    · obtain ⟨u, rfl⟩ := Option.isSome_iff_exists.mp (ht.trans hsome)
      rfl

theorem course_dropTable (hs : ∀ table, t.storage.get? name = some table → table.Sound) (id : Nat)
    (b : Bindings) (ifExists : Bool) : Course id b (.dropTable name ifExists) t := by
  cases hg : t.storage.get? name with
  | none =>
    have hc : t.storage.contains name = false := by rw [Storage.contains_eq, hg]; rfl
    refine .idle ?_ fun r _ t? ht => ?_
    · simp only [execute, dropTable, hc, Bool.false_eq_true, if_false]
      split <;> rfl
    · change t?.isSome = (t.storage.get? name).isSome at ht
      rw [hg] at ht
      exact (Option.not_isSome_iff_eq_none.mp (by rw [ht]; exact Bool.false_ne_true)).symm
  | some table =>
    have hc : t.storage.contains name = true := by rw [Storage.contains_eq, hg]; rfl
    rcases claim_cases id name t with ⟨e, hcl⟩ | ⟨table', h, hf, hcl⟩
    · have hx : execute id b (.dropTable name ifExists) t = (.error e, t) := by
        simp only [execute, dropTable, hc, if_true, hcl]
      exact .idle (by rw [hx]) fun r hr => by rw [hx] at hr; cases hr
    · cases hg.symm.trans h
      have hx : execute id b (.dropTable name ifExists) t = (.ok (.count 0),
          { t.hold id name table with storage := ⟨(t.hold id name table).storage.tables.erase name⟩
            }.note (.dropped name (t.claimed id table))) := by
        simp only [execute, dropTable, hc, if_true, hcl,
          Storage.drop_of_get? (get?_hold_self hg)]
      have hgone : Storage.get? ⟨(t.hold id name table).storage.tables.erase name⟩ name = none :=
        (Storage.get?_erase (t.hold id name table).storage name name).trans (if_pos rfl)
      refine .done (r := .count 0) ?_ (by rw [hx]) ?_
      · rw [hx]
        exact works_dropped hg (hs table hg) hf
      · rw [hx]
        change (Storage.get? ⟨(t.hold id name table).storage.tables.erase name⟩ name).map
          Table.plain = Deed.effect _ ((t.storage.get? name).map Table.plain)
        rw [hgone]
        rfl

/-- **Executing a statement** leaves all other tables alone, and does to its own what the deed
does. -/
theorem execute_course (hs : ∀ table, t.storage.get? s.target = some table → table.Sound) (id : Nat)
    (b : Bindings) : Course id b s t := by
  cases s with
  | createTable name columns ifNotExists => exact course_createTable id b name columns ifNotExists t
  | dropTable name ifExists => exact course_dropTable hs id b ifExists
  | insert => exact course_onRows hs trivial id b
  | select => exact course_onRows hs trivial id b
  | update => exact course_onRows hs trivial id b

end Turn

end CounterTable
