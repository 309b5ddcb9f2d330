import CounterTable.Proofs.Store.Replay

/-!
# Chronicles

While connections work on a database, a chronicle notes what they have done with success: each
transaction when it is committed, and what is still pending. A statement outside of a transaction is
a transaction of its own. What is rolled back is forgotten.

* `Chronicle`, `Chronicle.record`: what is noted of an event, from its answer;
* `Database.Admits`: the events that leave the schema alone;
* `Database.History`: a database with its chronicle, after any such events;
* `Database.deed?_query`, `Database.deed?_update`: what is noted of an execution.
-/

namespace CounterTable

namespace Database

/-- What an event has executed with success. -/
def deed? (db : Database) : Event → Option Deed
  | .call id .query =>
    match db.prepared? id, (query id db).1 with
    | .ok (_, p), .ok result => some ⟨p.statement, p.bindings, .rows result⟩
    | _, _ => none
  | .call id .update =>
    match db.prepared? id, (update id db).1 with
    | .ok (_, p), .ok n => some ⟨p.statement, p.bindings, .count n⟩
    | _, _ => none
  | _ => none

/-- Queries execute selections, and updates do not create or drop tables. -/
def Admits (db : Database) : Event → Prop
  | .call id .query => ∀ link p, db.prepared? id = .ok (link, p) → p.statement.returnsRows
  | .call id .update => ∀ link p, db.prepared? id = .ok (link, p) → p.statement.OnRows
  | _ => True

end Database

/-- What connections have done with success. -/
structure Chronicle where
  /-- The committed transactions, in the order of their commits. -/
  committed : List (List Deed) := []
  /-- What each connection has done in the transaction that it is in. -/
  pending : Nat → List Deed := fun _ => []

namespace Chronicle

/-- The chronicle with other pending deeds of one connection. -/
def setPending (h : Chronicle) (id : Nat) (ds : List Deed) : Chronicle :=
  { h with pending := fun c => if c = id then ds else h.pending c }

/-- Notes a committed transaction. -/
def append (h : Chronicle) (ds : List Deed) : Chronicle :=
  { h with committed := h.committed ++ [ds] }

/-- Notes a deed: in a transaction it is pending, outside it is a transaction of its own. -/
def note (h : Chronicle) (id : Nat) (inTransaction : Bool) (d : Deed) : Chronicle :=
  if inTransaction then h.setPending id (h.pending id ++ [d]) else h.append [d]

/-- Notes an event of a database. -/
def record (h : Chronicle) (db : Database) : Event → Chronicle
  | .disconnect id | .call id .rollback => h.setPending id []
  | .call id .commit =>
    match (Database.finish id true db).1 with
    | .ok _ => (h.append (h.pending id)).setPending id []
    | .error _ => h
  | e =>
    match db.deed? e with
    | some d => h.note (db.actor e) (db.inTransaction (db.actor e)) d
    | none => h

end Chronicle

namespace Database

variable {db : Database} {id : Nat} {link : Link} {p : Prepared}

/-- What executing a prepared statement has done, if it succeeded. -/
def deedOf (db : Database) (id : Nat) (link : Link) (p : Prepared) : Option Deed :=
  (db.executed id link p).1.toOption.map fun r => ⟨p.statement, p.bindings, r⟩

theorem deed?_query (h : db.prepared? id = .ok (link, p)) (hs : p.statement.returnsRows) :
    db.deed? (.call id .query) = db.deedOf id link p := by
  simp only [deed?, deedOf, h, query_answer h]
  cases hx : (db.executed id link p).1 with
  | error e => rfl
  | ok r =>
    obtain ⟨result, rfl⟩ := (Turn.isRows_of_execute hx).mpr hs
    rfl

theorem deed?_update (h : db.prepared? id = .ok (link, p)) (hs : p.statement.returnsRows = false) :
    db.deed? (.call id .update) = db.deedOf id link p := by
  simp only [deed?, deedOf, h, update_answer h hs]
  cases hx : (db.executed id link p).1 with
  | error e => rfl
  | ok r =>
    cases r with
    | count n => rfl
    | rows result =>
      have := (Turn.isRows_of_execute hx).mp ⟨result, rfl⟩
      rw [hs] at this
      cases this

theorem update_of_returnsRows (h : db.prepared? id = .ok (link, p))
    (hs : p.statement.returnsRows = true) :
    db.deed? (.call id .update) = none ∧ (update id db).2 = db := by
  have hu : update id db =
      (.error (.unsupported s!"query passed to execute_update: {p.sql}"), db) := by
    simp only [update, h, hs, if_true]
  exact ⟨by simp only [deed?, h, hu], by rw [hu]⟩

/-- A database with its chronicle, after any events that leave the schema alone. -/
inductive History (db₀ : Database) : Database → Chronicle → Prop
  | start : History db₀ db₀ {}
  | after {db : Database} {h : Chronicle} (e : Event) (hh : History db₀ db h) (ha : db.Admits e) :
      History db₀ (db.after e) (h.record db e)

theorem History.reachable {db₀ : Database} {h : Chronicle} (h₀ : Reachable db₀)
    (hh : History db₀ db h) : Reachable db := by
  induction hh with
  | start => exact h₀
  | after e _ _ ih => exact ih.after e

end Database

end CounterTable
