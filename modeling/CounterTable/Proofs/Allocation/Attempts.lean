import CounterTable.Proofs.Allocation.Race
import CounterTable.Proofs.Store.Exclusion

/-!
# One allocation among others

An allocation that runs in a transaction of its own makes one call on its connection at a time, and
others do something between its calls. What a call comes to does not depend on what they do, except
for what the read answers and for whether the update is lost.

* `Attempt.call`, `Attempt.current?`, `Counter.Prepares`: the next call of an attempt, the value
  it has read, and what it has prepared;
* `Counter.Attempted`, **`Counter.allocation_cases`**: all that a step of an attempt can come to;
* `Counter.isolated`, `Counter.transacted`: an allocation in its transaction, observed or not;
* `Counter.transacted_start`, `Counter.transacted_succeeded`, `Counter.transacted_failed`: how it
  begins and ends.
-/

namespace CounterTable

/-! ## An attempt -/

/-- The statements of a counter, as far as the database understands them, create and drop no
tables. -/
def Counter.OnRows (c : Counter) : Prop :=
  ∀ s, Statement.ofText c.selectText = .ok s ∨ Statement.ofText c.updateText = .ok s → s.OnRows

/-- The call that an attempt makes next. -/
def Attempt.call (c : Counter) : Attempt → Call
  | .preparingRead => .prepare c.selectText
  | .reading => .query
  | .preparingWrite _ _ => .prepare c.updateText
  | .bindingAdvanced _ advanced => .bind 1 advanced.toValue
  | .bindingCurrent current => .bind 2 current.toValue
  | .writing _ => .update

/-- The value that an attempt has read. -/
def Attempt.current? : Attempt → Option Integral
  | .preparingRead | .reading => none
  | .preparingWrite current _ | .bindingAdvanced current _ => some current
  | .bindingCurrent current | .writing current => some current

/-- What an attempt has prepared and bound. -/
def Counter.Prepares (c : Counter) (prepared : Option Prepared) : Attempt → Prop
  | .preparingRead | .preparingWrite _ _ => True
  | .reading => ∃ s, Statement.ofText c.selectText = .ok s ∧ prepared = some ⟨c.selectText, s, []⟩
  | .bindingAdvanced _ _ =>
    ∃ s, Statement.ofText c.updateText = .ok s ∧ prepared = some ⟨c.updateText, s, []⟩
  | .bindingCurrent _ => ∃ s b, Statement.ofText c.updateText = .ok s ∧
    prepared = some ⟨c.updateText, s, b⟩ ∧ ∃ w : Int64, b.get? 1 = some (.integer w)
  | .writing current => ∃ s b, Statement.ofText c.updateText = .ok s ∧
    prepared = some ⟨c.updateText, s, b⟩ ∧ b.get? 2 = some (.integer current.word) ∧
      ∃ w : Int64, b.get? 1 = some (.integer w)

namespace Counter

variable {c : Counter} {db : Database} {id : Nat} {link : Link} {attempt : Attempt}

theorem allocation_snd {σ : Type} (c : Counter) (conn : Connection σ) (a : Allocation) (s : σ) :
    (c.allocation conn a s).2 = (conn.call (a.attempt.call c) s).2 := by
  obtain ⟨n, attempt⟩ := a
  cases attempt <;> simp only [allocation, Attempt.call]
  case reading =>
    rcases conn.call .query s with ⟨r, s'⟩
    cases r with
    | error e => rfl
    | ok q => cases hrow : c.readRow q <;> simp only [hrow]
  case writing current =>
    rcases conn.call .update s with ⟨r, s'⟩
    rcases r with e | _ | n'
    · rfl
    · cases c.retry.afterLoss c.table n <;> rfl
    · rfl
  all_goals split <;> simp_all

theorem allocation_after (c : Counter) (id : Nat) (a : Allocation) (db : Database) :
    (c.allocation (Database.connection id) a db).2 = db.after (.call id (a.attempt.call c)) :=
  c.allocation_snd (Database.connection id) a db

theorem readRow_ne_retriesExhausted {q : QueryResult} {e : Error} (h : c.readRow q = .error e)
    (table : String) (n : Nat) : e ≠ .retriesExhausted table n := by
  rintro rfl
  unfold readRow at h
  split at h
  · cases h
  · next value _ =>
    split at h
    · next e he =>
      cases h
      unfold Integral.ofValue Integral.make at he
      split at he
      · split at he <;> cases he
      · cases he
    · next current _ =>
      split at h
      · next e he =>
        cases h
        unfold Integral.add Integral.checked at he
        split at he <;> cases he
      · cases h

theorem word_of_readRow {q : QueryResult} {current advanced : Integral}
    (h : c.readRow q = .ok (current, advanced)) :
    ∃ value, q.firstValue? = some value ∧ ∀ v, value = .integer v → v = current.word := by
  unfold readRow at h
  split at h
  · cases h
  · next value hv =>
    refine ⟨value, hv, ?_⟩
    rintro v rfl
    split at h
    · cases h
    · next current' hc =>
      split at h
      · cases h
      · cases h
        rw [← Int64.toInt_inj, Integral.toInt_word]
        exact (Integral.val_ofValue hc).symm

theorem Prepares.not_reshapes (h : c.Prepares link.prepared attempt) (hc : c.OnRows)
    (hl : db.links.get? id = some link) (m : String) :
    ¬ db.Reshapes m (.call id (attempt.call c)) := by
  cases attempt with
  | reading =>
    obtain ⟨s, hs, hp⟩ := h
    rintro ⟨link', p, hprep, -, hrows⟩
    rw [Database.prepared?_eq_ok.mpr ⟨hl, hp⟩] at hprep
    cases hprep
    exact hrows (hc s (.inl hs))
  | writing current =>
    obtain ⟨s, b, hs, hp, -⟩ := h
    rintro ⟨link', p, hprep, -, hrows⟩
    rw [Database.prepared?_eq_ok.mpr ⟨hl, hp⟩] at hprep
    cases hprep
    exact hrows (hc s (.inr hs))
  | preparingRead => exact fun h => h
  | preparingWrite _ _ => exact fun h => h
  | bindingAdvanced _ _ => exact fun h => h
  | bindingCurrent _ => exact fun h => h

theorem not_ending_call (c : Counter) (id : Nat) (attempt : Attempt) :
    ¬ Database.Ending id (.call id (attempt.call c)) := by
  cases attempt <;> rintro ⟨⟩

/-- All that a step of an attempt can come to. -/
inductive Attempted (c : Counter) (id : Nat) (db : Database) (link : Link) (a : Allocation) :
    Progress Allocation Integral × Database → Prop
  | failed {e : Error} {db' : Database} (he : ∀ table n, e ≠ .retriesExhausted table n) :
      Attempted c id db link a (.finished (.error e), db')
  /-- A statement was prepared, or a parameter of it was bound. -/
  | prepared {p : Prepared} {next : Attempt} (hp : c.Prepares (some p) next)
      (hc : next.current? = a.attempt.current?) :
      Attempted c id db link a (.running { a with attempt := next },
        { db with links := db.links.set id { link with prepared := some p } })
  | read {s : Statement} {q : QueryResult} {current advanced : Integral}
      (hs : Statement.ofText c.selectText = .ok s)
      (hp : link.prepared = some ⟨c.selectText, s, []⟩) (hq : (Database.query id db).1 = .ok q)
      (hrow : c.readRow q = .ok (current, advanced)) :
      Attempted c id db link a (.running { a with attempt := .preparingWrite current advanced },
        db.after (.call id .query))
  | lost {current : Integral} {n : Nat} (ha : a.attempt = .writing current)
      (hu : (Database.update id db).1 = .ok 0)
      (hn : c.retry.afterLoss c.table a.number = .ok n) :
      Attempted c id db link a (.running { number := n }, db.after (.call id .update))
  | gaveUp {current : Integral} {e : Error} (ha : a.attempt = .writing current)
      (hu : (Database.update id db).1 = .ok 0)
      (he : c.retry.afterLoss c.table a.number = .error e) :
      Attempted c id db link a (.finished (.error e), db.after (.call id .update))
  | won {current : Integral} {n : Nat} (ha : a.attempt = .writing current)
      (hu : (Database.update id db).1 = .ok (n + 1)) :
      Attempted c id db link a (.finished (.ok current), db.after (.call id .update))

theorem attempted_prepare (hl : db.links.get? id = some link) (sql : String) (next : Attempt)
    {a : Allocation}
    (herror : ∀ e db', (Database.connection id).call (.prepare sql) db = (.error e, db') →
      c.allocation (Database.connection id) a db = (.finished (.error (.sql sql e)), db'))
    (hok : ∀ db', (Database.connection id).call (.prepare sql) db = (.ok (), db') →
      c.allocation (Database.connection id) a db = (.running { a with attempt := next }, db'))
    (hp : ∀ s, Statement.ofText sql = .ok s → c.Prepares (some ⟨sql, s, []⟩) next)
    (hc : next.current? = a.attempt.current?) :
    c.Attempted id db link a (c.allocation (Database.connection id) a db) := by
  rcases hcall : (Database.connection id).call (.prepare sql) db with ⟨r, db'⟩
  have hdb : db.after (.call id (.prepare sql)) = db' := congrArg Prod.snd hcall
  cases r with
  | error e =>
    rw [herror e db' hcall]
    exact .failed fun _ _ => nofun
  | ok _ =>
    obtain ⟨s, hs, hafter⟩ := Database.exists_after_prepare hl (congrArg Prod.fst hcall)
    rw [hok db' hcall, ← hdb, hafter]
    exact .prepared (hp s hs) hc

theorem attempted_query {number : Nat} (hp : c.Prepares link.prepared .reading) :
    c.Attempted id db link ⟨number, .reading⟩
      (c.allocation (Database.connection id) ⟨number, .reading⟩ db) := by
  obtain ⟨s, hs, hprep⟩ := hp
  simp only [allocation]
  rcases hcall : (Database.connection id).call .query db with ⟨r, db'⟩
  have hdb : db.after (.call id .query) = db' := congrArg Prod.snd hcall
  cases r with
  | error e => exact .failed fun _ _ he => by cases he
  | ok q =>
    cases hrow : c.readRow q with
    | error e =>
      simp only [hrow]
      exact .failed (readRow_ne_retriesExhausted hrow)
    | ok row =>
      simp only [hrow]
      exact hdb ▸ .read hs hprep (congrArg Prod.fst hcall) hrow

theorem attempted_update (c : Counter) (id : Nat) (db : Database) (link : Link) (number : Nat)
    (current : Integral) : c.Attempted id db link ⟨number, .writing current⟩
      (c.allocation (Database.connection id) ⟨number, .writing current⟩ db) := by
  simp only [allocation]
  rcases hcall : (Database.connection id).call .update db with ⟨r, db'⟩
  have hdb : db.after (.call id .update) = db' := congrArg Prod.snd hcall
  rcases r with e | _ | n
  · exact .failed fun _ _ he => by cases he
  · cases hretry : c.retry.afterLoss c.table number with
    | error e => exact hdb ▸ .gaveUp rfl (congrArg Prod.fst hcall) hretry
    | ok n => exact hdb ▸ .lost rfl (congrArg Prod.fst hcall) hretry
  · exact hdb ▸ .won rfl (congrArg Prod.fst hcall)

/-- **Every step of an attempt** prepares or binds, reads the row, or tries to replace the value. -/
theorem allocation_cases (hl : db.links.get? id = some link) {a : Allocation}
    (hp : c.Prepares link.prepared a.attempt) :
    c.Attempted id db link a (c.allocation (Database.connection id) a db) := by
  obtain ⟨number, attempt⟩ := a
  cases attempt with
  | preparingRead =>
    exact attempted_prepare hl c.selectText .reading (fun e db' h => by simp only [allocation, h])
      (fun db' h => by simp only [allocation, h]) (fun s hs => ⟨s, hs, rfl⟩) rfl
  | reading => exact attempted_query hp
  | preparingWrite current advanced =>
    exact attempted_prepare hl c.updateText (.bindingAdvanced current advanced)
      (fun e db' h => by simp only [allocation, h])
      (fun db' h => by simp only [allocation, h]) (fun s hs => ⟨s, hs, rfl⟩) rfl
  | bindingAdvanced current advanced =>
    obtain ⟨s, hs, hprep⟩ := hp
    have hcall : (Database.connection id).call (.bind 1 advanced.toValue) db = _ :=
      Database.bind_of_prepared hl hprep Nat.one_ne_zero advanced.toValue
    simp only [allocation, hcall]
    exact .prepared ⟨s, _, hs, rfl, advanced.word, by simp [Integral.toValue]⟩ rfl
  | bindingCurrent current =>
    obtain ⟨s, b, hs, hprep, w, hb⟩ := hp
    have hcall : (Database.connection id).call (.bind 2 current.toValue) db = _ :=
      Database.bind_of_prepared hl hprep (Nat.succ_ne_zero 1) current.toValue
    simp only [allocation, hcall]
    exact .prepared ⟨s, _, hs, rfl, by simp [Integral.toValue], w, by simpa using hb⟩ rfl
  | writing current => exact attempted_update c id db link number current

end Counter

/-! ## An allocation in its transaction -/

theorem Database.finish_eq_error {db : Database} {id : Nat} {keep : Bool} {e : Error}
    (h : (finish id keep db).1 = .error e) :
    e = .transaction "no active transaction" := by
  cases hl : db.links.get? id with
  | none =>
    simp only [finish, hl, Except.error.injEq] at h
    exact h.symm
  | some link =>
    cases hx : link.transaction with
    | none =>
      have ht : (⟨db.storage, link.transaction⟩ : Turn).transaction = none := hx
      simp only [finish, hl, withTurn_eq, Turn.finish_of_none ht, Except.error.injEq] at h
      exact h.symm
    | some x =>
      rw [finish_of_transaction hl hx] at h
      cases h

/-- An allocation on a connection in a transaction of its own, observed by its session and counted
if it succeeds. -/
def Counter.isolated {σ : Type} (c : Counter) (conn : Connection σ) (logger : Logger) :
    Work (Accessed σ) (Delegated Allocation Integral) Integral :=
  (Delegate.isolated ((conn.beside Journal).beside UInt64) true).delegated
    (c.observedAllocation conn logger) {}

/-- The same, which nobody observes. -/
def Counter.transacted {σ : Type} (c : Counter) (conn : Connection σ) :
    Work σ (Delegated Allocation Integral) Integral :=
  (Delegate.isolated conn true).delegated (c.allocation conn) {}

namespace Counter

variable {c : Counter} {db : Database} {id : Nat}

theorem nextValue_eq_isolated {σ : Type} (c : Counter) (b : Backend σ) (logger : Logger) :
    c.nextValue b logger = ((b.beside Journal).beside UInt64).fresh
      (fun id => c.isolated (b.connection id) logger) Delegate.start := rfl

theorem isolated_projects {σ : Type} (c : Counter) (conn : Connection σ) (logger : Logger) :
    Work.Projects (fun s : Accessed σ => s.1.1) (c.isolated conn logger) (c.transacted conn) := by
  have hconn : ((conn.beside Journal).beside UInt64).Projects (fun s : Accessed σ => s.1.1) conn :=
    ⟨fun _ => rfl, fun _ _ => ⟨rfl, rfl⟩⟩
  have hwork : Work.Projects (fun s : Accessed σ => s.1.1) (c.observedAllocation conn logger)
      (c.allocation conn) := ((Connection.observed_projects conn logger).allocation c).counting
  exact hwork.delegated (hconn.isolated true) {}

theorem exists_isolated {w : Delegated Allocation Integral} {db' : Database}
    {p : Progress (Delegated Allocation Integral) Integral}
    (h : c.transacted (Database.connection id) w db = (p, db')) (logger : Logger) (j : Journal)
    (n : UInt64) : ∃ j' n', c.isolated (Database.connection id) logger w ((db, j), n) =
      (p, ((db', j'), n')) := by
  obtain ⟨h₁, h₂⟩ := c.isolated_projects (Database.connection id) logger w ((db, j), n)
  rw [h] at h₁ h₂
  rcases hi : c.isolated (Database.connection id) logger w ((db, j), n) with ⟨p', ⟨db'', j'⟩, n'⟩
  rw [hi] at h₁ h₂
  cases h₁
  cases h₂
  exact ⟨j', n', rfl⟩

theorem isolated_working (c : Counter) (logger : Logger) (id : Nat)
    (outcomes : List (Except Error Unit)) (value : Option Integral) (a : Allocation)
    (s : Accessed Database) :
    (c.isolated (Database.connection id) logger (.working outcomes value a) s).2.1.1 =
      s.1.1.after (.call id (a.attempt.call c)) := by
  refine (c.isolated_projects (Database.connection id) logger _ s).2.trans ?_
  rw [← allocation_after]
  simp only [transacted, Delegate.delegated]
  rcases c.allocation (Database.connection id) a s.1.1 with ⟨p, db⟩
  rcases p with a | e | v <;> rfl

theorem transacted_start (c : Counter) (id : Nat) (db : Database) :
    (∃ e db', c.transacted (Database.connection id) Delegate.start db =
      (.finished (.error e), db') ∧ ∀ table n, e ≠ .retriesExhausted table n) ∨
    ∃ link, db.links.get? id = some link ∧ link.transaction = none ∧
      c.transacted (Database.connection id) Delegate.start db =
        (.running (.working [] none {}), db.after (.call id .begin)) := by
  have hcall : (Database.connection id).call .begin db = Database.begin id db := rfl
  have hin : (Database.connection id).inTransaction db = db.inTransaction id := rfl
  have hstart : (Delegate.start : Delegated Allocation Integral) = .deciding [] none := rfl
  rw [transacted, hstart]
  simp only [Delegate.delegated, Delegate.isolated, List.getLast?_nil, hin, hcall]
  cases hi : db.inTransaction id with
  | true => exact .inl ⟨_, _, rfl, fun _ _ he => by cases he⟩
  | false =>
    cases hl : db.links.get? id with
    | none =>
      have hbegin : Database.begin id db = (.error (Database.closed id), db) := by
        simp only [Database.begin, hl]
      rw [hbegin]
      exact .inl ⟨_, _, rfl, fun _ _ he => by cases he⟩
    | some link =>
      have hx : link.transaction = none := by
        rw [Database.inTransaction_eq, Database.transaction?_of_link hl] at hi
        exact Option.isNone_iff_eq_none.mp (Option.isSome_eq_false_iff.mp hi)
      have hbegin := Database.begin_of_none hl hx
      have hafter : db.after (.call id .begin) = _ := congrArg Prod.snd hbegin
      rw [hbegin, hafter]
      exact .inr ⟨link, rfl, hx, rfl⟩

theorem transacted_working (c : Counter) (id : Nat) (a : Allocation) (db : Database) :
    c.transacted (Database.connection id) (.working [] none a) db =
      match c.allocation (Database.connection id) a db with
      | (.running a, db) => (.running (.working [] none a), db)
      | (.finished (.ok v), db) => (.running (.deciding [.ok ()] (some v)), db)
      | (.finished (.error e), db) => (.running (.deciding [.error e] none), db) := by
  simp only [transacted, Delegate.delegated]
  rcases c.allocation (Database.connection id) a db with ⟨p, db'⟩
  rcases p with a | e | v <;> rfl

theorem transacted_preparingRead {link : Link} {s : Statement} (hl : db.links.get? id = some link)
    (hs : Statement.ofText c.selectText = .ok s) (n : Nat) :
    c.transacted (Database.connection id) (.working [] none ⟨n, .preparingRead⟩) db =
      (.running (.working [] none ⟨n, .reading⟩), { db with
        links := db.links.set id { link with prepared := some ⟨c.selectText, s, []⟩ } }) := by
  have hprepare : (Database.connection id).call (.prepare c.selectText) db = _ :=
    Database.prepare_of_ofText hl hs
  rw [transacted_working]
  simp only [allocation, hprepare]

theorem transacted_preparingWrite {link : Link} {s : Statement} (hl : db.links.get? id = some link)
    (hs : Statement.ofText c.updateText = .ok s) (n : Nat) (current advanced : Integral) :
    c.transacted (Database.connection id)
        (.working [] none ⟨n, .preparingWrite current advanced⟩) db =
      (.running (.working [] none ⟨n, .bindingAdvanced current advanced⟩), { db with
        links := db.links.set id { link with prepared := some ⟨c.updateText, s, []⟩ } }) := by
  have hprepare : (Database.connection id).call (.prepare c.updateText) db = _ :=
    Database.prepare_of_ofText hl hs
  rw [transacted_working]
  simp only [allocation, hprepare]

theorem transacted_succeeded (c : Counter) (id : Nat) (v : Integral) (db : Database) :
    ∃ r db', c.transacted (Database.connection id) (.deciding [.ok ()] (some v)) db =
      (.finished r, db') ∧ ∀ table n, r ≠ .error (.retriesExhausted table n) := by
  refine ⟨_, _, rfl, fun table n hresult => ?_⟩
  change Delegate.result (Database.finish id true db).1 (some v) = _ at hresult
  cases hr : (Database.finish id true db).1 with
  | ok _ =>
    rw [hr] at hresult
    cases hresult
  | error e =>
    rw [hr, Database.finish_eq_error hr] at hresult
    cases hresult

theorem transacted_failed (c : Counter) (id : Nat) (e : Error) (db : Database) :
    c.transacted (Database.connection id) (.deciding [.error e] none) db =
      (.finished (.error e), db.after (.call id .rollback)) := rfl

end Counter

end CounterTable
