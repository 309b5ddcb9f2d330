import CounterTable.Proofs.Allocation.Attempts
import CounterTable.Proofs.Store.Pinning

/-!
# Allocations that lock the row

Where the read of an allocation locks the table, nobody else changes it until the transaction ends.
So the value that was read is still there when the allocation writes, and no attempt is lost.

* `Counter.Locking`: the statements of a counter lock and replace a column of a table;
* `Counter.Alongside`: how an allocation and everybody else go on;
* `Counter.Sheltered`: the invariant of its run;
* **`Counter.Locking.never_loses`**: there is one attempt, and it is not lost.
-/

namespace CounterTable

/-! ## Counters that lock -/

/-- The statements of a counter, as far as the database understands them, lock the table when they
read the column, and then look for a value of it; `assigned` is the column that they set. -/
structure Counter.Locking (name column assigned : String) (c : Counter) : Prop where
  reads : ∀ s, Statement.ofText c.selectText = .ok s → ∃ shown,
    s = .select name [.column column shown] none true
  writes : ∀ s, Statement.ofText c.updateText = .ok s →
    s = .update name [(assigned, .param 1)] (some ⟨column, .param 2⟩)

/-- **A counter whose names are plain** locks its table in any dialect that can, however it is
retried and however far it moves the row. -/
theorem Counter.Locking.of_define {d : Dialect} (hd : d.Usual)
    (hl : d.lockHint .write ++ d.forUpdate ≠ "") {name : QualifiedName} (hname : name.Plain)
    {column : Identifier} (hcolumn : column.Plain) {initial increment : Int64} {type : NumberType}
    {c : Counter} (h : Counter.define d name column initial increment type = .ok c)
    (retry : RetryPolicy) (appliesIncrement : Bool) :
    ({ c with retry, appliesIncrement } : Counter).Locking (name.render d) column.text
      column.text := by
  unfold Counter.define at h
  split at h
  · cases h
  · split at h
    · cases h
    · cases h
      refine ⟨fun s hs => ?_, fun s hs => ?_⟩
      · rw [Counter.ofText_select_locking hd hl hname hcolumn d] at hs
        exact ⟨some "id_val", (Except.ok.inj hs).symm⟩
      · rw [Counter.ofText_update hname hcolumn d] at hs
        exact (Except.ok.inj hs).symm

theorem Counter.Locking.onRows {name column assigned : String} {c : Counter}
    (h : c.Locking name column assigned) : c.OnRows := by
  rintro s (hs | hs)
  · obtain ⟨shown, rfl⟩ := h.reads s hs
    trivial
  · rw [h.writes s hs]
    trivial

/-! ## An attempt -/

namespace Counter

variable {c : Counter} {name column assigned : String} {db db' : Database} {id : Nat} {link : Link}
  {x : Transaction} {attempt : Attempt} {w : Delegated Allocation Integral}

/-- What is known of an allocation in a transaction of its own, from where it stands. -/
inductive Proceeds (c : Counter) (name column : String) (id : Nat) (db : Database) :
    Delegated Allocation Integral → Prop
  | waiting : Proceeds c name column id db Delegate.start
  | attempting {link : Link} {x : Transaction} {attempt : Attempt}
      (hl : db.links.get? id = some link) (hx : link.transaction = some x)
      (hp : c.Prepares link.prepared attempt)
      (hv : ∀ current, attempt.current? = some current → db.Pinned name column id current.word) :
      Proceeds c name column id db (.working [] none { attempt })
  | succeeded {v : Integral} : Proceeds c name column id db (.deciding [.ok ()] (some v))
  | failed {e : Error} (he : ∀ table n, e ≠ .retriesExhausted table n) :
      Proceeds c name column id db (.deciding [.error e] none)

/-- An allocation goes on as it was where its connection and the table that it holds are left
alone. -/
theorem Proceeds.mono (h : c.Proceeds name column id db w)
    (hl : db'.links.get? id = db.links.get? id)
    (hg : db.Locked name id → db'.storage.get? name = db.storage.get? name) :
    c.Proceeds name column id db' w := by
  cases h with
  | waiting => exact .waiting
  | attempting hlink hx hp hv =>
    refine .attempting (hl.trans hlink) hx hp fun current hc => ?_
    have hpinned := hv current hc
    exact hpinned.congr (hg hpinned.locked)
  | succeeded => exact .succeeded
  | failed he => exact .failed he

/-- What follows a step of an attempt. -/
def Guarded (c : Counter) (name column : String) (id : Nat) :
    Progress Allocation Integral × Database → Prop
  | (.running a, db) => c.Proceeds name column id db (.working [] none a)
  | (.finished (.ok _), _) => True
  | (.finished (.error e), _) => ∀ table n, e ≠ .retriesExhausted table n

theorem Locking.guarded_read (hc : c.Locking name column assigned) (hr : db.Reachable)
    (hl : db.links.get? id = some link) (hx : link.transaction = some x) {s : Statement}
    (hs : Statement.ofText c.selectText = .ok s)
    (hp : link.prepared = some ⟨c.selectText, s, []⟩) {q : QueryResult}
    (hq : (Database.query id db).1 = .ok q) {current advanced : Integral}
    (hrow : c.readRow q = .ok (current, advanced)) :
    c.Proceeds name column id (db.after (.call id .query))
      (.working [] none { attempt := .preparingWrite current advanced }) := by
  obtain ⟨shown, rfl⟩ := hc.reads s hs
  obtain ⟨value, hvalue, hword⟩ := word_of_readRow hrow
  obtain ⟨-, hpinned⟩ := Database.locked_of_query hr hl hx hp hq
  obtain ⟨v, rfl, hpinned⟩ := hpinned value hvalue
  obtain ⟨link', y, hlink, hy⟩ := Database.links_after_query hl hx hp
  refine .attempting hlink hy trivial fun current' hcurrent => ?_
  cases hcurrent
  exact hword v rfl ▸ hpinned

theorem Locking.update_ne_zero (hc : c.Locking name column assigned) (hr : db.Reachable)
    (hl : db.links.get? id = some link) {current : Integral}
    (hp : c.Prepares link.prepared (.writing current))
    (hv : db.Pinned name column id current.word) : (Database.update id db).1 ≠ .ok 0 := by
  obtain ⟨s, b, hs, hprep, hb₂, w, hb₁⟩ := hp
  obtain rfl := hc.writes s hs
  obtain ⟨table, k, -, -, hanswer⟩ := hv.update hr hl hprep hb₁ hb₂
  rw [hanswer]
  cases table.columnIndex assigned with
  | error e => exact nofun
  | ok i => exact nofun

/-- **Every step of an attempt** keeps what it has read pinned, and the update is not lost. -/
theorem Locking.guarded (hc : c.Locking name column assigned) (hr : db.Reachable)
    (hl : db.links.get? id = some link) (hx : link.transaction = some x)
    (hp : c.Prepares link.prepared attempt)
    (hv : ∀ current, attempt.current? = some current → db.Pinned name column id current.word) :
    c.Guarded name column id (c.allocation (Database.connection id) { attempt } db) := by
  have hcases := allocation_cases (a := { attempt }) hl hp
  rcases hstep : c.allocation (Database.connection id) { attempt } db with ⟨p, db'⟩
  rw [hstep] at hcases
  cases hcases with
  | failed he => exact he
  | prepared hprep hcurrent =>
    exact .attempting (Database.links_set db id _) hx hprep fun current hc =>
      (hv current (hcurrent.symm.trans hc)).congr rfl
  | read hs hprep hq hrow => exact hc.guarded_read hr hl hx hs hprep hq hrow
  | lost ha hu _ =>
    obtain rfl : attempt = _ := ha
    exact absurd hu (hc.update_ne_zero hr hl hp (hv _ rfl))
  | gaveUp ha hu _ =>
    obtain rfl : attempt = _ := ha
    exact absurd hu (hc.update_ne_zero hr hl hp (hv _ rfl))
  | won => trivial

/-! ## An allocation in its transaction -/

variable {logger : Logger}

/-- How an allocation on the connection `id` and everybody else go on: the allocation takes a step
that does not end it, or another connection does whatever does not create or drop the table, and
others use the session. -/
inductive Alongside (c : Counter) (logger : Logger) (name : String) (id : Nat) :
    Delegated Allocation Integral × Accessed Database →
      Delegated Allocation Integral × Accessed Database → Prop
  | step {w w' : Delegated Allocation Integral} {s s' : Accessed Database}
      (h : c.isolated (Database.connection id) logger w s = (.running w', s')) :
      Alongside c logger name id (w, s) (w', s')
  | other {w : Delegated Allocation Integral} {db : Database} {j j' : Journal} {n n' : UInt64}
      (e : Event) (he : db.actor e ≠ id) (hn : ¬ db.Reshapes name e) :
      Alongside c logger name id (w, ((db, j), n)) (w, ((db.after e, j'), n'))

/-- The invariant of an allocation among others: nobody can take back that the table was created or
dropped. -/
structure Sheltered (c : Counter) (name column : String) (id : Nat)
    (w : Delegated Allocation Integral) (db : Database) : Prop where
  reachable : db.Reachable
  spares : ∀ k, Transaction.Spares name (db.transaction? k)
  proceeds : c.Proceeds name column id db w

/-- What follows a step of an allocation: it stays sheltered, and once it has begun it keeps the
lock that it holds; or it ends, but not because an attempt was lost. -/
def Advanced (c : Counter) (name column : String) (id : Nat) (w : Delegated Allocation Integral)
    (db : Database) : Progress (Delegated Allocation Integral) Integral × Database → Prop
  | (.running w', db') => c.Sheltered name column id w' db' ∧ w' ≠ Delegate.start ∧
    (w ≠ Delegate.start → db.Locked name id → db'.Locked name id)
  | (.finished r, _) => ∀ table n, r ≠ .error (.retriesExhausted table n)

theorem Sheltered.begin (h : c.Sheltered name column id Delegate.start db) :
    c.Advanced name column id Delegate.start db
      (c.transacted (Database.connection id) Delegate.start db) := by
  rcases c.transacted_start id db with ⟨e, db', hstep, he⟩ | ⟨link, hl, hx, hstep⟩
  · rw [hstep]
    exact fun table n hresult => he table n (Except.error.inj hresult)
  · have hafter : db.after (.call id .begin) = _ := congrArg Prod.snd (Database.begin_of_none hl hx)
    have hspares := Database.spares_after h.reachable (e := .call id .begin) (fun hn => hn) h.spares
    rw [hstep]
    refine ⟨⟨h.reachable.after _, hspares, ?_⟩, nofun, fun hw => absurd rfl hw⟩
    rw [hafter]
    exact .attempting (Database.links_set db id _) rfl trivial fun current hc => nomatch hc

/-- **Every step of an allocation** among others. -/
theorem Sheltered.step (h : c.Sheltered name column id w db)
    (hc : c.Locking name column assigned) :
    c.Advanced name column id w db (c.transacted (Database.connection id) w db) := by
  cases h.proceeds with
  | waiting => exact h.begin
  | @attempting link x attempt hl hx hp hv =>
    have hstep := hc.guarded h.reachable hl hx hp hv
    have hafter := c.allocation_after id { attempt } db
    have hn := hp.not_reshapes hc.onRows hl
    have hreach := h.reachable.after (.call id (attempt.call c))
    have hspares := Database.spares_after h.reachable (hn name) h.spares
    have hkeeps : db.Locked name id → (db.after (.call id (attempt.call c))).Locked name id :=
      fun hlocked => hlocked.keeps h.reachable rfl (not_ending_call c id attempt) hn
    rw [transacted_working]
    rcases hs : c.allocation (Database.connection id) { attempt } db with ⟨p, db'⟩
    rw [hs] at hstep hafter
    cases hafter
    rcases p with a | e | v
    · exact ⟨⟨hreach, hspares, hstep⟩, nofun, fun _ => hkeeps⟩
    · exact ⟨⟨hreach, hspares, .failed hstep⟩, nofun, fun _ => hkeeps⟩
    · exact ⟨⟨hreach, hspares, .succeeded⟩, nofun, fun _ => hkeeps⟩
  | @succeeded v =>
    obtain ⟨r, db', hstep, hr⟩ := c.transacted_succeeded id v db
    rw [hstep]
    exact hr
  | @failed e he =>
    rw [transacted_failed]
    exact fun table n hresult => he table n (Except.error.inj hresult)

theorem Sheltered.isolated {s : Accessed Database} (h : c.Sheltered name column id w s.1.1)
    (hc : c.Locking name column assigned) (logger : Logger) :
    let step := c.isolated (Database.connection id) logger w s
    c.Advanced name column id w s.1.1 (step.1, step.2.1.1) := by
  intro step
  obtain ⟨h₁, h₂⟩ := c.isolated_projects (Database.connection id) logger w s
  have heq : (step.1, step.2.1.1) = c.transacted (Database.connection id) w s.1.1 := Prod.ext h₁ h₂
  rw [heq]
  exact h.step hc

theorem Sheltered.other (h : c.Sheltered name column id w db) {e : Event}
    (he : db.actor e ≠ id) (hn : ¬ db.Reshapes name e) :
    c.Sheltered name column id w (db.after e) ∧
      (db.Locked name id → (db.after e).Locked name id) := by
  have hshields : db.Locked name id →
      (db.after e).storage.get? name = db.storage.get? name :=
    fun hlocked => hlocked.shields h.reachable he (h.spares _)
  refine ⟨⟨h.reachable.after e, Database.spares_after h.reachable hn h.spares, ?_⟩, ?_⟩
  · exact h.proceeds.mono (Database.links_after e he.symm) hshields
  · intro hlocked
    rw [Database.Locked, hshields hlocked]
    exact hlocked

variable {y z : Delegated Allocation Integral × Accessed Database}

/-- **Every step of a run.** -/
theorem Sheltered.alongside (h : c.Sheltered name column id y.1 y.2.1.1)
    (hc : c.Locking name column assigned) (hs : c.Alongside logger name id y z) :
    c.Sheltered name column id z.1 z.2.1.1 ∧
      (y.1 ≠ Delegate.start ∧ y.2.1.1.Locked name id →
        z.1 ≠ Delegate.start ∧ z.2.1.1.Locked name id) := by
  cases hs with
  | @step w w' s s' hrun =>
    have hstep := h.isolated hc logger
    rw [hrun] at hstep
    obtain ⟨hsheltered, hne, hkeeps⟩ := hstep
    exact ⟨hsheltered, fun hlocked => ⟨hne, hkeeps hlocked.1 hlocked.2⟩⟩
  | other e he hn =>
    obtain ⟨hsheltered, hkeeps⟩ := h.other he hn
    exact ⟨hsheltered, fun hlocked => ⟨hlocked.1, hkeeps hlocked.2⟩⟩

theorem Sheltered.run (h : c.Sheltered name column id y.1 y.2.1.1)
    (hc : c.Locking name column assigned)
    (hrun : Relation.ReflTransGen (c.Alongside logger name id) y z) :
    c.Sheltered name column id z.1 z.2.1.1 ∧
      (y.1 ≠ Delegate.start ∧ y.2.1.1.Locked name id →
        z.1 ≠ Delegate.start ∧ z.2.1.1.Locked name id) := by
  induction hrun with
  | refl => exact ⟨h, fun hlocked => hlocked⟩
  | tail _ hs ih =>
    obtain ⟨hsheltered, hkeeps⟩ := ih.1.alongside hc hs
    exact ⟨hsheltered, fun hlocked => hkeeps (ih.2 hlocked)⟩

/-- **A counter that locks its table never loses.** Whatever other connections do meanwhile, an
allocation in a transaction of its own makes one attempt and does not give up because it was lost:
if it gets to its update, this changes at least one row, unless it sets a column that there is not.
Once it has read the table nobody else changes it until the transaction ends. -/
theorem Locking.never_loses (hc : c.Locking name column assigned) (hdb : db.Reachable)
    (hs : ∀ k, Transaction.Spares name (db.transaction? k)) {j : Journal} {n : UInt64}
    (hrun : Relation.ReflTransGen (c.Alongside logger name id)
      (Delegate.start, ((db, j), n)) y) :
    (∀ outcomes value a, y.1 = .working outcomes value a → a.number = 1) ∧
    (∀ r s, c.isolated (Database.connection id) logger y.1 y.2 = (.finished r, s) →
      ∀ table n, r ≠ .error (.retriesExhausted table n)) ∧
    (∀ outcomes value n current, y.1 = .working outcomes value ⟨n, .writing current⟩ →
      ∃ table k, y.2.1.1.storage.get? name = some table ∧ (∃ i, table.columnIndex column = .ok i) ∧
        (Database.update id y.2.1.1).1 = (table.columnIndex assigned).map fun _ => k + 1) ∧
    (∀ outcomes value n q, y.1 = .working outcomes value ⟨n, .reading⟩ →
      (Database.query id y.2.1.1).1 = .ok q →
      ∀ w s z, c.isolated (Database.connection id) logger y.1 y.2 = (.running w, s) →
        Relation.ReflTransGen (c.Alongside logger name id) (w, s) z →
        ∀ e, z.2.1.1.actor e ≠ id →
          (z.2.1.1.after e).storage.get? name = z.2.1.1.storage.get? name) := by
  have hstart : c.Sheltered name column id Delegate.start db := ⟨hdb, hs, .waiting⟩
  have hy : c.Sheltered name column id y.1 y.2.1.1 := (hstart.run hc hrun).1
  obtain ⟨w, s⟩ := y
  refine ⟨?_, ?_, ?_, ?_⟩
  · rintro outcomes value a rfl
    cases hy.proceeds
    rfl
  · intro r s' hr
    have hstep := hy.isolated hc logger
    rw [hr] at hstep
    exact hstep
  · rintro outcomes value n current rfl
    cases hy.proceeds with
    | attempting hl hx hp hv =>
      obtain ⟨s, b, hs, hprep, hb₂, w, hb₁⟩ := hp
      obtain rfl := hc.writes s hs
      exact (hv current rfl).update hy.reachable hl hprep hb₁ hb₂
  · rintro outcomes value n q rfl hq w' s' z hstep hrest e he
    have hafter := c.isolated_working logger id outcomes value ⟨n, .reading⟩ s
    have hadvanced := hy.isolated hc logger
    rw [hstep] at hafter hadvanced
    obtain ⟨hsheltered, hbegun, -⟩ := hadvanced
    -- The read locks the table, and every later step of the run keeps the lock.
    have hlocked : s'.1.1.Locked name id := by
      rw [hafter]
      cases hy.proceeds with
      | attempting hl hx hp hv =>
        obtain ⟨s, hs, hprep⟩ := hp
        obtain ⟨shown, rfl⟩ := hc.reads s hs
        exact (Database.locked_of_query hy.reachable hl hx hprep hq).1
    obtain ⟨hz, hkeeps⟩ := hsheltered.run hc hrest
    exact (hkeeps ⟨hbegun, hlocked⟩).2.shields hz.reachable he (hz.spares _)

/-- A connection to the database with one row, which shares it with another one. -/
def attending : Database := (Callers.valued.after .connect).after .connect

/-- How far an allocation can get on this connection, whatever is observed. -/
def Attains (c : Counter) (w : Delegated Allocation Integral) (db : Database) : Prop :=
  ∃ j n, Relation.ReflTransGen (c.Alongside {} "t" 2) (Delegate.start, ((attending, {}), 0))
    (w, ((db, j), n))

theorem Attains.step {w' : Delegated Allocation Integral} {db' : Database} (h : c.Attains w db)
    (hs : c.transacted (Database.connection 2) w db = (.running w', db')) : c.Attains w' db' := by
  obtain ⟨j, n, hrun⟩ := h
  obtain ⟨j', n', hi⟩ := exists_isolated hs {} j n
  exact ⟨j', n', hrun.tail (.step hi)⟩

/-- The counter of the row, with this name for its column. -/
def attended (column : Identifier) : Counter where
  name := ⟨none, none, ⟨"t", false⟩⟩
  table := "t"
  column := column.render .generic
  initial := 1
  increment := 1
  numberType := .long
  selectText := selectStatement .generic "t" (column.render .generic)
  updateText := updateStatement "t" (column.render .generic)

theorem define_attended (column : Identifier) :
    Counter.define .generic ⟨none, none, ⟨"t", false⟩⟩ column 1 1 .long = .ok (attended column) :=
  (if_neg (by decide)).trans (if_neg (by decide))

/-- The connection has begun its transaction and has prepared a statement. -/
def reading (p : Option Prepared) : Database where
  storage := ⟨[("t", ⟨["v"], [[5]], none, none⟩)]⟩
  links := [(2, ⟨some {}, p⟩), (3, {})]
  opened := 3

/-- It has read the table, and has prepared a statement. -/
def holding (p : Option Prepared) : Database where
  storage := ⟨[("t", ⟨["v"], [[5]], some 2, some [[5]]⟩)]⟩
  links := [(2, ⟨some ⟨["t"], []⟩, p⟩), (3, {})]
  opened := 3

theorem attains_writing {column : Identifier} {shown : Option String} {s : Statement}
    (hs : Statement.ofText (attended column).selectText =
      .ok (.select "t" [.column "v" shown] none true))
    (hu : Statement.ofText (attended column).updateText = .ok s) :
    (attended column).Attains (.working [] none { attempt := .writing ⟨.long, 5, by decide⟩ })
      (holding (some ⟨(attended column).updateText, s, [(2, .integer 5), (1, .integer 6)]⟩)) := by
  let c := attended column
  let p : Prepared := ⟨c.selectText, .select "t" [.column "v" shown] none true, []⟩
  let five : Integral := ⟨.long, 5, by decide⟩
  let six : Integral := ⟨.long, 6, by decide⟩
  have hbegun : c.Attains (.working [] none {}) (reading none) := .step ⟨{}, 0, .refl⟩ rfl
  have hl : (reading none).links.get? 2 = some ⟨some {}, none⟩ := rfl
  have hreading : c.Attains (.working [] none { attempt := .reading }) (reading (some p)) :=
    hbegun.step (transacted_preparingRead hl hs 1)
  have hread : c.Attains (.working [] none { attempt := .preparingWrite five six })
      (holding (some p)) := hreading.step rfl
  have hl' : (holding (some p)).links.get? 2 = some ⟨some ⟨["t"], []⟩, some p⟩ := rfl
  have hbinding : c.Attains (.working [] none { attempt := .bindingAdvanced five six })
      (holding (some ⟨c.updateText, s, []⟩)) :=
    hread.step (transacted_preparingWrite hl' hu 1 five six)
  have hbound : c.Attains (.working [] none { attempt := .bindingCurrent five })
      (holding (some ⟨c.updateText, s, [(1, .integer 6)]⟩)) := hbinding.step rfl
  exact hbound.step rfl

/-- With plain names the update changes the row. -/
theorem never_loses_plain : ∃ db,
    (attended ⟨"v", false⟩).Attains
      (.working [] none { attempt := .writing ⟨.long, 5, by decide⟩ }) db ∧
    ∃ k, (Database.update 2 db).1 = .ok (k + 1) := by
  have husual : Dialect.generic.Usual := Dialect.usual_of_mem List.mem_cons_self
  have hlocks : Dialect.generic.lockHint .write ++ Dialect.generic.forUpdate ≠ "" := by decide
  have hlocking : (attended ⟨"v", false⟩).Locking "t" "v" "v" :=
    .of_define husual hlocks Callers.plain_table Callers.plain_column (define_attended _) .unbounded
      false
  have hs := ofText_select_locking husual hlocks Callers.plain_table Callers.plain_column .generic
  have hu := ofText_update Callers.plain_table Callers.plain_column .generic
  have hvalued : Callers.valued.Reachable :=
    (Database.ready_reachable.after (.call 1 .update)).after (.disconnect 1)
  have hnone : ∀ k, Transaction.Spares "t" (Callers.valued.transaction? k) :=
    fun k y hy => nomatch hy
  have hconnected := Database.spares_after hvalued (e := .connect) (fun hn => hn) hnone
  have hspares := Database.spares_after (hvalued.after .connect) (e := .connect) (fun hn => hn)
    hconnected
  obtain ⟨j, n, hrun⟩ := attains_writing hs hu
  obtain ⟨-, -, hwrites, -⟩ := hlocking.never_loses ((hvalued.after .connect).after .connect)
    hspares hrun
  obtain ⟨table, k, -, ⟨i, hi⟩, hanswer⟩ := hwrites _ _ _ _ rfl
  exact ⟨_, ⟨j, n, hrun⟩, k, by rw [hanswer, hi]; rfl⟩

/-- A quoted name is understood where the column is read, but not where it is set: the update
fails. -/
theorem quoted_update_fails :
    Counter.define .generic ⟨none, none, ⟨"t", false⟩⟩ ⟨"v", true⟩ 1 1 .long =
      .ok (attended ⟨"v", true⟩) ∧
    (attended ⟨"v", true⟩).Locking "t" "v" "\"v\"" ∧
    ∃ db, (attended ⟨"v", true⟩).Attains
        (.working [] none { attempt := .writing ⟨.long, 5, by decide⟩ }) db ∧
      (Database.update 2 db).1 = .error (.unsupported "unknown column \"v\"") := by
  have hs : Statement.ofText (attended ⟨"v", true⟩).selectText =
      .ok (.select "t" [.column "v" (some "id_val")] none true) := by decide +kernel
  have hu : Statement.ofText (attended ⟨"v", true⟩).updateText =
      .ok (.update "t" [("\"v\"", .param 1)] (some ⟨"v", .param 2⟩)) := by decide +kernel
  refine ⟨define_attended _, ⟨fun s h => ⟨some "id_val", ?_⟩, fun s h => ?_⟩, _,
    attains_writing hs hu, ?_⟩
  · exact (Except.ok.inj (hs.symm.trans h)).symm
  · exact (Except.ok.inj (hu.symm.trans h)).symm
  · decide +kernel

end Counter

end CounterTable
