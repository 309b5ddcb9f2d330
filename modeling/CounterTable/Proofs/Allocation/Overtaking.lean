import CounterTable.Proofs.Allocation.Attempts
import CounterTable.Proofs.Store.Pinning
import CounterTable.Proofs.Store.Publishing

/-!
# Allocations that are overtaken

Where the read of an allocation takes no lock, others can change the table before its update. The
read answers what is committed, also while another connection holds the table, and the update waits
for the lock. So an attempt is lost only if the value that it has read was replaced in between, and
the change was committed.

* `Database.Shown`: a committed value of a table;
* `Counter.Unlocked`: the statements of a counter read a column without locking the table;
* `Counter.Accompanied`: a run of an allocation, with all that other connections do meanwhile;
* `Counter.Exposed`: the invariant of such a run;
* **`Counter.Unlocked.overtaken`**: for each attempt that is lost another connection has committed a
  change of the table;
* `Counter.overtaken_by_nobody`: but not if the read is of a column that the update does not compare.
-/

namespace CounterTable

/-! ## Committed values -/

theorem Turn.idle_of_update {t : Turn} {id : Nat} {b : Bindings} {name : String}
    {assignments : List (String × Operand)} {filter : Option Filter} {r : Reply}
    (hs : ∀ table, t.storage.get? name = some table → table.Sound)
    (hr : (update id b name assignments filter t).1 = .ok r) (hn : ∀ k, r ≠ .count (k + 1)) :
    (update id b name assignments filter t).2 = t ∧
      ∃ table, t.storage.get? name = some table ∧ table.Free id := by
  cases hg : t.storage.get? name with
  | none =>
    rw [update_of_none hg] at hr
    cases hr
  | some table =>
    by_cases hf : table.Free id
    · refine ⟨?_, table, rfl, hf⟩
      rw [update_of_free hg (hs table hg) hf] at hr ⊢
      cases hc : table.changes b assignments with
      | error e => rfl
      | ok changes =>
        cases hd : table.condition b filter with
        | error e => rfl
        | ok condition =>
          simp only [hc, hd] at hr ⊢
          by_cases hany : table.rows.any (Row.meets · condition) = true
          · have hpos : 0 < table.rows.countP (Row.meets · condition) := by
              simpa [List.countP_pos_iff] using hany
            obtain ⟨k, hk⟩ := Nat.exists_eq_succ_of_ne_zero (Nat.pos_iff_ne_zero.mp hpos)
            rw [if_pos hany, hk] at hr
            exact absurd (Except.ok.inj hr).symm (hn k)
          · rw [if_neg hany]
    · obtain ⟨holder, hl, hne⟩ := Table.exists_holder hf
      rw [update_of_other hg hl hne] at hr
      cases hr

namespace Database

variable {db db' : Database} {id : Nat} {link : Link} {name column : String} {v : Int64}

/-- Some committed row of the table holds the value in the column. -/
def Shown (db : Database) (name column : String) (v : Int64) : Prop :=
  ∃ base, (db.storage.get? name).map Table.base = some base ∧ base.Shows column v

theorem Shown.congr (h : db.Shown name column v)
    (hb : (db'.storage.get? name).map Table.base = (db.storage.get? name).map Table.base) :
    db'.Shown name column v := by
  rw [Shown, hb]
  exact h

theorem lockedBy?_ne_of_idle (hr : Reachable db) (hl : db.links.get? id = some link)
    (hx : link.transaction = some {}) {table : Table} (hg : db.storage.get? name = some table) :
    table.lockedBy? ≠ some id := by
  intro hid
  obtain ⟨x, hx', hin⟩ := (hr.accounted.tables name table hg).2 id hid
  cases hx'.symm.trans ((transaction?_of_link hl).trans hx)
  cases hin

theorem shown_of_query (hr : Reachable db) (hl : db.links.get? id = some link)
    (hx : link.transaction = some {}) {sql : String} {shown : Option String} {b : Bindings}
    (hp : link.prepared = some ⟨sql, .select name [.column column shown] none false, b⟩)
    {q : QueryResult} (hq : (query id db).1 = .ok q) {value : Value}
    (hv : q.firstValue? = some value) : ∃ v, value = .integer v ∧ db.Shown name column v := by
  rw [query_select_plain (prepared?_eq_ok.mpr ⟨hl, hp⟩) rfl] at hq
  cases hg : db.storage.get? name with
  | none =>
    rw [hg] at hq
    cases hq
  | some table =>
    simp only [hg] at hq
    rw [Table.select_eq_base (hr.sound hg) (lockedBy?_ne_of_idle hr hl hx hg)] at hq
    obtain ⟨v, rfl, hshows⟩ := Table.shows_of_select (t := table.base) rfl (.inl rfl)
      (hr.rectangular.tables name table hg).committed hq hv
    exact ⟨v, rfl, _, by rw [hg]; rfl, hshows⟩

/-- **An update that changes no row** leaves the transaction as it is, and no committed row holds
the value that it looks for. -/
theorem of_update_eq_zero (hr : Reachable db) (hl : db.links.get? id = some link)
    (hx : link.transaction = some {}) {sql assigned : String} {b : Bindings}
    (hp : link.prepared = some
      ⟨sql, .update name [(assigned, .param 1)] (some ⟨column, .param 2⟩), b⟩) {w : Int64}
    (hb₁ : b.get? 1 = some (.integer w)) (hb₂ : b.get? 2 = some (.integer v))
    (h : (update id db).1 = .ok 0) :
    (∃ link', (db.after (.call id .update)).links.get? id = some link' ∧
      link'.transaction = some {}) ∧ ¬ db.Shown name column v := by
  have hprep := prepared?_eq_ok.mpr ⟨hl, hp⟩
  have hw : b.resolve (.param 1) = .ok w := by simp [Bindings.resolve, hb₁, Value.word?]
  have hv : b.resolve (.param 2) = .ok v := by simp [Bindings.resolve, hb₂, Value.word?]
  have hafter : db.after (.call id .update) = db.settle id link (db.executed id link _).2 :=
    update_after hprep
  have hanswer := (update_answer hprep rfl).symm.trans h
  cases hreply : (db.executed id link _).1 with
  | error e =>
    rw [hreply] at hanswer
    cases hanswer
  | ok r =>
    have hcount : ∀ k, r ≠ .count (k + 1) := by
      rintro k rfl
      rw [hreply] at hanswer
      cases hanswer
    obtain ⟨hsame, table, hg, hf⟩ := Turn.idle_of_update (fun _ hg => hr.sound hg) hreply hcount
    have hlink : db.after (.call id .update) = db.settle id link ⟨db.storage, link.transaction⟩ :=
      hafter.trans (congrArg (db.settle id link) hsame)
    refine ⟨⟨_, by rw [hlink]; exact (links_settle ..).trans (if_pos rfl), hx⟩, ?_⟩
    rintro ⟨base, hbase, hshows⟩
    have hg : db.storage.get? name = some table := hg
    rw [hg, Option.map_some,
      (hr.sound hg).base_of_free (hf.resolve_right (lockedBy?_ne_of_idle hr hl hx hg))] at hbase
    cases hbase
    obtain ⟨k, hk⟩ := Turn.update_of_shows (t := ⟨db.storage, link.transaction⟩) hg (hr.sound hg)
      hf hshows hw hv assigned
    have hmapped := hk.symm.trans hreply
    cases hj : table.columnIndex assigned with
    | error e =>
      rw [hj] at hmapped
      cases hmapped
    | ok j =>
      rw [hj] at hmapped
      exact hcount k (Except.ok.inj hmapped).symm

end Database

namespace RetryPolicy

variable {policy : RetryPolicy} {table : String} {n : Nat}

theorem le_of_afterLoss {next : Nat} (h : policy.afterLoss table n = .ok next) : next ≤ n + 1 := by
  unfold afterLoss at h
  split at h
  · cases h
    exact Nat.min_le_left ..
  · split at h
    · cases h
    · cases h
      exact Nat.min_le_left ..

theorem le_of_afterLoss_bounded {bound : UInt32} {e : Error}
    (h : (bounded bound).afterLoss table n = .error e) : bound.toNat ≤ n := by
  simp only [afterLoss] at h
  split at h
  · next hle => exact hle
  · cases h

end RetryPolicy

/-! ## Counters that do not lock -/

/-- The statements of a counter, as far as the database understands them, read the column without
locking the table, and then look for a value of the same column. -/
structure Counter.Unlocked (name column : String) (c : Counter) : Prop where
  reads : ∀ s, Statement.ofText c.selectText = .ok s → ∃ shown,
    s = .select name [.column column shown] none false
  writes : ∀ s, Statement.ofText c.updateText = .ok s → ∃ assigned,
    s = .update name [(assigned, .param 1)] (some ⟨column, .param 2⟩)

namespace Counter

variable {c : Counter} {name column : String} {db db' : Database} {id : Nat} {link : Link}
  {attempt : Attempt} {w : Delegated Allocation Integral} {before published : Nat} {logger : Logger}

theorem Unlocked.onRows (h : c.Unlocked name column) : c.OnRows := by
  rintro s (hs | hs)
  · obtain ⟨shown, rfl⟩ := h.reads s hs
    trivial
  · obtain ⟨assigned, rfl⟩ := h.writes s hs
    trivial

/-- **A counter whose names are plain** does not lock its table in a dialect that cannot, however it
is retried and however far it moves the row. -/
theorem Unlocked.of_define {d : Dialect} (hl : d.lockHint .write ++ d.forUpdate = "")
    {name : QualifiedName} (hname : name.Plain) {column : Identifier} (hcolumn : column.Plain)
    {initial increment : Int64} {type : NumberType} {c : Counter}
    (h : Counter.define d name column initial increment type = .ok c) (retry : RetryPolicy)
    (appliesIncrement : Bool) :
    ({ c with retry, appliesIncrement } : Counter).Unlocked (name.render d) column.text := by
  unfold Counter.define at h
  split at h
  · cases h
  · split at h
    · cases h
    · cases h
      refine ⟨fun s hs => ?_, fun s hs => ?_⟩
      · have hends : Sql.Lexer.Ends (d.lockHint .write ++ d.forUpdate).toList := hl ▸ trivial
        rw [ofText_select_of_reads .none hends (hl ▸ .nil) (hname.legible d)
          (hcolumn.legible d)] at hs
        exact ⟨some "id_val", (Except.ok.inj hs).symm⟩
      · rw [Counter.ofText_update hname hcolumn d] at hs
        exact ⟨column.text, (Except.ok.inj hs).symm⟩

/-! ## Runs among others -/

/-- A run of an allocation on the connection `id`, with what the other connections do meanwhile, the
latest last. They neither create nor drop the table, and others use the session as well. -/
inductive Accompanied (c : Counter) (logger : Logger) (name : String) (id : Nat)
    (y : Delegated Allocation Integral × Accessed Database) :
    List (Database × Event) → Delegated Allocation Integral × Accessed Database → Prop
  | start : Accompanied c logger name id y [] y
  | step {log : List (Database × Event)} {w w' : Delegated Allocation Integral}
      {s s' : Accessed Database} (hrun : Accompanied c logger name id y log (w, s))
      (h : c.isolated (Database.connection id) logger w s = (.running w', s')) :
      Accompanied c logger name id y log (w', s')
  | other {log : List (Database × Event)} {w : Delegated Allocation Integral} {db : Database}
      {j j' : Journal} {n n' : UInt64} (hrun : Accompanied c logger name id y log (w, ((db, j), n)))
      (e : Event) (he : db.actor e ≠ id) (hn : ¬ db.Reshapes name e) :
      Accompanied c logger name id y (log ++ [(db, e)]) (w, ((db.after e, j'), n'))

/-- How often others have committed a change of the table. -/
def publications (name : String) (log : List (Database × Event)) : Nat :=
  log.countP fun q => q.1.publishes name q.2

/-- What is known of an allocation in a transaction of its own, from where it stands, when others
have `published` the table so often. Its transaction has claimed nothing. Each attempt that it has
lost, after the first `before` ones, was lost to another publication, and the value that it has read
is still committed, or there was one publication more. -/
inductive Trails (c : Counter) (name column : String) (id before published : Nat) (db : Database) :
    Delegated Allocation Integral → Prop
  | waiting : Trails c name column id before published db Delegate.start
  | attempting {link : Link} {a : Allocation} {lost : Nat} (hl : db.links.get? id = some link)
      (hx : link.transaction = some {}) (hp : c.Prepares link.prepared a.attempt)
      (hn : a.number ≤ before + lost + 1) (hle : lost ≤ published)
      (hv : ∀ current, a.attempt.current? = some current →
        lost < published ∨ db.Shown name column current.word) :
      Trails c name column id before published db (.working [] none a)
  | succeeded {v : Integral} :
      Trails c name column id before published db (.deciding [.ok ()] (some v))
  | failed {e : Error} (he : ∀ m, c.retry = .bounded m → ∀ table n, e = .retriesExhausted table n →
        m.toNat ≤ before + published) :
      Trails c name column id before published db (.deciding [.error e] none)

/-- An allocation goes on as it was where its connection is left alone. One more publication makes
up for what it does to the committed rows. -/
theorem Trails.mono {published' : Nat} (h : c.Trails name column id before published db w)
    (hl : db'.links.get? id = db.links.get? id) (hle : published ≤ published')
    (hv : ∀ v, db.Shown name column v → published < published' ∨ db'.Shown name column v) :
    c.Trails name column id before published' db' w := by
  cases h with
  | waiting => exact .waiting
  | attempting hlink hx hp hn hlost hshown =>
    refine .attempting (hl.trans hlink) hx hp hn (Nat.le_trans hlost hle) fun current hc => ?_
    rcases hshown current hc with hlt | hshown
    · exact .inl (by omega)
    · exact (hv _ hshown).imp_left (by omega)
  | succeeded => exact .succeeded
  | failed he =>
    exact .failed fun m hm table n hretries => Nat.le_trans (he m hm table n hretries) (by omega)

/-! ## Steps of an allocation -/

/-- What follows a step of an attempt. -/
def Trailing (c : Counter) (name column : String) (id before published : Nat) :
    Progress Allocation Integral × Database → Prop
  | (.running a, db) => c.Trails name column id before published db (.working [] none a)
  | (.finished (.ok _), _) => True
  | (.finished (.error e), _) => ∀ m, c.retry = .bounded m → ∀ table n,
      e = .retriesExhausted table n → m.toNat ≤ before + published

theorem Unlocked.trails_read (hc : c.Unlocked name column) (hr : db.Reachable)
    (hl : db.links.get? id = some link) (hx : link.transaction = some {}) {s : Statement}
    (hs : Statement.ofText c.selectText = .ok s)
    (hp : link.prepared = some ⟨c.selectText, s, []⟩) {q : QueryResult}
    (hq : (Database.query id db).1 = .ok q) {current advanced : Integral}
    (hrow : c.readRow q = .ok (current, advanced)) {number lost : Nat}
    (hn : number ≤ before + lost + 1) (hle : lost ≤ published) :
    c.Trails name column id before published (db.after (.call id .query))
      (.working [] none ⟨number, .preparingWrite current advanced⟩) := by
  obtain ⟨shown, rfl⟩ := hc.reads s hs
  obtain ⟨value, hvalue, hword⟩ := word_of_readRow hrow
  obtain ⟨v, rfl, hshown⟩ := Database.shown_of_query hr hl hx hp hq hvalue
  have hafter : db.after (.call id .query) = db.settle id link ⟨db.storage, link.transaction⟩ :=
    (Database.query_after (Database.prepared?_eq_ok.mpr ⟨hl, hp⟩)).trans
      (congrArg (db.settle id link) (Turn.execute_of_isPlain rfl))
  rw [hafter]
  refine .attempting ((Database.links_settle ..).trans (if_pos rfl)) hx trivial hn hle
    fun current' hcurrent => .inr ?_
  cases hcurrent
  rw [← hword v rfl]
  exact hshown.congr (by rw [Database.storage_settle])

/-- An update that is lost leaves the transaction as it is, and comes after a publication that is
not accounted for yet. -/
theorem Unlocked.lost (hc : c.Unlocked name column) (hr : db.Reachable)
    (hl : db.links.get? id = some link) (hx : link.transaction = some {}) {current : Integral}
    (hp : c.Prepares link.prepared (.writing current)) (hu : (Database.update id db).1 = .ok 0)
    {lost : Nat} (hv : lost < published ∨ db.Shown name column current.word) :
    lost < published ∧ ∃ link', (db.after (.call id .update)).links.get? id = some link' ∧
      link'.transaction = some {} := by
  obtain ⟨s, b, hs, hprep, hb₂, w, hb₁⟩ := hp
  obtain ⟨assigned, rfl⟩ := hc.writes s hs
  obtain ⟨hlink, hlost⟩ := Database.of_update_eq_zero hr hl hx hprep hb₁ hb₂ hu
  exact ⟨hv.resolve_right hlost, hlink⟩

/-- **Every step of an attempt** takes and publishes nothing until it succeeds. -/
theorem Unlocked.trailing (hc : c.Unlocked name column) (hr : db.Reachable)
    (hl : db.links.get? id = some link) (hx : link.transaction = some {}) {a : Allocation}
    (hp : c.Prepares link.prepared a.attempt) {lost : Nat} (hn : a.number ≤ before + lost + 1)
    (hle : lost ≤ published) (hv : ∀ current, a.attempt.current? = some current →
      lost < published ∨ db.Shown name column current.word) :
    c.Trailing name column id before published (c.allocation (Database.connection id) a db) := by
  have hcases := allocation_cases hl hp
  rcases hstep : c.allocation (Database.connection id) a db with ⟨p, db'⟩
  rw [hstep] at hcases
  cases hcases with
  | failed he => exact fun _ _ table n hretries => absurd hretries (he table n)
  | prepared hprep hcurrent =>
    exact .attempting (Database.links_set db id _) hx hprep hn hle fun current hc =>
      (hv current (hcurrent.symm.trans hc)).imp_right fun hshown => hshown.congr rfl
  | read hs hprep hq hrow => exact hc.trails_read hr hl hx hs hprep hq hrow hn hle
  | lost ha hu hnext =>
    rw [ha] at hp hv
    obtain ⟨hlt, link', hl', hx'⟩ := hc.lost hr hl hx hp hu (hv _ rfl)
    refine .attempting hl' hx' trivial ?_ (Nat.succ_le_of_lt hlt) fun _ => nofun
    exact Nat.le_trans (RetryPolicy.le_of_afterLoss hnext) (by omega)
  | gaveUp ha hu hgive =>
    rw [ha] at hp hv
    obtain ⟨hlt, -⟩ := hc.lost hr hl hx hp hu (hv _ rfl)
    intro m hm table n _
    rw [hm] at hgive
    have hbound : m.toNat ≤ a.number := RetryPolicy.le_of_afterLoss_bounded hgive
    omega
  | won => trivial

/-! ## Steps of an allocation in its transaction -/

/-- The invariant of an allocation among others: nobody can take back that the table was created or
dropped. -/
structure Exposed (c : Counter) (name column : String) (id before published : Nat)
    (w : Delegated Allocation Integral) (db : Database) : Prop where
  reachable : db.Reachable
  spares : ∀ k, Transaction.Spares name (db.transaction? k)
  trails : c.Trails name column id before published db w

/-- What follows a step of an allocation: it stays exposed, or it ends, and if it gives up others
have published the table as often as it may be lost. -/
def Overtaken (c : Counter) (name column : String) (id before published : Nat) :
    Progress (Delegated Allocation Integral) Integral × Database → Prop
  | (.running w, db) => c.Exposed name column id before published w db
  | (.finished r, _) => ∀ m, c.retry = .bounded m → ∀ table n,
      r = .error (.retriesExhausted table n) → m.toNat ≤ before + published

/-- **Every step of an allocation** among others. -/
theorem Exposed.step (h : c.Exposed name column id before published w db)
    (hc : c.Unlocked name column) : c.Overtaken name column id before published
      (c.transacted (Database.connection id) w db) := by
  cases h.trails with
  | waiting =>
    rcases c.transacted_start id db with ⟨e, db', hstep, he⟩ | ⟨link, hl, hx, hstep⟩
    · rw [hstep]
      exact fun _ _ table n hresult => absurd (Except.error.inj hresult) (he table n)
    · have hafter : db.after (.call id .begin) = _ :=
        congrArg Prod.snd (Database.begin_of_none hl hx)
      have hspares := Database.spares_after h.reachable (e := .call id .begin) (fun hn => hn)
        h.spares
      rw [hstep]
      refine ⟨h.reachable.after _, hspares, ?_⟩
      rw [hafter]
      exact .attempting (Database.links_set db id _) rfl trivial (Nat.le_add_left 1 (before + 0))
        (Nat.zero_le published) fun _ => nofun
  | @attempting link a lost hl hx hp hn hle hv =>
    have hstep := hc.trailing h.reachable hl hx hp hn hle hv
    have hafter := c.allocation_after id a db
    have hreach := h.reachable.after (.call id (a.attempt.call c))
    have hspares := Database.spares_after h.reachable (hp.not_reshapes hc.onRows hl name) h.spares
    rw [transacted_working]
    rcases hs : c.allocation (Database.connection id) a db with ⟨p, db'⟩
    rw [hs] at hstep hafter
    cases hafter
    rcases p with a | e | v
    · exact ⟨hreach, hspares, hstep⟩
    · exact ⟨hreach, hspares, .failed hstep⟩
    · exact ⟨hreach, hspares, .succeeded⟩
  | @succeeded v =>
    obtain ⟨r, db', hstep, hr⟩ := c.transacted_succeeded id v db
    rw [hstep]
    exact fun _ _ table n hresult => absurd hresult (hr table n)
  | @failed e he =>
    rw [transacted_failed]
    exact fun m hm table n hresult => he m hm table n (Except.error.inj hresult)

theorem Exposed.isolated {s : Accessed Database}
    (h : c.Exposed name column id before published w s.1.1) (hc : c.Unlocked name column)
    (logger : Logger) :
    let step := c.isolated (Database.connection id) logger w s
    c.Overtaken name column id before published (step.1, step.2.1.1) := by
  intro step
  obtain ⟨h₁, h₂⟩ := c.isolated_projects (Database.connection id) logger w s
  have heq : (step.1, step.2.1.1) = c.transacted (Database.connection id) w s.1.1 := Prod.ext h₁ h₂
  rw [heq]
  exact h.step hc

/-- **What another connection does** leaves what is committed of the table as it is, or is one
publication more. -/
theorem Exposed.other (h : c.Exposed name column id before published w db) {e : Event}
    (he : db.actor e ≠ id) (hn : ¬ db.Reshapes name e) :
    c.Exposed name column id before (published + if db.publishes name e then 1 else 0) w
      (db.after e) := by
  refine ⟨h.reachable.after e, Database.spares_after h.reachable hn h.spares, ?_⟩
  refine h.trails.mono (Database.links_after e he.symm) (Nat.le_add_right ..) fun v hshown => ?_
  cases hp : db.publishes name e with
  | true => exact .inl (Nat.lt_succ_self published)
  | false => exact .inr (hshown.congr (Database.base_after h.reachable h.spares hn hp))

variable {y z : Delegated Allocation Integral × Accessed Database} {log : List (Database × Event)}

/-- **Every run** counts the publications of others. -/
theorem Exposed.run (h : c.Exposed name column id before published y.1 y.2.1.1)
    (hc : c.Unlocked name column) (hrun : c.Accompanied logger name id y log z) :
    c.Exposed name column id before (published + publications name log) z.1 z.2.1.1 := by
  induction hrun with
  | start => exact h
  | step _ hstep ih =>
    have hnext := ih.isolated hc logger
    rw [hstep] at hnext
    exact hnext
  | @other log w db j j' n n' _ e he hn ih =>
    have hlog : published + publications name (log ++ [(db, e)]) =
        published + publications name log + if db.publishes name e then 1 else 0 := by
      rw [publications, List.countP_append, List.countP_singleton, Nat.add_assoc]
      rfl
    rw [hlog]
    exact ih.other he hn

theorem Exposed.reading {outcomes : List (Except Error Unit)} {value : Option Integral}
    {number : Nat} (h : c.Exposed name column id before published
      (.working outcomes value ⟨number, .reading⟩) db) :
    c.Exposed name column id number 0 (.working outcomes value ⟨number, .reading⟩) db := by
  refine ⟨h.reachable, h.spares, ?_⟩
  cases h.trails with
  | attempting hl hx hp _ _ _ =>
    exact .attempting hl hx hp (Nat.le_add_right number (0 + 1)) (Nat.le_refl 0) fun _ => nofun

/-- **An attempt is lost only to somebody else**, where the read is of the column that the update
compares. Whatever other connections do meanwhile, if an allocation has read the row and an update of
it changes no row later on, another connection has committed a change of the table between the two.
So an allocation that gives up after a number of attempts has had at least as many such changes
committed by others while it ran. -/
theorem Unlocked.overtaken (hc : c.Unlocked name column) (hdb : db.Reachable)
    (hs : ∀ k, Transaction.Spares name (db.transaction? k)) {j : Journal} {n : UInt64}
    (hrun : c.Accompanied logger name id (Delegate.start, ((db, j), n)) log y) :
    (∀ outcomes value number current advanced s,
      y.1 = .working outcomes value ⟨number, .reading⟩ →
      c.isolated (Database.connection id) logger y.1 y.2 =
        (.running (.working outcomes value ⟨number, .preparingWrite current advanced⟩), s) →
      ∀ between z, c.Accompanied logger name id
          (.working outcomes value ⟨number, .preparingWrite current advanced⟩, s) between z →
        ∀ outcomes' value' number' current',
          z.1 = .working outcomes' value' ⟨number', .writing current'⟩ →
          (Database.update id z.2.1.1).1 = .ok 0 → ∃ q ∈ between, q.1.publishes name q.2) ∧
    ∀ m, c.retry = .bounded m → ∀ table k s, c.isolated (Database.connection id) logger y.1 y.2 =
      (.finished (.error (.retriesExhausted table k)), s) → m.toNat ≤ publications name log := by
  have hstart : c.Exposed name column id 0 0 Delegate.start db := ⟨hdb, hs, .waiting⟩
  have hy : c.Exposed name column id 0 (0 + publications name log) y.1 y.2.1.1 := hstart.run hc hrun
  obtain ⟨w, s⟩ := y
  refine ⟨?_, ?_⟩
  · rintro outcomes value number current advanced s' rfl hstep between z hrest
      outcomes' value' number' current' hwriting hu
    have hread := hy.reading.isolated hc logger
    rw [hstep] at hread
    have hz := Exposed.run (y := (_, s')) hread hc hrest
    rw [hwriting] at hz
    cases hz.trails with
    | attempting hl hx hp _ _ hv =>
      obtain ⟨hlt, -⟩ := hc.lost hz.reachable hl hx hp hu (hv _ rfl)
      exact List.countP_pos_iff.mp (by simpa [publications] using Nat.zero_lt_of_lt hlt)
  · intro m hm table k s' hend
    have hgave := hy.isolated hc logger
    rw [hend] at hgave
    simpa using hgave m hm table k rfl

/-- The update of another connection. -/
def overtaking : Prepared := ⟨"update t set v= 7", .update "t" [("v", .literal 7)] none, []⟩

/-- A table of one row, and two connections: one that allocates, and one that is about to set the
row. -/
def approached (v : Int64) (x : Option Transaction) (p : Option Prepared) : Database where
  storage := ⟨[("t", ⟨["v"], [[v]], none, none⟩)]⟩
  links := [(2, ⟨x, p⟩), (3, ⟨none, some overtaking⟩)]
  opened := 3

/-- The connections before the allocation. -/
def approaching : Database where
  storage := ⟨[("t", ⟨["v"], [[5]], none, none⟩)]⟩
  links := [(3, ⟨none, some overtaking⟩), (2, {})]
  opened := 3

theorem approaching_reachable : approaching.Reachable ∧
    ∀ k, Transaction.Spares "t" (approaching.transaction? k) := by
  have hvalued : Callers.valued.Reachable :=
    (Database.ready_reachable.after (.call 1 .update)).after (.disconnect 1)
  have hnone : ∀ k, Transaction.Spares "t" (Callers.valued.transaction? k) :=
    fun k y hy => nomatch hy
  have h := (hvalued.after .connect).after .connect
  have hspares := Database.spares_after (hvalued.after .connect) (e := .connect) (fun hn => hn)
    (Database.spares_after hvalued (e := .connect) (fun hn => hn) hnone)
  have h' := h.after (.call 3 (.prepare "update t set v= 7"))
  have hspares' := Database.spares_after h (e := .call 3 (.prepare "update t set v= 7"))
    (fun hn => hn) hspares
  rw [Database.after_prepare rfl Database.ofText_update] at h' hspares'
  exact ⟨h', hspares'⟩

/-- A counter that does not lock the row, and may lose one attempt. -/
def outrun : Counter := { Callers.rival Dialect.generic.lockless 1 with retry := .bounded 1 }

theorem outrun_unlocked : outrun.Unlocked "t" "v" := by
  have hdefine : Counter.define Dialect.generic.lockless ⟨none, none, ⟨"t", false⟩⟩ ⟨"v", false⟩ 1 1
      .long = .ok { Callers.rival Dialect.generic.lockless 1 with appliesIncrement := false } :=
    (if_neg (by decide)).trans (if_neg (by decide))
  exact .of_define rfl Callers.plain_table Callers.plain_column hdefine (.bounded 1) true

/-- What it has prepared to read the row. -/
def outrunRead : Prepared :=
  ⟨outrun.selectText, .select "t" [.column "v" (some "id_val")] none false, []⟩

/-- What it has prepared to replace the value, and the values bound so far. -/
def outrunWrite (b : Bindings) : Prepared :=
  ⟨outrun.updateText, .update "t" [("v", .param 1)] (some ⟨"v", .param 2⟩), b⟩

theorem ofText_outrunRead : Statement.ofText outrun.selectText = .ok outrunRead.statement := by
  have hends : Sql.Lexer.Ends (Dialect.generic.lockless.lockHint .write ++
    Dialect.generic.lockless.forUpdate).toList := trivial
  have hread := ofText_select_of_reads .none hends .nil (Callers.plain_table.legible .generic)
    (Callers.plain_column.legible .generic)
  exact hread

theorem ofText_outrunWrite : Statement.ofText outrun.updateText = .ok (outrunWrite []).statement :=
  ofText_update Callers.plain_table Callers.plain_column .generic

/-- How far an allocation can get on the connection 2, whatever is observed. -/
def Reaches (c : Counter) (y : Delegated Allocation Integral × Accessed Database)
    (log : List (Database × Event)) (w : Delegated Allocation Integral) (db : Database) : Prop :=
  ∃ j n, c.Accompanied {} "t" 2 y log (w, ((db, j), n))

theorem Reaches.next {w' : Delegated Allocation Integral} (h : c.Reaches y log w db)
    (hs : c.transacted (Database.connection 2) w db = (.running w', db')) :
    c.Reaches y log w' db' := by
  obtain ⟨j, n, hrun⟩ := h
  obtain ⟨j', n', hi⟩ := exists_isolated hs {} j n
  exact ⟨j', n', .step hrun hi⟩

/-- The value that it reads, and the one after it. -/
def five : Integral := ⟨.long, 5, by decide⟩

/-- The value that it would write. -/
def six : Integral := ⟨.long, 6, by decide⟩

/-- The statement of the other connection, when the row has been read. -/
def overtakingLog : List (Database × Event) :=
  [(approached 5 (some {}) (some outrunRead), .call 3 .update)]

theorem reaches_writing (h : outrun.Reaches y [] (.working [] none ⟨1, .preparingWrite five six⟩)
    (approached 5 (some {}) (some outrunRead))) :
    outrun.Reaches y overtakingLog (.working [] none ⟨1, .writing five⟩)
      (approached 7 (some {}) (some (outrunWrite [(2, .integer 5), (1, .integer 6)]))) := by
  obtain ⟨j, n, hrun⟩ := h
  have hrows : ¬ (approached 5 (some {}) (some outrunRead)).Reshapes "t" (.call 3 .update) := by
    rintro ⟨link, p, hprep, -, hrows⟩
    cases hprep
    exact hrows trivial
  have hset : outrun.Reaches y overtakingLog (.working [] none ⟨1, .preparingWrite five six⟩)
      ((approached 5 (some {}) (some outrunRead)).after (.call 3 .update)) :=
    ⟨j, n, hrun.other (.call 3 .update) (by decide) hrows⟩
  have hl : ((approached 5 (some {}) (some outrunRead)).after (.call 3 .update)).links.get? 2 =
      some ⟨some {}, some outrunRead⟩ := rfl
  have hbinding : outrun.Reaches y overtakingLog (.working [] none ⟨1, .bindingAdvanced five six⟩)
      (approached 7 (some {}) (some (outrunWrite []))) :=
    hset.next (transacted_preparingWrite hl ofText_outrunWrite 1 five six)
  have hbound : outrun.Reaches y overtakingLog (.working [] none ⟨1, .bindingCurrent five⟩)
      (approached 7 (some {}) (some (outrunWrite [(1, .integer 6)]))) := hbinding.next rfl
  exact hbound.next rfl

/-- The row is set between the read of an allocation and its update, and the allocation gives up. -/
theorem overtaken_once : ∃ log y s,
    outrun.Accompanied {} "t" 2 (Delegate.start, ((approaching, {}), 0)) log y ∧
    outrun.isolated (Database.connection 2) {} y.1 y.2 =
      (.finished (.error (.retriesExhausted "t" 1)), s) ∧
    (∃ q ∈ log, q.1.publishes "t" q.2) ∧ 1 ≤ publications "t" log := by
  have hbegun : outrun.Reaches (Delegate.start, ((approaching, {}), 0)) [] (.working [] none {})
      (approached 5 (some {}) none) := .next ⟨{}, 0, .start⟩ rfl
  have hl : (approached 5 (some {}) none).links.get? 2 = some ⟨some {}, none⟩ := rfl
  obtain ⟨j, n, hreading⟩ : outrun.Reaches (Delegate.start, ((approaching, {}), 0)) []
      (.working [] none ⟨1, .reading⟩) (approached 5 (some {}) (some outrunRead)) :=
    hbegun.next (transacted_preparingRead hl ofText_outrunRead 1)
  have hstep : outrun.transacted (Database.connection 2) (.working [] none ⟨1, .reading⟩)
      (approached 5 (some {}) (some outrunRead)) =
        (.running (.working [] none ⟨1, .preparingWrite five six⟩),
          approached 5 (some {}) (some outrunRead)) := rfl
  obtain ⟨j₁, n₁, hread⟩ := exists_isolated hstep {} j n
  obtain ⟨j₂, n₂, hwriting⟩ := reaches_writing ⟨j₁, n₁, .step hreading hread⟩
  obtain ⟨j₃, n₃, hrest⟩ := reaches_writing ⟨j₁, n₁, .start⟩
  have hlost : outrun.Reaches (Delegate.start, ((approaching, {}), 0)) overtakingLog
      (.deciding [.error (.retriesExhausted "t" 1)] none)
      (approached 7 (some {}) (some (outrunWrite [(2, .integer 5), (1, .integer 6)]))) :=
    .next ⟨j₂, n₂, hwriting⟩ rfl
  obtain ⟨j₄, n₄, hrun⟩ := hlost
  obtain ⟨j₅, n₅, hend⟩ := exists_isolated (outrun.transacted_failed 2 _ _) {} j₄ n₄
  obtain ⟨hreachable, hspares⟩ := approaching_reachable
  obtain ⟨hpublished, -⟩ := outrun_unlocked.overtaken hreachable hspares hreading
  obtain ⟨-, hcount⟩ := outrun_unlocked.overtaken hreachable hspares hrun
  refine ⟨overtakingLog, _, _, hrun, hend, ?_, hcount 1 rfl "t" 1 _ hend⟩
  exact hpublished [] none 1 five six _ rfl hread overtakingLog _ hrest [] none 1 five rfl rfl

/-- A counter whose column bears the name of a keyword. -/
def misread : Counter where
  name := ⟨none, none, ⟨"t", false⟩⟩
  table := "t"
  column := "distinct"
  initial := 1
  increment := 1
  numberType := .long
  retry := .bounded 1
  selectText := selectStatement Dialect.generic.lockless "t" "distinct"
  updateText := updateStatement "t" "distinct"

/-- A table with this column and another one, and the only connection. -/
def ambiguous (x : Option Transaction) (p : Option Prepared) : Database where
  storage := ⟨[("t", ⟨["as", "distinct"], [[1, 2]], none, none⟩)]⟩
  links := [(2, ⟨x, p⟩)]
  opened := 2

theorem ambiguous_reachable : (ambiguous none none).Reachable := by
  have hc : Statement.ofText "create table t ( as bigint, distinct bigint )" =
      .ok (.createTable "t" ["as", "distinct"] false) := by decide +kernel
  have hi : Statement.ofText "insert into t values ( 1, 2 )" =
      .ok (.insert "t" [[.literal 1, .literal 2]]) := by decide +kernel
  have h₁ := (Database.Reachable.new.after .connect).after
    (.call 1 (.prepare "create table t ( as bigint, distinct bigint )"))
  rw [Database.after_prepare rfl hc] at h₁
  have h₂ := (h₁.after (.call 1 .update)).after (.call 1 (.prepare "insert into t values ( 1, 2 )"))
  rw [Database.after_prepare rfl hi] at h₂
  exact ((h₂.after (.call 1 .update)).after (.disconnect 1)).after .connect

theorem ambiguous_spares (k : Nat) :
    Transaction.Spares "t" ((ambiguous none none).transaction? k) := by
  intro x hx
  rw [Database.transaction?_eq_none (by simp [ambiguous]) k] at hx
  cases hx

/-- What it has prepared to read the row: the keyword is not taken for the name of the column. -/
def misreadRead : Prepared :=
  ⟨misread.selectText, .select "t" [.column "as" (some "id_val")] none false, []⟩

/-- What it has prepared to replace the value, and the values bound so far. -/
def misreadWrite (b : Bindings) : Prepared :=
  ⟨misread.updateText, .update "t" [("distinct", .param 1)] (some ⟨"distinct", .param 2⟩), b⟩

/-- An allocation is lost to nobody where the column that is read is not the one that the update
compares: nobody else is connected, and it gives up. -/
theorem overtaken_by_nobody :
    Counter.define Dialect.generic.lockless ⟨none, none, ⟨"t", false⟩⟩ ⟨"distinct", false⟩ 1 1 .long =
      .ok { misread with retry := .unbounded } ∧
    (ambiguous none none).Reachable ∧
    (∀ k, Transaction.Spares "t" ((ambiguous none none).transaction? k)) ∧
    ∃ y s, misread.Accompanied {} "t" 2 (Delegate.start, ((ambiguous none none, {}), 0)) [] y ∧
      misread.isolated (Database.connection 2) {} y.1 y.2 =
        (.finished (.error (.retriesExhausted "t" 1)), s) ∧
      publications "t" [] = 0 := by
  have hread : Statement.ofText misread.selectText = .ok misreadRead.statement := by decide +kernel
  have hwrite : Statement.ofText misread.updateText = .ok (misreadWrite []).statement := by
    decide +kernel
  have hbegun : misread.Reaches (Delegate.start, ((ambiguous none none, {}), 0)) []
      (.working [] none {}) (ambiguous (some {}) none) := .next ⟨{}, 0, .start⟩ rfl
  have hl : (ambiguous (some {}) none).links.get? 2 = some ⟨some {}, none⟩ := rfl
  have hreading : misread.Reaches (Delegate.start, ((ambiguous none none, {}), 0)) []
      (.working [] none ⟨1, .reading⟩) (ambiguous (some {}) (some misreadRead)) :=
    hbegun.next (transacted_preparingRead hl hread 1)
  have hpreparing : misread.Reaches (Delegate.start, ((ambiguous none none, {}), 0)) []
      (.working [] none ⟨1, .preparingWrite ⟨.long, 1, by decide⟩ ⟨.long, 2, by decide⟩⟩)
      (ambiguous (some {}) (some misreadRead)) := hreading.next rfl
  have hl' : (ambiguous (some {}) (some misreadRead)).links.get? 2 =
      some ⟨some {}, some misreadRead⟩ := rfl
  have hbinding : misread.Reaches (Delegate.start, ((ambiguous none none, {}), 0)) []
      (.working [] none ⟨1, .bindingAdvanced ⟨.long, 1, by decide⟩ ⟨.long, 2, by decide⟩⟩)
      (ambiguous (some {}) (some (misreadWrite []))) :=
    hpreparing.next (transacted_preparingWrite hl' hwrite 1 _ _)
  have hbound : misread.Reaches (Delegate.start, ((ambiguous none none, {}), 0)) []
      (.working [] none ⟨1, .bindingCurrent ⟨.long, 1, by decide⟩⟩)
      (ambiguous (some {}) (some (misreadWrite [(1, .integer 2)]))) := hbinding.next rfl
  have hwriting : misread.Reaches (Delegate.start, ((ambiguous none none, {}), 0)) []
      (.working [] none ⟨1, .writing ⟨.long, 1, by decide⟩⟩)
      (ambiguous (some {}) (some (misreadWrite [(2, .integer 1), (1, .integer 2)]))) :=
    hbound.next rfl
  have hlost : misread.Reaches (Delegate.start, ((ambiguous none none, {}), 0)) []
      (.deciding [.error (.retriesExhausted "t" 1)] none)
      (ambiguous (some {}) (some (misreadWrite [(2, .integer 1), (1, .integer 2)]))) :=
    hwriting.next rfl
  obtain ⟨j, n, hrun⟩ := hlost
  obtain ⟨j', n', hend⟩ := exists_isolated (misread.transacted_failed 2 _ _) {} j n
  refine ⟨?_, ambiguous_reachable, ambiguous_spares, _, _, hrun, hend, rfl⟩
  exact (if_neg (by decide)).trans (if_neg (by decide))

end Counter

end CounterTable
