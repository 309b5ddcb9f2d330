import CounterTable.Proofs.Allocation.Contest
import CounterTable.Proofs.Number.Integral
import CounterTable.Proofs.Store.Chronicle

/-!
# The steps of an allocation in a race

An allocation makes one call on its connection at a time. Each step of it preserves the invariant of
the race, and only the commit moves the first value of the table.

* `Contest.read`: what an allocation reads;
* `Contest.write`: an update that is lost, fails, or claims the value that was read;
* `Contest.prepared`, `Contest.bound`, `Contest.queried`, `Contest.updated`: its calls;
* `Contest.attempt`: every step of an attempt;
* **`Contest.step`**: every step of an allocation.
-/

namespace CounterTable

variable {ι : Type} {name : String} {counter : ι → Counter}
  {places : ι → Counter.NextValue} {db : Database} {ns : List Int64} {i : ι} {id : Nat}
  {w₀ : Delegated Allocation Integral} {link : Link}

theorem Seen.of_readRow {c : Counter} {q : QueryResult} (hq : q.firstValue? = ns.head?.map .integer)
    {current advanced : Integral} (hr : c.readRow q = .ok (current, advanced)) :
    Seen ns current.val ∧ advanced.val = current.val + c.step := by
  unfold Counter.readRow at hr
  rw [hq] at hr
  cases hn : ns.head? with
  | none => rw [hn] at hr; cases hr
  | some n =>
    rw [hn] at hr
    simp only [Option.map_some] at hr
    cases hv : Integral.ofValue (.integer n) c.numberType with
    | error e => rw [hv] at hr; cases hr
    | ok v =>
      rw [hv] at hr
      cases ha : v.add c.step with
      | error e => simp only [ha] at hr; cases hr
      | ok w =>
        simp only [ha, Except.ok.injEq, Prod.mk.injEq] at hr
        obtain ⟨rfl, rfl⟩ := hr
        rw [Integral.val_ofValue hv, ← Integral.val_ofValue hv]
        exact ⟨Integral.val_ofValue hv ▸ Seen.first hn, Integral.val_add ha⟩

namespace Turn

/-- **An update of the column** in a transaction replaces the value that it looks for wherever it
occurs, or it keeps the table. -/
theorem update_one {t : Turn} {table : Table} (hg : t.storage.get? name = some table)
    (hs : table.Sound) (hcols : table.columns.length = 1)
    (hrows : table.Free id → table.rows = rowsOf ns) {x : Transaction} (hx : t.transaction = some x)
    {b : Bindings} {v w : Int64} (hb₁ : b.get? 1 = some (.integer w))
    (hb₂ : b.get? 2 = some (.integer v)) (column column' : String) :
    let result := execute id b (.update name [(column, .param 1)] (some ⟨column', .param 2⟩)) t
    (∃ y, result.2.transaction = some y ∧ y.undo = x.undo) ∧
      ((∃ n, result.1 = .ok (.count (n + 1)) ∧ v ∈ ns ∧ table.Free id ∧
          result.2.storage.get? name =
            some { table.acquire id with rows := rowsOf (replaced v w ns) }) ∨
        (∀ n, result.1 ≠ .ok (.count (n + 1))) ∧
          ∃ table', result.2.storage.get? name = some table' ∧ table.Kept id table') := by
  intro result
  have hr₁ : b.resolve (.param 1) = .ok w := by simp [Bindings.resolve, hb₁, Value.word?]
  have hr₂ : b.resolve (.param 2) = .ok v := by simp [Bindings.resolve, hb₂, Value.word?]
  have hsound : ∀ u, t.storage.get? name = some u → u.Sound := fun u hu => by
    cases hg.symm.trans hu
    exact hs
  rcases execute_cases (s := .update name [(column, .param 1)] (some ⟨column', .param 2⟩)) hsound
    trivial id b with ⟨he, hk⟩ | ⟨hg', hf, he, hw⟩ | ⟨hg', hf, he, hrun, hw⟩
  · refine ⟨⟨x, by rw [show result.2 = t from he, hx], rfl⟩, .inr ⟨fun n hn => ?_, table, ?_, ?_⟩⟩
    · exact absurd (hk _ hn) (by simp [Deed.kept, Deed.changes])
    · rw [show result.2 = t from he, hg]
    · exact .refl hs id
  · cases hg.symm.trans hg'
    refine ⟨hw.transaction_inside hx, .inr ⟨fun n hn => (by cases he.symm.trans hn), _,
      (hw.get?_inside hx name).trans (if_pos rfl), ?_⟩⟩
    exact .acquire_rows hs hf
  · cases hg.symm.trans hg'
    refine ⟨hw.transaction_inside hx, ?_⟩
    have hget := (hw.get?_inside hx name).trans (if_pos rfl)
    obtain ⟨rfl, hreplaced⟩ := Table.run_update hcols (hrows hf) hr₁ hr₂ hrun
    cases hcount : ns.count v with
    | zero =>
      rw [hcount] at he hrun
      refine .inr ⟨fun n hn => (by cases he.symm.trans hn), _, hget, ?_⟩
      rw [Table.rows_of_run hrun rfl]
      exact .acquire_rows hs hf
    | succ n =>
      rw [hcount] at he
      refine .inl ⟨n, he, List.count_pos_iff.mp (by omega), hf, ?_⟩
      rw [hget, hreplaced]

end Turn

theorem Counter.NextValue.not_claims (hp : places i = .connected id w₀)
    (hw : ∀ current, w₀ ≠ .deciding [.ok ()] (some current)) (k : Nat) :
    ¬ (places i).Claims k := by
  rintro ⟨current, hk⟩
  cases hp.symm.trans hk
  exact hw current rfl

namespace Contest

theorem not_claims (h : Contest name counter places db ns) (hp : places i = .connected id w₀)
    (hc : ∀ k, ¬ (places i).Claims k) (j : ι) : ¬ (places j).Claims id := by
  rintro ⟨current, hj⟩
  cases h.separate i j id w₀ _ hp hj
  exact hc id ⟨current, hj⟩

theorem visible (h : Contest name counter places db ns) (hc : ∀ j, ¬ (places j).Claims id) :
    ∃ table, db.storage.get? name = some table ∧ table.Sound ∧ table.columns.length = 1 ∧
      table.visibleRows id = rowsOf ns ∧ (table.Free id → table.rows = rowsOf ns) := by
  obtain ⟨table, hg, hcols, hcom, -⟩ := h.table
  have hs := (h.accounted.tables name table hg).1
  have hfree : table.Free id → table.rows = rowsOf ns := by
    rintro (hl | hl)
    · rw [← hs.committed_eq_rows hl, hcom]
    · rw [h.rows_eq hc hg hl, hcom]
  refine ⟨table, hg, hs, hcols, ?_, hfree⟩
  by_cases hl : table.lockedBy? = some id
  · rw [Table.visibleRows_eq_rows hs (.inr hl), hfree (.inr hl)]
  · rw [Table.visibleRows_eq_committed hs hl, hcom]

theorem read (h : Contest name counter places db ns) (hc : ∀ j, ¬ (places j).Claims id)
    (hl : db.links.get? id = some link) {sql column : String} {shown : Option String}
    {forUpdate : Bool}
    (hp : link.prepared = some ⟨sql, .select name [.column column shown] none forUpdate, []⟩)
    {q : QueryResult} (hq : (Database.query id db).1 = .ok q) :
    q.firstValue? = ns.head?.map .integer := by
  obtain ⟨table, hg, hs, hcols, hv, -⟩ := h.visible hc
  have hprep := Database.prepared?_eq_ok.mpr ⟨hl, hp⟩
  rw [Database.query_answer hprep] at hq
  -- In all cases that do not fail, the answer is the selection from the table.
  have hanswer : ∀ r, (db.executed id link ⟨sql, .select name [.column column shown] none forUpdate,
      []⟩).1 = .ok r → (table.select id [.column column shown] none []).map Reply.rows = .ok r := by
    intro r hr
    have hg' : (⟨db.storage, link.transaction⟩ : Turn).storage.get? name = some table := hg
    simp only [Database.executed, Turn.execute] at hr
    cases forUpdate with
    | false =>
      rw [Turn.select_plain hg'] at hr
      exact hr
    | true =>
      by_cases hf : table.Free id
      · rw [Turn.select_forUpdate_of_free hg' hs hf] at hr
        exact hr
      · obtain ⟨holder, hh, hne⟩ := Table.exists_holder hf
        rw [Turn.select_forUpdate_of_other hg' hh hne] at hr
        cases hr
  cases hr : (db.executed id link ⟨sql, .select name [.column column shown] none forUpdate, []⟩).1
    with
  | error e => rw [hr] at hq; cases hq
  | ok r =>
    have hsel := hanswer r hr
    rw [hr] at hq
    cases ht : table.select id [.column column shown] none [] with
    | error e => rw [ht] at hsel; cases hsel
    | ok q' =>
      rw [ht] at hsel
      cases hsel
      cases hq
      exact Table.firstValue_of_select hcols hv ht

variable [DecidableEq ι]

/-! ## Single calls -/

theorem call_of_kept (h : Contest name counter places db ns) (hp : places i = .connected id w₀)
    (hc : ∀ k, ¬ (places i).Claims k) {c : Call} {w₁ : Delegated Allocation Integral}
    (hk : ∀ table, db.storage.get? name = some table →
      ∃ table', (db.after (.call id c)).storage.get? name = some table' ∧ table.Kept id table')
    (hx : Transaction.Spares name ((db.after (.call id c)).transaction? id))
    (hs : (counter i).Stands name ns (db.after (.call id c)) (.connected id w₁)) :
    Contest name counter (Function.update places i (.connected id w₁)) (db.after (.call id c)) ns := by
  refine h.of_kept (.call id c) (some i) (fun j hj => ⟨?_, fun w hpj => ?_⟩) ?_ hk hx
  · exact Function.update_of_ne (fun he => hj (congrArg some he.symm)) _ _
  · exact hj (congrArg some (h.separate i j id w₀ w hp hpj))
  · rintro j ⟨⟩
    rw [Function.update_self]
    exact ⟨hs, fun k w hk => by cases hk; rfl, hc⟩

theorem fail (h : Contest name counter places db ns) (hp : places i = .connected id w₀)
    (hc : ∀ k, ¬ (places i).Claims k) {c : Call} (hw : ¬ db.Writes (.call id c) name) (e : Error) :
    Contest name counter (Function.update places i (.connected id (.deciding [.error e] none)))
      (db.after (.call id c)) ns := by
  have hopen : ((db.after (.call id c)).links.get? id).isSome :=
    (Database.sameLinks_call id c db).isOpen.trans (hp ▸ h.stands i :
      (counter i).Stands name ns db _).isOpen
  obtain ⟨link, hl⟩ := Option.isSome_iff_exists.mp hopen
  exact h.call hp hc hw (.failed hl)

end Contest

namespace Database

theorem begin_of_none (hl : db.links.get? id = some link) (hx : link.transaction = none) :
    begin id db =
      (.ok (), { db with links := db.links.set id { link with transaction := some {} } }) := by
  simp only [begin, hl, hx]

theorem bind_of_prepared {p : Prepared} (hl : db.links.get? id = some link)
    (hp : link.prepared = some p) {position : Nat} (h : position ≠ 0) (value : Value) :
    bind id position value db =
      (.ok (), { db with links := db.links.set id { link with
        prepared := some { p with bindings := p.bindings.set position value } } }) := by
  have hprep : db.prepared? id = .ok (link, p) := prepared?_eq_ok.mpr ⟨hl, hp⟩
  simp only [bind, hprep, if_neg h]

theorem exists_after_prepare (hl : db.links.get? id = some link) {sql : String}
    (hok : (prepare id sql db).1 = .ok ()) :
    ∃ s, Statement.ofText sql = .ok s ∧ db.after (.call id (.prepare sql)) =
      { db with links := db.links.set id { link with prepared := some ⟨sql, s, []⟩ } } := by
  cases hs : Statement.ofText sql with
  | error e =>
    simp only [prepare, hl, hs] at hok
    cases hok
  | ok s => exact ⟨s, rfl, after_prepare hl hs⟩

theorem links_after_query (hl : db.links.get? id = some link) {x : Transaction}
    (hx : link.transaction = some x) {p : Prepared} (hp : link.prepared = some p) :
    ∃ link' y, (db.after (.call id .query)).links.get? id = some link' ∧
      link'.transaction = some y := by
  obtain ⟨y, hy⟩ := Option.isSome_iff_exists.mp
    ((Turn.transaction_execute_isSome id p.bindings p.statement
      ⟨db.storage, link.transaction⟩).trans (Option.isSome_of_eq_some hx))
  have hafter : db.after (.call id .query) = _ := query_after (prepared?_eq_ok.mpr ⟨hl, hp⟩)
  exact ⟨_, y, by rw [hafter, links_settle, if_pos rfl], hy⟩

theorem links_set (db : Database) (id : Nat) (link : Link) :
    ({ db with links := db.links.set id link } : Database).links.get? id = some link := by
  simp

theorem not_writes_query {p : Prepared} (hl : db.links.get? id = some link)
    (hp : link.prepared = some p) (hs : p.statement.written? = none) (name : String) :
    ¬ db.Writes (.call id .query) name := by
  rintro ⟨link', p', h, hw⟩
  obtain ⟨hl', hp'⟩ := prepared?_eq_ok.mp h
  cases hl.symm.trans hl'
  cases hp.symm.trans hp'
  cases hs.symm.trans hw

end Database

namespace Contest

variable [DecidableEq ι]

/-- **An update** claims the value that was read, or it is lost or fails and keeps the table. -/
theorem write (h : Contest name counter places db ns) {a : Allocation}
    (hp : places i = .connected id (.working [] none a)) (hl : db.links.get? id = some link)
    {x : Transaction} (hx : link.transaction = some x) {current : Integral}
    (hseen : Seen ns current.val) {sql column column' : String} {b : Bindings}
    (hprep : link.prepared = some
      ⟨sql, .update name [(column, .param 1)] (some ⟨column', .param 2⟩), b⟩)
    (hb₂ : b.get? 2 = some (.integer current.word)) {w : Int64} (hb₁ : b.get? 1 = some (.integer w))
    (hw : w.toInt = current.val + (counter i).step) :
    (∃ n, (Database.update id db).1 = .ok (n + 1) ∧
      Contest name counter
        (Function.update places i (.connected id (.deciding [.ok ()] (some current))))
        (db.after (.call id .update)) ns) ∨
    (∀ n, (Database.update id db).1 ≠ .ok (n + 1)) ∧
      (∃ link x, (db.after (.call id .update)).links.get? id = some link ∧
        link.transaction = some x) ∧
      ∀ w₁, (counter i).Stands name ns (db.after (.call id .update)) (.connected id w₁) →
        Contest name counter (Function.update places i (.connected id w₁))
          (db.after (.call id .update)) ns := by
  have hc := Counter.NextValue.not_claims hp (by simp)
  obtain ⟨table, hg, hs, hcols, -, hrows⟩ := h.visible (h.not_claims hp hc)
  have hprep' := Database.prepared?_eq_ok.mpr ⟨hl, hprep⟩
  have hanswer := Database.update_answer hprep' rfl
  have hafter := (Database.update_after hprep').trans (if_neg Bool.false_ne_true)
  change db.after (.call id .update) = _ at hafter
  obtain ⟨⟨y, hy, hu⟩, hcases⟩ := Turn.update_one (t := ⟨db.storage, link.transaction⟩) hg hs hcols
    hrows hx hb₁ hb₂ column column'
  have hlink := (congrArg (fun d : Database => d.links.get? id) hafter).trans
    ((Database.links_settle ..).trans (if_pos rfl))
  have hspares : Transaction.Spares name ((db.after (.call id .update)).transaction? id) := by
    intro z hz u hin
    rw [Database.transaction?_of_link hlink] at hz
    cases hy.symm.trans hz
    rw [hu] at hin
    exact h.spares id x (by rw [Database.transaction?_of_link hl, hx]) u hin
  rcases hcases with ⟨n, hn, hin, hf, hget⟩ | ⟨hn, hk⟩
  · refine .inl ⟨n, by rw [hanswer, Database.executed, hn], ?_⟩
    refine h.claim hp hg hf ?_ hw (by rw [hafter]; exact hget) hlink hy hspares
    exact Seen.eq_first (by rw [Integral.toInt_word]; exact hseen) hin
  · refine .inr ⟨fun n hc => hn n ?_, ⟨_, y, hlink, hy⟩, fun w₁ hst => ?_⟩
    · rw [hanswer] at hc
      split at hc
      · cases hc
      · next m hm => cases hc; exact hm
      · next q hm =>
        have := (Turn.isRows_of_execute hm).mp ⟨q, rfl⟩
        cases this
    · refine h.call_of_kept hp hc (fun u hu => ?_) hspares hst
      cases hg.symm.trans hu
      rw [hafter]
      exact hk

/-- What follows a step of an attempt. -/
def Attempted (name : String) (counter : ι → Counter) (places : ι → Counter.NextValue)
    (ns : List Int64) (i : ι) (id : Nat) : Progress Allocation Integral × Database → Prop
  | (.running a, db) =>
    Contest name counter (Function.update places i (.connected id (.working [] none a))) db ns
  | (.finished (.ok current), db) =>
    Contest name counter
      (Function.update places i (.connected id (.deciding [.ok ()] (some current)))) db ns
  | (.finished (.error e), db) =>
    Contest name counter (Function.update places i (.connected id (.deciding [.error e] none))) db ns

theorem stopped (h : Contest name counter places db ns) {a : Allocation}
    (hp : places i = .connected id (.working [] none a)) {c : Call}
    {r : Except Error c.Answer} {db' : Database}
    (hr : (Database.connection id).call c db = (r, db')) (hw : ¬ db.Writes (.call id c) name)
    (e : Error) :
    Attempted name counter places ns i id (.finished (.error e), db') := by
  have hdb : db.after (.call id c) = db' := congrArg Prod.snd hr
  exact hdb ▸ h.fail hp (Counter.NextValue.not_claims hp (by simp)) hw e

theorem running (h : Contest name counter places db ns) {a : Allocation}
    (hp : places i = .connected id (.working [] none a)) {c : Call}
    {r : Except Error c.Answer} {db' : Database}
    (hr : (Database.connection id).call c db = (r, db')) (hw : ¬ db.Writes (.call id c) name)
    (hl : db'.links.get? id = some link) {x : Transaction} (hx : link.transaction = some x)
    {attempt : Attempt} (ha : (counter i).Attempting ns link.prepared attempt) :
    Attempted name counter places ns i id (.running { a with attempt }, db') := by
  cases (congrArg Prod.snd hr : db.after (.call id c) = db')
  exact h.call hp (Counter.NextValue.not_claims hp (by simp)) hw
    (.attempting (a := { a with attempt }) hl hx ha)

theorem prepared (h : Contest name counter places db ns) {a : Allocation}
    (hp : places i = .connected id (.working [] none a)) (hl : db.links.get? id = some link)
    {x : Transaction} (hx : link.transaction = some x) {sql : String} {db' : Database}
    (hr : (Database.connection id).call (.prepare sql) db = (.ok (), db')) {attempt : Attempt}
    (ha : ∀ s, Statement.ofText sql = .ok s →
      (counter i).Attempting ns (some ⟨sql, s, []⟩) attempt) :
    Attempted name counter places ns i id (.running { a with attempt }, db') := by
  obtain ⟨s, hs, hafter⟩ := Database.exists_after_prepare hl (congrArg Prod.fst hr)
  have hlink : db'.links.get? id = some { link with prepared := some ⟨sql, s, []⟩ } := by
    have hdb : db.after (.call id (.prepare sql)) = db' := congrArg Prod.snd hr
    rw [← hdb, hafter]
    exact Database.links_set db id _
  exact h.running hp hr (fun hw => hw) hlink hx (ha s hs)

theorem bound (h : Contest name counter places db ns) {a : Allocation}
    (hp : places i = .connected id (.working [] none a)) (hl : db.links.get? id = some link)
    {x : Transaction} (hx : link.transaction = some x) {p : Prepared}
    (hprep : link.prepared = some p) {position : Nat} (hpos : position ≠ 0) {value : Value}
    {db' : Database} (hr : (Database.connection id).call (.bind position value) db = (.ok (), db'))
    {attempt : Attempt}
    (ha : (counter i).Attempting ns (some { p with bindings := p.bindings.set position value })
      attempt) :
    Attempted name counter places ns i id (.running { a with attempt }, db') := by
  have hlink : db'.links.get? id = some { link with
      prepared := some { p with bindings := p.bindings.set position value } } := by
    cases hr.symm.trans (Database.bind_of_prepared hl hprep hpos value)
    exact Database.links_set db id _
  exact h.running hp hr (fun hw => hw) hlink hx ha

theorem queried (h : Contest name counter places db ns) (ho : (counter i).Over name) {n : Nat}
    (hp : places i = .connected id (.working [] none ⟨n, .reading⟩))
    (hl : db.links.get? id = some link) {x : Transaction} (hx : link.transaction = some x)
    (hat : (counter i).Attempting ns link.prepared .reading) :
    Attempted name counter places ns i id
      ((counter i).allocation (Database.connection id) ⟨n, .reading⟩ db) := by
  obtain ⟨s, hs, hprep⟩ := hat
  obtain ⟨column, shown, forUpdate, rfl⟩ := ho.reads s hs
  have hw := Database.not_writes_query hl hprep rfl name
  simp only [Counter.allocation]
  rcases hr : (Database.connection id).call .query db with ⟨e | q, db'⟩
  · exact h.stopped hp hr hw _
  · have hc := h.not_claims hp (Counter.NextValue.not_claims hp (by simp))
    have hfirst := h.read hc hl hprep (congrArg Prod.fst hr)
    cases hrow : (counter i).readRow q with
    | error e =>
      simp only [hrow]
      exact h.stopped hp hr hw e
    | ok row =>
      obtain ⟨current, advanced⟩ := row
      obtain ⟨link', y, hlink, hy⟩ := Database.links_after_query hl hx hprep
      have hdb : db.after (.call id .query) = db' := congrArg Prod.snd hr
      simp only [hrow]
      have hnext : (counter i).Attempting ns link'.prepared (.preparingWrite current advanced) :=
        Seen.of_readRow hfirst hrow
      exact h.running hp hr hw (hdb ▸ hlink) hy hnext

theorem updated (h : Contest name counter places db ns) (ho : (counter i).Over name) {n : Nat}
    {current : Integral} (hp : places i = .connected id (.working [] none ⟨n, .writing current⟩))
    (hl : db.links.get? id = some link) {x : Transaction} (hx : link.transaction = some x)
    (hat : (counter i).Attempting ns link.prepared (.writing current)) :
    Attempted name counter places ns i id
      ((counter i).allocation (Database.connection id) ⟨n, .writing current⟩ db) := by
  obtain ⟨hseen, s, b, hs, hprep, hb₂, w, hb₁, hw⟩ := hat
  obtain ⟨column, column', rfl⟩ := ho.writes s hs
  simp only [Counter.allocation]
  rcases hr : (Database.connection id).call .update db with ⟨r, db'⟩
  have hdb : db.after (.call id .update) = db' := congrArg Prod.snd hr
  have hr₁ : (Database.update id db).1 = r := congrArg Prod.fst hr
  rcases h.write hp hl hx hseen hprep hb₂ hb₁ hw with
    ⟨m, hm, hclaim⟩ | ⟨hm, ⟨link', y, hl', hy⟩, hk⟩
  · cases hr₁.symm.trans hm
    exact hdb ▸ hclaim
  · rcases r with e | _ | m
    · exact hdb ▸ hk _ (.failed hl')
    · cases hloss : (counter i).retry.afterLoss (counter i).table n with
      | error e => exact hdb ▸ hk _ (.failed hl')
      | ok m => exact hdb ▸ hk _ (.attempting (a := { number := m }) hl' hy trivial)
    · exact absurd hr₁ (hm m)

/-- **Every step of an attempt** preserves the invariant. -/
theorem attempt (h : Contest name counter places db ns) (ho : (counter i).Over name)
    {a : Allocation} (hp : places i = .connected id (.working [] none a)) :
    Attempted name counter places ns i id
      ((counter i).allocation (Database.connection id) a db) := by
  obtain ⟨link, x, hl, hx, hat⟩ : ∃ link x, db.links.get? id = some link ∧
      link.transaction = some x ∧ (counter i).Attempting ns link.prepared a.attempt := by
    have hs := hp ▸ h.stands i
    cases hs with
    | attempting hl hx ha => exact ⟨_, _, hl, hx, ha⟩
  obtain ⟨n, attempt⟩ := a
  cases attempt with
  | preparingRead =>
    simp only [Counter.allocation]
    rcases hr : (Database.connection id).call (.prepare (counter i).selectText) db with ⟨_ | _, db'⟩
    · exact h.stopped hp hr (fun hw => hw) _
    · exact h.prepared hp hl hx hr fun s hs => ⟨s, hs, rfl⟩
  | reading => exact h.queried ho hp hl hx hat
  | preparingWrite current advanced =>
    simp only [Counter.allocation]
    rcases hr : (Database.connection id).call (.prepare (counter i).updateText) db with ⟨_ | _, db'⟩
    · exact h.stopped hp hr (fun hw => hw) _
    · exact h.prepared hp hl hx hr fun s hs => ⟨hat.1, hat.2, s, hs, rfl⟩
  | bindingAdvanced current advanced =>
    obtain ⟨hseen, hadv, s, hs, hprep⟩ := hat
    simp only [Counter.allocation]
    rcases hr : (Database.connection id).call (.bind 1 advanced.toValue) db with ⟨_ | _, db'⟩
    · exact h.stopped hp hr (fun hw => hw) _
    · refine h.bound hp hl hx hprep Nat.one_ne_zero hr ?_
      exact ⟨hseen, s, _, hs, rfl, advanced.word, by simp [Integral.toValue],
        by rw [Integral.toInt_word, hadv]⟩
  | bindingCurrent current =>
    obtain ⟨hseen, s, b, hs, hprep, w, hb, hw⟩ := hat
    simp only [Counter.allocation]
    rcases hr : (Database.connection id).call (.bind 2 current.toValue) db with ⟨_ | _, db'⟩
    · exact h.stopped hp hr (fun hw => hw) _
    · refine h.bound hp hl hx hprep (Nat.succ_ne_zero 1) hr ?_
      exact ⟨hseen, s, _, hs, rfl, by simp [Integral.toValue], w, by simpa using hb, hw⟩
  | writing current => exact h.updated ho hp hl hx hat

end Contest

/-! ## Steps of the next value -/

namespace Counter

variable (c : Counter)

theorem unobserved_connecting (db : Database) :
    c.unobserved Database.backend .connecting db =
      (.running (.connected (db.opened + 1) Delegate.start), db.after .connect) := rfl

theorem unobserved_start (hl : db.links.get? id = some link) (hx : link.transaction = none) :
    c.unobserved Database.backend (.connected id (.deciding [] none)) db =
      (.running (.connected id (.working [] none {})), db.after (.call id .begin)) := by
  have hi : db.inTransaction id = false := by
    rw [Database.inTransaction_eq, Database.transaction?_of_link hl, hx]
    rfl
  have hb : (Database.connection id).call .begin db = (.ok (), db.after (.call id .begin)) := by
    have h := congrArg Prod.fst (Database.begin_of_none hl hx)
    exact Prod.ext h rfl
  have hi' : (Database.backend.connection id).inTransaction db = false := hi
  have hb' : (Database.backend.connection id).call .begin db =
      (.ok (), db.after (.call id .begin)) := hb
  simp only [unobserved, Backend.fresh, Delegate.delegated, Delegate.isolated, List.getLast?_nil, hi',
    hb', Bool.false_eq_true, if_false]

theorem unobserved_working (db : Database) (id : Nat) (a : Allocation) :
    c.unobserved Database.backend (.connected id (.working [] none a)) db =
      match c.allocation (Database.connection id) a db with
      | (.running a, db) => (.running (.connected id (.working [] none a)), db)
      | (.finished (.ok v), db) => (.running (.connected id (.deciding [.ok ()] (some v))), db)
      | (.finished (.error e), db) => (.running (.connected id (.deciding [.error e] none)), db) := by
  have hconn : Database.backend.connection id = Database.connection id := rfl
  simp only [unobserved, Backend.fresh, Delegate.delegated, hconn]
  rcases c.allocation (Database.connection id) a db with ⟨p, db'⟩
  rcases p with a' | e | v <;> rfl

theorem unobserved_commit (hl : db.links.get? id = some link) {x : Transaction}
    (hx : link.transaction = some x) (v : Integral) :
    c.unobserved Database.backend (.connected id (.deciding [.ok ()] (some v))) db =
      (.finished (.ok v), (db.after (.call id .commit)).after (.disconnect id)) := by
  have hc : (Database.backend.connection id).call .commit db =
      (.ok (), db.after (.call id .commit)) := by
    have h := congrArg Prod.fst (Database.finish_of_transaction hl hx true)
    exact Prod.ext h rfl
  simp only [unobserved, Backend.fresh, Delegate.delegated, Delegate.isolated, List.getLast?_singleton,
    hc]
  rfl

theorem unobserved_rollback (db : Database) (id : Nat) (e : Error) :
    c.unobserved Database.backend (.connected id (.deciding [.error e] none)) db =
      (.finished (.error e), (db.after (.call id .rollback)).after (.disconnect id)) := by
  simp only [unobserved, Backend.fresh, Delegate.delegated, Delegate.isolated, List.getLast?_singleton]
  rfl

end Counter

namespace Contest

variable [DecidableEq ι]

/-- What follows a step of an allocation: only one that succeeds moves the first value of the
table, from the value that it answers by the step of its counter. -/
def Stepped (name : String) (counter : ι → Counter) (places : ι → Counter.NextValue)
    (ns : List Int64) (i : ι) : Progress Counter.NextValue Integral × Database → Prop
  | (.running w, db) => Contest name counter (Function.update places i w) db ns
  | (.finished (.error _), db) => Contest name counter (Function.update places i .connecting) db ns
  | (.finished (.ok v), db) => ∃ w : Int64, ns.head? = some v.word ∧
      w.toInt = v.val + (counter i).step ∧
      Contest name counter (Function.update places i .connecting) db (replaced v.word w ns)

theorem closed (h : Contest name counter (Function.update places i (.connected id w₀)) db ns)
    (hw : ∀ current, w₀ ≠ .deciding [.ok ()] (some current)) :
    Contest name counter (Function.update places i .connecting) (db.after (.disconnect id)) ns := by
  have := h.disconnect (i := i) (Function.update_self ..) fun k hk => ?_
  · rw [Function.update_idem] at this
    exact this
  · obtain ⟨current, hk⟩ := hk
    rw [Function.update_self] at hk
    cases hk
    exact hw current rfl

/-- **Every step of an allocation** preserves the invariant. -/
theorem step (h : Contest name counter places db ns) (ho : (counter i).Over name) :
    Stepped name counter places ns i ((counter i).unobserved Database.backend (places i) db) := by
  have hs := h.stands i
  cases hp : places i with
  | connecting =>
    rw [Counter.unobserved_connecting]
    exact h.connect hp
  | connected id w =>
    rw [hp] at hs
    cases hs with
    | connected hl hx =>
      rw [Counter.unobserved_start _ hl hx]
      refine h.call hp (Counter.NextValue.not_claims hp (by simp)) (c := .begin) (fun hw => hw) ?_
      have hafter : db.after (.call id .begin) = _ :=
        congrArg Prod.snd (Database.begin_of_none hl hx)
      rw [hafter]
      exact .attempting (Database.links_set db id _) rfl trivial
    | attempting hl hx ha =>
      rename_i a
      have hstep := h.attempt ho hp
      rw [Counter.unobserved_working]
      rcases hr : (counter i).allocation (Database.connection id) a db with ⟨p, db'⟩
      rw [hr] at hstep
      rcases p with a' | e | v <;> exact hstep
    | claimed hl hx hc =>
      rename_i current
      rw [Counter.unobserved_commit _ hl hx]
      obtain ⟨w, hhead, hw, hcommit⟩ := h.commit ho.step_pos hp
      exact ⟨w, hhead, hw, hcommit.closed fun _ hk => by cases hk⟩
    | failed hl =>
      rename_i e
      rw [Counter.unobserved_rollback]
      have hc := Counter.NextValue.not_claims hp (by simp)
      exact (h.fail hp hc (c := .rollback) (fun hw => hw) e).closed fun _ hk => by cases hk

end Contest

end CounterTable
