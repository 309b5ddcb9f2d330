import CounterTable.Proofs.Sequence.Allotment

/-!
# Generators of one configuration

Generators that are configured from the same settings, in dialects of any kind, draw from one table,
which the script of any of them creates. No identifier is answered twice, whatever the calls of all of
them do in between.

* `Settings.Plain`: settings whose names are plain;
* `Generator.draws_of_configure`: a configured generator draws from its table;
* `Database.created`: the table that its script creates;
* **`Participants.identifiers_nodup`**: no identifier is answered twice.
-/

namespace CounterTable

/-- The table and the column have plain names. -/
structure Settings.Plain (s : Settings) : Prop where
  table : ∀ name, s.qualifiedName = .ok name → name.Plain
  column : ∀ column, s.columnName = .ok column → column.Plain

namespace OptimizerKind

variable {k : OptimizerKind} {increment : Int} {initial : Option Int} {o : Optimizer}

theorem of_build (h : k.build increment initial = .ok o) :
    o.kind = k ∧ o.increment = increment ∧ ∀ t n, ¬ o.Holds t n := by
  unfold build at h
  split at h
  · cases h
    cases k with
    | plain => exact ⟨rfl, rfl, fun t n hn => hn⟩
    | hilo => exact ⟨rfl, rfl, fun t n ⟨b, hb, _⟩ => nomatch hb⟩
    | pooled => exact ⟨rfl, rfl, fun t n ⟨b, hb, _⟩ => nomatch hb⟩
  · cases h

theorem step_prepare (c : Counter) (hc : c.increment.toInt = increment)
    (h : k.build increment initial = .ok o) : (c.prepare o).step = k.stride increment := by
  have hpos : 1 ≤ increment := by
    unfold build at h
    split at h
    · assumption
    · cases h
  unfold build at h
  rw [dif_pos hpos] at h
  cases h
  cases k with
  | plain =>
    show (if decide (1 < increment) = true then c.increment.toInt else 1) = increment
    split
    · exact hc
    · next hone =>
      rw [decide_eq_true_eq] at hone
      omega
  | hilo => rfl
  | pooled => exact hc

end OptimizerKind

namespace Counter

variable {d : Dialect} {name : QualifiedName} {column : Identifier} {initial increment : Int64}
  {type : NumberType} {c : Counter}

theorem of_define (h : define d name column initial increment type = .ok c) :
    c.table = name.render d ∧ c.column = column.render d ∧ c.initial = initial ∧
      c.increment = increment ∧ 1 ≤ increment.toInt := by
  unfold define at h
  split at h
  · cases h
  · next hpos =>
    split at h
    · cases h
    · cases h
      exact ⟨rfl, rfl, rfl, rfl, Int64.le_iff_toInt_le.mp (Int64.not_lt.mp hpos)⟩

theorem contains_of_define (h : define d name column initial increment type = .ok c) :
    c.numberType = type ∧ type.Contains initial.toInt := by
  unfold define at h
  split at h
  · cases h
  · split at h
    · cases h
    · next hcontains =>
      cases h
      exact ⟨rfl, Decidable.not_not.mp hcontains⟩

end Counter

namespace Generator

variable {s : Settings} {d : Dialect} {g : Generator}

theorem of_configure (h : configure s d = .ok g) : ∃ name column counter optimizer,
    s.qualifiedName = .ok name ∧ s.columnName = .ok column ∧
      Counter.define d name column s.initialValue s.incrementSize s.numberType = .ok counter ∧
      s.optimizerKind.build s.incrementSize.toInt (some s.initialValue.toInt) = .ok optimizer ∧
      g = ⟨{ counter with retry := s.retry }.prepare optimizer, s.optimizerKind, optimizer⟩ := by
  obtain ⟨-, -, h⟩ := exists_of_bind_eq_ok h
  obtain ⟨name, hname, h⟩ := exists_of_bind_eq_ok h
  obtain ⟨column, hcolumn, h⟩ := exists_of_bind_eq_ok h
  obtain ⟨counter, hcounter, h⟩ := exists_of_bind_eq_ok h
  obtain ⟨optimizer, hoptimizer, h⟩ := exists_of_bind_eq_ok h
  cases h
  exact ⟨name, column, counter, optimizer, hname, hcolumn, hcounter, hoptimizer, rfl⟩

/-- **A configured generator** draws from its table, which is the same in all dialects. -/
theorem draws_of_configure (hs : s.Plain) (hd : d.Usual) (h : configure s d = .ok g)
    {name : QualifiedName} (hname : s.qualifiedName = .ok name) (e : Dialect) :
    g.Draws (name.render e) s.optimizerKind s.incrementSize.toInt := by
  obtain ⟨name', column, counter, optimizer, hname', hcolumn, hcounter, hoptimizer, rfl⟩ :=
    of_configure h
  cases hname.symm.trans hname'
  have hplain := hs.table name hname
  obtain ⟨hkind, hincrement, hunheld⟩ := OptimizerKind.of_build hoptimizer
  have hrender : name.render e = name.render d := (hplain.render e).trans (hplain.render d).symm
  rw [hrender]
  refine ⟨?_, ?_, hkind, hincrement, hunheld⟩
  · exact Counter.Over.of_define hd hplain (hs.column column hcolumn) hcounter s.retry
      optimizer.appliesIncrement
  · refine OptimizerKind.step_prepare _ ?_ hoptimizer
    obtain ⟨-, -, -, hcounterIncrement, -⟩ := Counter.of_define hcounter
    exact congrArg Int64.toInt hcounterIncrement

end Generator

/-! ## The created table -/

theorem Turn.of_createTable {s : Storage} {name : String} {columns : List String} {reply : Reply}
    {t : Turn} (h : Turn.createTable name columns false ⟨s, none⟩ = (.ok reply, t)) :
    t = ⟨s.put name { columns }, none⟩ := by
  unfold Turn.createTable Storage.create at h
  simp only [Bool.and_false, Bool.false_eq_true, if_false] at h
  split at h
  · cases h
  · next storage hcreate =>
    split at hcreate
    · cases hcreate
    · cases hcreate
      cases h
      rfl

theorem Turn.insert_literal {s : Storage} {name column : String} {rows : List Row}
    (id : Nat) (hg : s.get? name = some ⟨[column], rows, none, none⟩) (n : Int64) :
    Turn.insert id [] name [[.literal n]] ⟨s, none⟩ =
      (.ok (.count 1), ⟨s.put name ⟨[column], rows ++ [[n]], none, none⟩, none⟩) := by
  have htable : s.table name = .ok ⟨[column], rows, none, none⟩ := Storage.table_of_get? hg
  have hclaim : Turn.claim id name ⟨s, none⟩ = (.ok (), ⟨s, none⟩) := by
    simp only [Turn.claim, Storage.acquire, htable, Option.isSome_none, Bool.false_eq_true,
      if_false]
  simp only [Turn.insert, hclaim, htable]
  rfl

namespace Database

variable {db db' : Database} {id : Nat}

theorem of_execute {sql : String} {n : Nat}
    (h : (connection id).execute sql db = (.ok n, db')) (ht : db.transaction? id = none) :
    ∃ statement t reply, Statement.ofText sql = .ok statement ∧
      Turn.execute id [] statement ⟨db.storage, none⟩ = (.ok reply, t) ∧
      db' = (db.after (.call id (.prepare sql))).after (.call id .update) ∧
      db'.storage = t.storage ∧ db'.transaction? id = t.transaction := by
  cases hl : db.links.get? id with
  | none =>
    have hp : prepare id sql db = (.error (closed id), db) := by simp only [prepare, hl]
    simp only [Connection.execute, Action.andThen, connection, hp] at h
    cases h
  | some link =>
    cases hs : Statement.ofText sql with
    | error e =>
      have hp : prepare id sql db = (.error e, db) := by simp only [prepare, hl, hs]
      simp only [Connection.execute, Action.andThen, connection, hp] at h
      cases h
    | ok statement =>
      have hp := prepare_of_ofText hl hs
      have hafter := after_prepare hl hs
      rw [← hafter] at hp
      simp only [Connection.execute, Action.andThen, connection, hp] at h
      have hprepared : (db.after (.call id (.prepare sql))).prepared? id =
          .ok ({ link with prepared := some ⟨sql, statement, []⟩ }, ⟨sql, statement, []⟩) := by
        rw [hafter, prepared?_eq_ok]
        exact ⟨by simp, rfl⟩
      have hnone : link.transaction = none := by
        rw [← transaction?_of_link hl]
        exact ht
      have hanswer := congrArg Prod.fst h
      have hdb := congrArg Prod.snd h
      cases hr : statement.returnsRows with
      | true =>
        simp only [update, hprepared, hr, if_true] at hanswer
        cases hanswer
      | false =>
        have hstorage : (db.after (.call id (.prepare sql))).storage = db.storage := by rw [hafter]
        rw [update_answer hprepared hr] at hanswer
        rw [update_after hprepared, if_neg (by rw [hr]; exact Bool.false_ne_true)] at hdb
        simp only [executed, hnone, hstorage] at hanswer hdb
        rcases hexecute : Turn.execute id [] statement ⟨db.storage, none⟩ with ⟨e | reply, t⟩
        · rw [hexecute] at hanswer
          cases hanswer
        · rw [hexecute] at hdb
          refine ⟨statement, t, reply, rfl, hexecute, (congrArg Prod.snd h).symm, ?_, ?_⟩
          · rw [← hdb]
            rfl
          · rw [← hdb, transaction?_settle, if_pos rfl]

theorem executeAll_of_ok {script : List String}
    (h : ((connection id).executeAll script db).1 = .ok ()) :
    (connection id).executeAll script db = (.ok (), ((connection id).executeAll script db).2) := by
  rw [← h]

theorem of_executeAll_cons {sql : String} {rest : List String}
    (h : (connection id).executeAll (sql :: rest) db = (.ok (), db')) :
    ∃ n db₁, (connection id).execute sql db = (.ok n, db₁) ∧
      (connection id).executeAll rest db₁ = (.ok (), db') := by
  rw [Connection.executeAll, Action.andThen] at h
  rcases hexecute : (connection id).execute sql db with ⟨e | n, db₁⟩
  · rw [hexecute] at h
    cases h
  · rw [hexecute] at h
    exact ⟨n, db₁, rfl, h⟩

/-- **The table that the script of a counter creates** has one row, with the initial value, and
nobody holds its lock. -/
theorem created {d : Dialect} {name : QualifiedName} {column : Identifier} {c : Counter}
    (hd : d.Usual) (hname : name.Plain) (hcolumn : column.Plain) (htable : c.table = name.render d)
    (hc : c.column = column.render d) (hdb : db.Reachable) (ht : db.transaction? id = none)
    (h : (connection id).executeAll (c.createScript d) db = (.ok (), db')) :
    db'.Reachable ∧ (∀ i, db'.transaction? i = db.transaction? i) ∧
      db'.storage.get? c.table = some ⟨[column.text], [[c.initial]], none, none⟩ := by
  obtain ⟨_, db₁, hcreate, h⟩ := of_executeAll_cons h
  obtain ⟨_, db₂, hseed, h⟩ := of_executeAll_cons h
  cases h
  obtain ⟨statement, t, reply, htext, hturn, hdb₁, hstorage, htransaction⟩ := of_execute hcreate ht
  rw [htable, hc, Counter.ofText_create hd hname hcolumn d] at htext
  cases htext
  cases Turn.of_createTable hturn
  obtain ⟨statement, t, reply, htext, hturn, hdb', hstorage', htransaction'⟩ :=
    of_execute hseed htransaction
  cases Counter.ofText_seed hname htable htext
  have hnew : db₁.storage.get? c.table = some ⟨[column.text], [], none, none⟩ := by
    rw [hstorage, ← htable, Storage.get?_put, if_pos rfl]
  have hinsert := hturn.symm.trans (Turn.insert_literal id hnew c.initial)
  cases hinsert
  refine ⟨?_, fun i => ?_, ?_⟩
  · rw [hdb', hdb₁]
    exact (((hdb.after _).after _).after _).after _
  · by_cases hi : i = id
    · rw [hi, htransaction', ht]
    · rw [hdb', transaction?_after _ hi, transaction?_after _ hi, hdb₁, transaction?_after _ hi,
        transaction?_after _ hi]
  · rw [hstorage', Storage.get?_put, if_pos rfl]
    rfl

theorem firstValue?_of_get? {name column : String} {n : Int64} (hdb : db.Reachable)
    (hg : db.storage.get? name = some ⟨[column], [[n]], none, none⟩) :
    db.firstValue? name = some n.toInt := by
  rw [firstValue?, columnValues_eq hdb.accounted hdb.numbered hg]
  rfl

end Database

/-! ## Identifiers -/

namespace Participants

variable {ι κ ς : Type} [DecidableEq ι] [DecidableEq κ] [DecidableEq ς]

/-- **No identifier is answered twice.** Generators of one configuration, whatever their dialects and
the policy of their blocks, draw from the table that the script of the configuration has created.
Callers call them for tenants, one call after another, and each call advances by single calls on the
database, in any order and with any failures. At any point the identifiers that have been answered
are pairwise distinct. -/
theorem identifiers_nodup (x : Participants ι κ ς) {s : Settings} (hs : s.Plain)
    (hx : ∀ k, ∃ d, Dialect.Usual d ∧ Generator.configure s d = .ok (x.generators k))
    {d : Dialect} (hd : d.Usual) {g : Generator} (hg : Generator.configure s d = .ok g)
    {db db' : Database} (hdb : db.Reachable)
    (hspares : ∀ c, Transaction.Spares g.counter.table (db.transaction? c))
    {id : Nat} (ht : db.transaction? id = none)
    (hscript : (Database.connection id).executeAll (g.createScript d) db = (.ok (), db'))
    {r r' : Allotment ι κ ς} (hr : r.Begins x db')
    (hrun : Relation.ReflTransGen (x.Step g.counter.table) r r') : r'.identifiers.Nodup := by
  obtain ⟨name, column, counter, optimizer, hname, hcolumn, hcounter, -, rfl⟩ :=
    Generator.of_configure hg
  obtain ⟨htable, hcol, -, -, hpos⟩ := Counter.of_define hcounter
  have hdraws : ∀ k, (x.generators k).Draws (name.render d) s.optimizerKind
      s.incrementSize.toInt := by
    intro k
    obtain ⟨e, he, hk⟩ := hx k
    exact Generator.draws_of_configure hs he hk hname d
  obtain ⟨hreachable, htransactions, hget⟩ := Database.created hd (hs.table name hname)
    (hs.column column hcolumn) htable hcol hdb ht hscript
  have hunwritten : db'.Unwritten counter.table := by
    refine ⟨fun table hgot => ?_, fun c => ?_⟩
    · cases hget.symm.trans hgot
      rfl
    · rw [htransactions c]
      exact hspares c
  have hapart : x.Apart counter.table s.optimizerKind s.incrementSize.toInt r :=
    Apart.begin hr (htable ▸ hdraws) hreachable hget rfl
      (Database.firstValue?_of_get? hreachable hget) hunwritten
  exact (hapart.run hpos (htable ▸ hdraws) hrun).nodup

/-- Nobody has called yet, and no session has observed anything. -/
def waiting (x : Participants ι κ ς) (db : Database) : Allotment ι κ ς where
  database := db
  journals _ := {}
  counts _ := 0
  optimizers k := (x.generators k).optimizer
  calls _ := .opening
  returned := []

omit [DecidableEq ι] [DecidableEq κ] [DecidableEq ς] in
theorem waiting_begins (x : Participants ι κ ς) (db : Database) : (x.waiting db).Begins x db :=
  ⟨rfl, rfl, rfl, rfl⟩

theorem run_calls (x : Participants ι κ ς) (name : String) (is : List ι)
    (r : Allotment ι κ ς) :
    Relation.ReflTransGen (x.Step name) r (is.foldl (fun r i => x.advance i r) r) := by
  induction is generalizing r with
  | nil => exact .refl
  | cons i is ih => exact (ih (x.advance i r)).head (.call i)

/-- Pools of three identifiers. -/
def threes : Settings := {
  tableName := "t"
  valueColumn := "v"
  incrementSize := 3
  optimizer := some .pooled }

/-- Their generator in a dialect. -/
def threesIn (d : Dialect) : Generator where
  counter := {
    name := ⟨none, none, ⟨"t", false⟩⟩
    table := "t"
    column := "v"
    initial := 1
    increment := 3
    numberType := .long
    selectText := Counter.selectStatement d "t" "v"
    updateText := Counter.updateStatement "t" "v"
    appliesIncrement := true }
  kind := .pooled
  optimizer := .pooled { increment := 3, increment_pos := by decide, initial := some 1 }

/-- Two callers with a generator each, one of which locks the row that it reads. -/
def pair : Participants Bool Bool Unit where
  generators locks := threesIn (if locks then .generic else Dialect.generic.lockless)
  loggers _ := {}
  generator i := i
  session _ := ()
  tenant _ := none

/-- A database with one connection. -/
def connected : Database := Database.after {} .connect

/-- The database on which the script of the generators has been executed. -/
def threesCreated : Database :=
  ((Database.connection 1).executeAll ((threesIn .generic).createScript .generic) connected).2

/-- Both have been answered. -/
def pairAnswered : Allotment Bool Bool Unit :=
  (List.replicate 19 true ++ List.replicate 10 false).foldl (fun r i => pair.advance i r)
    (pair.waiting threesCreated)

theorem threes_plain : threes.Plain := by
  have hname : threes.qualifiedName = .ok ⟨none, none, ⟨"t", false⟩⟩ := rfl
  have hcolumn : threes.columnName = .ok ⟨"v", false⟩ := rfl
  refine ⟨fun name h => ?_, fun column h => ?_⟩
  · cases hname.symm.trans h
    exact Callers.plain_table
  · cases hcolumn.symm.trans h
    exact Callers.plain_column

theorem threesCreated_eq : (Database.connection 1).executeAll
    ((threesIn .generic).createScript .generic) connected = (.ok (), threesCreated) := by
  rw [threesCreated]
  exact Database.executeAll_of_ok (by decide +kernel)

theorem connected_spares (c : Nat) : Transaction.Spares "t" (connected.transaction? c) := by
  intro x hx
  by_cases hc : c = 1
  · subst hc
    cases hx
  · rw [connected, Database.transaction?_after .connect hc] at hx
    cases hx

theorem identifiers_nodup_pair :
    pairAnswered.identifiers = [1, 5] ∧ pairAnswered.identifiers.Nodup := by
  have husual : Dialect.generic.Usual := Dialect.usual_of_mem List.mem_cons_self
  have hconfigured : ∀ k, ∃ d, Dialect.Usual d ∧
      Generator.configure threes d = .ok (pair.generators k) := by
    intro k
    cases k with
    | false => exact ⟨_, husual.lockless, rfl⟩
    | true => exact ⟨_, husual, rfl⟩
  have hconfigure : Generator.configure threes .generic = .ok (threesIn .generic) := rfl
  have hdb : connected.Reachable := Database.Reachable.new.after .connect
  have hfree : connected.transaction? 1 = none := rfl
  have hrun : Relation.ReflTransGen (pair.Step "t") (pair.waiting threesCreated) pairAnswered :=
    run_calls pair "t" _ _
  have hids : pairAnswered.identifiers = [1, 5] := by decide +kernel
  exact ⟨hids, identifiers_nodup pair threes_plain hconfigured husual hconfigure hdb connected_spares
    hfree threesCreated_eq (waiting_begins _ _) hrun⟩

end Participants

end CounterTable
