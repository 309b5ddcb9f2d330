import CounterTable.Proofs.Allocation.Steps
import CounterTable.Proofs.Sql.Counters
import CounterTable.Proofs.Store.Widths

/-!
# Races of allocations

Any number of callers allocate from one table, each with a counter and in a session of its own or
shared with others, while other connections do whatever does not write the table. Every allocation
that succeeds claims an interval: the values from the one that it answers on, as many as the step of
its counter. The intervals follow each other without a gap.

* `Consecutive`: intervals that follow each other;
* `Callers`, `Race`, `Race.Step`: who takes part, how far they are, and what can happen next;
* `Race.claims`: the intervals that have been claimed;
* `Race.Consistent`: the invariant of the race;
* **`Race.claims_consecutive`**: the claimed intervals in any race.
-/

namespace CounterTable

/-! ## Intervals -/

/-- Intervals, each by its first value and its length, that lead from one value to another: each
begins where the one before it ends. -/
def Consecutive (start : Int) : List (Int × Int) → Int → Prop
  | [], stop => start = stop
  | (v, d) :: rest, stop => v = start ∧ 0 < d ∧ Consecutive (v + d) rest stop

namespace Consecutive

variable {start stop : Int} {l : List (Int × Int)}

theorem le (h : Consecutive start l stop) : start ≤ stop := by
  induction l generalizing start with
  | nil =>
    have heq : start = stop := h
    omega
  | cons c l ih =>
    obtain ⟨hv, hd, hrest⟩ := h
    have hle := ih hrest
    omega

theorem append (h : Consecutive start l stop) {d : Int} (hd : 0 < d) :
    Consecutive start (l ++ [(stop, d)]) (stop + d) := by
  induction l generalizing start with
  | nil =>
    have heq : start = stop := h
    exact ⟨heq.symm, hd, rfl⟩
  | cons c l ih =>
    obtain ⟨hv, hc, hrest⟩ := h
    exact ⟨hv, hc, ih hrest⟩

/-- **The intervals leave no gap**, and reach no further than from the start to the stop. -/
theorem mem_iff (h : Consecutive start l stop) (n : Int) :
    (∃ c ∈ l, c.1 ≤ n ∧ n < c.1 + c.2) ↔ start ≤ n ∧ n < stop := by
  induction l generalizing start with
  | nil =>
    have heq : start = stop := h
    constructor
    · rintro ⟨c, hc, -⟩
      cases hc
    · intro hn
      omega
  | cons c l ih =>
    obtain ⟨hv, hd, hrest⟩ := h
    have hle := hrest.le
    rw [List.exists_mem_cons_iff, ih hrest]
    omega

/-- **No two intervals have a value in common**: each ends before all later ones begin. -/
theorem pairwise (h : Consecutive start l stop) :
    l.Pairwise fun c c' => ∀ n, ¬ ((c.1 ≤ n ∧ n < c.1 + c.2) ∧ c'.1 ≤ n ∧ n < c'.1 + c'.2) := by
  induction l generalizing start with
  | nil => exact .nil
  | cons c l ih =>
    obtain ⟨hv, hd, hrest⟩ := h
    refine List.pairwise_cons.mpr ⟨fun c' hc' n hn => ?_, ih hrest⟩
    have hin : c.1 + c.2 ≤ n ∧ n < stop := (hrest.mem_iff n).mp ⟨c', hc', hn.2⟩
    omega

end Consecutive

/-! ## Counters of one table -/

/-- **A counter whose names are plain** is over its table, in any dialect, locking or not, however it
is retried and however far it moves the row. -/
theorem Counter.Over.of_define {d : Dialect} (hd : d.Usual) {name : QualifiedName} (hname : name.Plain)
    {column : Identifier} (hcolumn : column.Plain) {initial increment : Int64} {type : NumberType}
    {c : Counter} (h : Counter.define d name column initial increment type = .ok c)
    (retry : RetryPolicy) (appliesIncrement : Bool) :
    ({ c with retry, appliesIncrement } : Counter).Over (name.render d) := by
  unfold Counter.define at h
  split at h
  · cases h
  · next hpos =>
    split at h
    · cases h
    · cases h
      refine ⟨?_, fun s hs => ?_, fun s hs => ?_⟩
      · have hone : 1 ≤ increment.toInt := Int64.le_iff_toInt_le.mp (Int64.not_lt.mp hpos)
        cases appliesIncrement with
        | false => exact Int.one_pos
        | true => exact Int.lt_of_lt_of_le Int.one_pos hone
      · obtain ⟨forUpdate, hselect⟩ := Counter.ofText_select hd hname hcolumn d
        rw [hselect] at hs
        exact ⟨column.text, some "id_val", forUpdate, (Except.ok.inj hs).symm⟩
      · rw [Counter.ofText_update hname hcolumn d] at hs
        exact ⟨column.text, column.text, (Except.ok.inj hs).symm⟩

/-! ## The values of a table -/

namespace Database

/-- The first value of a table, as a new connection sees it. -/
def firstValue? (db : Database) (name : String) : Option Int :=
  (db.columnValues name).toOption.bind first?

/-- No open transaction has changed the rows of the table, or has created or dropped it. -/
structure Unwritten (db : Database) (name : String) : Prop where
  rows : ∀ table, db.storage.get? name = some table → table.rows = table.committed
  spares : ∀ c, Transaction.Spares name (db.transaction? c)

variable {db : Database} {name : String} {table : Table} {ns : List Int64}

theorem exists_columnValues {v : Int} (h : db.firstValue? name = some v) :
    ∃ ns, db.columnValues name = .ok ns ∧ first? ns = some v := by
  unfold firstValue? at h
  cases hns : db.columnValues name with
  | error e =>
    rw [hns] at h
    cases h
  | ok ns =>
    rw [hns] at h
    exact ⟨ns, rfl, h⟩

theorem columnValues_eq (ha : db.Accounted) (hn : db.Numbered)
    (hg : db.storage.get? name = some table) :
    db.columnValues name = .ok (table.committed.filterMap List.head?) := by
  have hl : table.lockedBy? ≠ some 0 := by
    intro hl
    obtain ⟨x, hx, -⟩ := (ha.tables name table hg).2 0 hl
    obtain ⟨link, hlink, -⟩ := Option.bind_eq_some_iff.mp hx
    have hpos := (hn 0 (Option.isSome_of_eq_some hlink)).1
    omega
  simp only [columnValues, Storage.table_of_get? hg, Except.map,
    Table.visibleRows_eq_committed (ha.tables name table hg).1 hl]

theorem filterMap_head?_rowsOf (ns : List Int64) : (rowsOf ns).filterMap List.head? = ns := by
  simp [rowsOf, List.filterMap_map, Function.comp_def]

theorem committed_eq_rowsOf (h : Reachable db) (hg : db.storage.get? name = some table)
    (hcols : table.columns.length = 1) (hns : db.columnValues name = .ok ns) :
    table.committed = rowsOf ns := by
  rw [columnValues_eq h.accounted h.numbered hg, Except.ok.injEq] at hns
  have hfits := (h.rectangular.tables name table hg).committed
  rw [← hns, rowsOf, List.map_filterMap]
  have hcell : ∀ row ∈ table.committed, (row.head?.map fun n => [n]) = some row := by
    intro row hrow
    have hlen : row.length = 1 := by rw [hfits row hrow, hcols]
    obtain ⟨n, rfl⟩ := List.length_eq_one_iff.mp hlen
    rfl
  rw [List.filterMap_congr hcell, List.filterMap_some]

end Database

namespace Contest

variable {ι : Type} {name : String} {counter : ι → Counter} {places : ι → Counter.NextValue}
  {db : Database} {ns : List Int64}

theorem columnValues (h : Contest name counter places db ns) : db.columnValues name = .ok ns := by
  obtain ⟨table, hg, -, hcom, -⟩ := h.table
  rw [Database.columnValues_eq h.accounted h.numbered hg, hcom, Database.filterMap_head?_rowsOf]

theorem firstValue? (h : Contest name counter places db ns) : db.firstValue? name = first? ns := by
  rw [Database.firstValue?, h.columnValues]
  rfl

theorem start (hdb : db.Reachable) {table : Table} (hg : db.storage.get? name = some table)
    (hcols : table.columns.length = 1) (hns : db.columnValues name = .ok ns) (hne : ns ≠ [])
    (hu : db.Unwritten name) : Contest name counter (fun _ => .connecting) db ns where
  numbered := hdb.numbered
  accounted := hdb.accounted
  spares := hu.spares
  table := ⟨table, hg, hcols, Database.committed_eq_rowsOf hdb hg hcols hns,
    .inr (hu.rows table hg)⟩
  nonempty := hne
  stands _ := .connecting
  separate _ _ _ _ _ hi := nomatch hi

end Contest

/-! ## Callers -/

/-- Who takes part in a race: each caller makes its calls on a counter and in a session. -/
structure Callers (ι κ ς : Type) where
  counters : κ → Counter
  loggers : ς → Logger
  counter : ι → κ
  session : ι → ς

/-- How far a race is: the database, what each session has observed, how many allocations of each
counter have succeeded, and where the call of each caller stands. A caller makes one call after
another, and the results of those that have returned are kept in their order. -/
structure Race (ι κ ς : Type) where
  database : Database
  journals : ς → Journal
  counts : κ → UInt64
  places : ι → Counter.NextValue
  returned : List (ι × Except Error Integral)

/-- Nobody has begun to allocate, on this database. -/
structure Race.Begins {ι κ ς : Type} (r : Race ι κ ς) (db : Database) : Prop where
  database : r.database = db
  places : r.places = fun _ => .connecting
  returned : r.returned = []

namespace Callers

variable {ι κ ς : Type} [DecidableEq ι] [DecidableEq κ] [DecidableEq ς]

section Definitions

variable (x : Callers ι κ ς)

/-- The counter that the calls of a caller allocate from. -/
def counterOf (i : ι) : Counter := x.counters (x.counter i)

/-- The race after the next step of a caller. A caller whose call returns may make another one. -/
def advance (i : ι) (r : Race ι κ ς) : Race ι κ ς :=
  let (p, (database, journal), count) :=
    (x.counterOf i).nextValue Database.backend (x.loggers (x.session i)) (r.places i)
      ((r.database, r.journals (x.session i)), r.counts (x.counter i))
  { database
    journals := Function.update r.journals (x.session i) journal
    counts := Function.update r.counts (x.counter i) count
    places := Function.update r.places i (match p with
      | .running w => w
      | .finished _ => .connecting)
    returned := match p with
      | .running _ => r.returned
      | .finished result => r.returned ++ [(i, result)] }

/-- What can happen next: the step of a caller, or an event on a connection that no call uses and
that does not write the table. -/
inductive Step (name : String) (r : Race ι κ ς) : Race ι κ ς → Prop
  | call (i : ι) : Step name r (x.advance i r)
  | other (e : Event) (ho : ∀ i w, r.places i ≠ .connected (r.database.actor e) w)
      (hw : ¬ r.database.Writes e name) :
      Step name r { r with database := r.database.after e }

/-- The interval that a returned call has claimed: from the value that it answers on, as many values
as the step of its counter. -/
def claim? : ι × Except Error Integral → Option (Int × Int)
  | (i, .ok v) => some (v.val, (x.counterOf i).step)
  | (_, .error _) => none

/-- The intervals that have been claimed, in the order of their commits. -/
def claims (r : Race ι κ ς) : List (Int × Int) := r.returned.filterMap x.claim?

/-- What a step does to the values of the table: only the return of a call that succeeds changes
them, and then it moves the first one up from the value that the call answers. -/
inductive Effect (name : String) (r r' : Race ι κ ς) : Prop
  | silent (hr : r'.returned = r.returned)
      (hv : r'.database.columnValues name = r.database.columnValues name)
  | failed (i : ι) (e : Error) (hr : r'.returned = r.returned ++ [(i, .error e)])
      (hv : r'.database.columnValues name = r.database.columnValues name)
  | succeeded (i : ι) (v : Integral) (hr : r'.returned = r.returned ++ [(i, .ok v)])
      (before : r.database.firstValue? name = some v.val)
      (after : r'.database.firstValue? name = some (v.val + (x.counterOf i).step))
      (hlt : v.val < v.val + (x.counterOf i).step)

/-- The invariant of a race that began at the value `start`: the claimed intervals lead from there
to the first value of the table. -/
def Consistent (name : String) (start : Int) (r : Race ι κ ς) : Prop :=
  ∃ ns v, Contest name x.counterOf r.places r.database ns ∧ first? ns = some v ∧
    Consecutive start (x.claims r) v

end Definitions

variable {x : Callers ι κ ς} {name : String} {start : Int} {r r' : Race ι κ ς}

omit [DecidableEq ι] [DecidableEq κ] [DecidableEq ς] in
theorem claims_append (i : ι) (result : Except Error Integral)
    (h : r'.returned = r.returned ++ [(i, result)]) :
    x.claims r' = x.claims r ++ (x.claim? (i, result)).toList := by
  rw [claims, h, List.filterMap_append]
  cases hc : x.claim? (i, result) <;> simp [claims, hc]

theorem advance_eq (x : Callers ι κ ς) (i : ι) (r : Race ι κ ς) :
    let step := (x.counterOf i).unobserved Database.backend (r.places i) r.database
    (x.advance i r).database = step.2 ∧
      (x.advance i r).places = Function.update r.places i (match step.1 with
        | .running w => w
        | .finished _ => .connecting) ∧
      (x.advance i r).returned = match step.1 with
        | .running _ => r.returned
        | .finished result => r.returned ++ [(i, result)] := by
  intro step
  obtain ⟨h₁, h₂⟩ := (x.counterOf i).nextValue_projects Database.backend (x.loggers (x.session i))
    (r.places i) ((r.database, r.journals (x.session i)), r.counts (x.counter i))
  change _ = step.1 at h₁
  change _ = step.2 at h₂
  rw [← h₁, ← h₂]
  exact ⟨rfl, rfl, rfl⟩

/-- **Every step of a caller** keeps the race consistent. -/
theorem Consistent.advance (h : x.Consistent name start r)
    (hover : ∀ k, (x.counters k).Over name) (i : ι) :
    x.Consistent name start (x.advance i r) ∧ x.Effect name r (x.advance i r) := by
  obtain ⟨ns, v, hcontest, hfirst, hclaims⟩ := h
  have hstep := hcontest.step (i := i) (hover (x.counter i))
  obtain ⟨hdb, hplaces, hreturned⟩ := advance_eq x i r
  rcases hs : (x.counterOf i).unobserved Database.backend (r.places i) r.database with ⟨p, db⟩
  rw [hs] at hstep hdb hplaces hreturned
  rcases p with w | e | current
  · have hcontest' : Contest name x.counterOf (x.advance i r).places (x.advance i r).database ns := by
      rw [hplaces, hdb]
      exact hstep
    have hsame : x.claims (x.advance i r) = x.claims r := by rw [claims, hreturned, claims]
    refine ⟨⟨ns, v, hcontest', hfirst, hsame ▸ hclaims⟩, .silent hreturned ?_⟩
    rw [hcontest'.columnValues, hcontest.columnValues]
  · have hcontest' : Contest name x.counterOf (x.advance i r).places (x.advance i r).database ns := by
      rw [hplaces, hdb]
      exact hstep
    have hsame : x.claims (x.advance i r) = x.claims r := by
      rw [claims_append i (.error e) hreturned]
      exact List.append_nil _
    refine ⟨⟨ns, v, hcontest', hfirst, hsame ▸ hclaims⟩, .failed i e hreturned ?_⟩
    rw [hcontest'.columnValues, hcontest.columnValues]
  · obtain ⟨w, hhead, hw, hmoved⟩ := hstep
    have hcontest' : Contest name x.counterOf (x.advance i r).places (x.advance i r).database
        (replaced current.word w ns) := by
      rw [hplaces, hdb]
      exact hmoved
    have hv : v = current.val := by
      rw [first?, hhead, Option.map_some, Option.some.injEq, Integral.toInt_word] at hfirst
      exact hfirst.symm
    have hfirst' : first? (replaced current.word w ns) =
        some (current.val + (x.counterOf i).step) := by
      rw [first?, head?_replaced hhead, Option.map_some, hw]
    have hpos : 0 < (x.counterOf i).step := (hover (x.counter i)).step_pos
    have hmore : x.claims (x.advance i r) = x.claims r ++ [(v, (x.counterOf i).step)] := by
      rw [claims_append i (.ok current) hreturned, hv]
      rfl
    refine ⟨⟨_, _, hcontest', hfirst', ?_⟩, .succeeded i current hreturned ?_ ?_ (by omega)⟩
    · rw [hmore, ← hv]
      exact hclaims.append hpos
    · rw [hcontest.firstValue?, hfirst, hv]
    · rw [hcontest'.firstValue?, hfirst']

/-- **Every step of the race** keeps it consistent. -/
theorem Consistent.step (h : x.Consistent name start r) (hover : ∀ k, (x.counters k).Over name)
    (hs : x.Step name r r') : x.Consistent name start r' ∧ x.Effect name r r' := by
  cases hs with
  | call i => exact h.advance hover i
  | other e ho hw =>
    obtain ⟨ns, v, hcontest, hfirst, hclaims⟩ := h
    have hcontest' := hcontest.environment e ho hw
    refine ⟨⟨ns, v, hcontest', hfirst, hclaims⟩, .silent rfl ?_⟩
    rw [hcontest'.columnValues, hcontest.columnValues]

theorem Consistent.run (h : x.Consistent name start r) (hover : ∀ k, (x.counters k).Over name)
    (hrun : Relation.ReflTransGen (x.Step name) r r') : x.Consistent name start r' := by
  induction hrun with
  | refl => exact h
  | tail _ hs ih => exact (ih.step hover hs).1

omit [DecidableEq ι] [DecidableEq κ] [DecidableEq ς] in
theorem Consistent.begin {db : Database} (hr : r.Begins db) (hdb : db.Reachable) {table : Table}
    (hg : db.storage.get? name = some table) (hcols : table.columns.length = 1)
    (hv : db.firstValue? name = some start) (hu : db.Unwritten name) : x.Consistent name start r := by
  obtain ⟨ns, hns, hfirst⟩ := Database.exists_columnValues hv
  have hne : ns ≠ [] := by
    rintro rfl
    cases hfirst
  refine ⟨ns, start, ?_, hfirst, ?_⟩
  · rw [hr.places, hr.database]
    exact Contest.start hdb hg hcols hns hne hu
  · rw [claims, hr.returned]
    rfl

/-- **The claimed intervals are consecutive.** Callers of counters over a table of one column race
for its first value, whatever other rows it has. At any point the intervals that they have claimed
lead from the value at the beginning to the first value of the table, no two of them have a value in
common, and they leave no gap; and what happens next changes the first value only if it is the return
of a call that succeeds, and then moves it up. -/
theorem claims_consecutive (x : Callers ι κ ς) (hover : ∀ k, (x.counters k).Over name)
    {db : Database} (hdb : db.Reachable) {table : Table} (hg : db.storage.get? name = some table)
    (hcols : table.columns.length = 1) (hv : db.firstValue? name = some start)
    (hu : db.Unwritten name) (hr : r.Begins db)
    (hrun : Relation.ReflTransGen (x.Step name) r r') :
    ∃ stop, r'.database.firstValue? name = some stop ∧ Consecutive start (x.claims r') stop ∧
      ((x.claims r').Pairwise fun c c' =>
        ∀ n, ¬ ((c.1 ≤ n ∧ n < c.1 + c.2) ∧ c'.1 ≤ n ∧ n < c'.1 + c'.2)) ∧
      (∀ n, (∃ c ∈ x.claims r', c.1 ≤ n ∧ n < c.1 + c.2) ↔ start ≤ n ∧ n < stop) ∧
      ∀ r'', x.Step name r' r'' → x.Effect name r' r'' := by
  have h := (Consistent.begin (x := x) hr hdb hg hcols hv hu).run hover hrun
  obtain ⟨ns, stop, hcontest, hfirst, hclaims⟩ := h
  refine ⟨stop, ?_, hclaims, hclaims.pairwise, hclaims.mem_iff, fun r'' hs => ?_⟩
  · rw [hcontest.firstValue?, hfirst]
  · exact (Consistent.step ⟨ns, stop, hcontest, hfirst, hclaims⟩ hover hs).2

/-- The value column of a table with one row. -/
def valued : Database := (Database.ready.after (.call 1 .update)).after (.disconnect 1)

/-- A counter over this table, in a dialect. -/
def rival (d : Dialect) (increment : Int64) : Counter where
  name := ⟨none, none, ⟨"t", false⟩⟩
  table := "t"
  column := "v"
  initial := 1
  increment
  numberType := .long
  selectText := Counter.selectStatement d "t" "v"
  updateText := Counter.updateStatement "t" "v"
  appliesIncrement := true

/-- Two callers, one of whom locks the row that it reads. -/
def rivals : Callers Bool Bool Unit where
  counters locks := if locks then rival .generic 3 else rival Dialect.generic.lockless 2
  loggers _ := {}
  counter i := i
  session _ := ()

theorem plain_table : QualifiedName.Plain ⟨none, none, ⟨"t", false⟩⟩ := by
  intro i hi
  cases List.mem_singleton.mp hi
  exact ⟨rfl, by decide, by decide +kernel⟩

theorem plain_column : Identifier.Plain ⟨"v", false⟩ := ⟨rfl, by decide, by decide +kernel⟩

theorem rivals_over (k : Bool) : (rivals.counters k).Over "t" := by
  have husual : Dialect.generic.Usual := Dialect.usual_of_mem List.mem_cons_self
  have hdefine : ∀ d : Dialect, ∀ increment : Int64, 1 ≤ increment →
      Counter.define d ⟨none, none, ⟨"t", false⟩⟩ ⟨"v", false⟩ 1 increment .long =
        .ok { rival d increment with appliesIncrement := false } := by
    intro d increment h
    exact (if_neg (Int64.not_lt.mpr h)).trans (if_neg (by decide))
  cases k with
  | false =>
    exact .of_define husual.lockless plain_table plain_column (hdefine _ 2 (by decide)) .unbounded
      true
  | true =>
    exact .of_define husual plain_table plain_column (hdefine _ 3 (by decide)) .unbounded true

/-- Neither of them has begun to allocate. -/
def rivalsWaiting : Race Bool Bool Unit where
  database := valued
  journals _ := {}
  counts _ := 0
  places _ := .connecting
  returned := []

theorem run_calls (x : Callers ι κ ς) (name : String) (is : List ι) (r : Race ι κ ς) :
    Relation.ReflTransGen (x.Step name) r (is.foldl (fun r i => x.advance i r) r) := by
  induction is generalizing r with
  | nil => exact .refl
  | cons i is ih => exact (ih (x.advance i r)).head (.call i)

/-- Who takes the next step: the caller that locks nothing reads the row first, the other one reads
and moves it, and then the first one loses its attempt and makes another one. -/
def rivalSteps : List Bool :=
  List.replicate 4 false ++ List.replicate 9 true ++ List.replicate 11 false

/-- Both calls have returned. -/
def rivalsDone : Race Bool Bool Unit :=
  rivalSteps.foldl (fun r i => rivals.advance i r) rivalsWaiting

/-- Both rivals have returned a value, and the intervals that they claim follow each other. -/
theorem claims_consecutive_rivals :
    rivals.claims rivalsDone = [(5, 3), (8, 2)] ∧
      rivalsDone.database.firstValue? "t" = some 10 ∧
      Consecutive 5 (rivals.claims rivalsDone) 10 := by
  have hdb : valued.Reachable := (Database.ready_reachable.after (.call 1 .update)).after _
  have hunwritten : valued.Unwritten "t" := by
    refine ⟨fun table h => ?_, fun c x hx => ?_⟩
    · cases h
      rfl
    · cases hx
  have hget : valued.storage.get? "t" = some ⟨["v"], [[5]], none, none⟩ := rfl
  have hstart : valued.firstValue? "t" = some 5 := rfl
  have hbegins : rivalsWaiting.Begins valued := ⟨rfl, rfl, rfl⟩
  have hrun : Relation.ReflTransGen (rivals.Step "t") rivalsWaiting rivalsDone :=
    run_calls rivals "t" _ _
  have hdone : rivals.claims rivalsDone = [(5, 3), (8, 2)] ∧
      rivalsDone.database.firstValue? "t" = some 10 := by decide +kernel
  obtain ⟨hclaimed, hvalue⟩ := hdone
  have h := claims_consecutive rivals rivals_over hdb hget rfl hstart hunwritten hbegins hrun
  rw [hvalue, hclaimed] at h
  obtain ⟨stop, hfirst, hclaims, -⟩ := h
  cases hfirst
  refine ⟨hclaimed, hvalue, ?_⟩
  rw [hclaimed]
  exact hclaims

end Callers

end CounterTable
