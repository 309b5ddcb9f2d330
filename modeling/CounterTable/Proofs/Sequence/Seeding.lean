import CounterTable.Proofs.Sequence.Configured
import CounterTable.Proofs.Store.Failures

/-!
# The first value of a counter

The statement that fills the table of a counter is written with the first value of the counter, and
reading it gives that value again: a sign is read apart from the digits behind it. The digits of the
least word are no word without their sign, and so the table cannot be filled with it.

* `Turn.insert_literal_of_free`, `Database.execute_insert_literal`: one value, inserted into a table
  of one column;
* `Database.execute_of_ofText_error`: a text that is not understood;
* `Counter.ofText_seed_of_define`: the statement of a counter;
* **`Counter.seed_stored`**: what the statement is read as, and what executing it stores;
* `Counter.least_unseeded`: the least word.
-/

namespace CounterTable

open CounterTable.Text

theorem Turn.insert_literal_of_free {t : Turn} {name column : String} {table : Table} {id : Nat}
    (h : t.storage.get? name = some table) (hf : table.Free id) (hc : table.columns = [column])
    (n : Int64) : insert id [] name [[.literal n]] t =
      (.ok (.count 1), t.setRows id name table (table.rows ++ [[n]])) := by
  have hnew : table.newRows name [] [[.literal n]] = .ok [[n]] := by
    rw [Table.newRows, hc]
    rfl
  rw [insert_of_free h hf, hnew]
  rfl

namespace Database

variable {db : Database} {id : Nat} {link : Link} {sql : String}

theorem execute_of_ofText_error {e : Error} (hl : db.links.get? id = some link)
    (h : Statement.ofText sql = .error e) : (connection id).execute sql db = (.error e, db) := by
  have hprepare : prepare id sql db = (.error e, db) := by simp only [prepare, hl, h]
  simp only [Connection.execute, Action.andThen, connection, hprepare]

/-- **A value is inserted** into a table of one column. -/
theorem execute_insert_literal {name column : String} {table : Table} {n : Int64}
    (hl : db.links.get? id = some link)
    (hsql : Statement.ofText sql = .ok (.insert name [[.literal n]]))
    (hg : db.storage.get? name = some table) (hf : table.Free id)
    (hc : table.columns = [column]) :
    ∃ db', (connection id).execute sql db = (.ok 1, db') ∧
      Turn.Written id name table (table.rows ++ [[n]]) ⟨db.storage, link.transaction⟩
        ⟨db'.storage, db'.transaction? id⟩ := by
  obtain ⟨hprepared, -, hexecute⟩ := calls_of_ofText hl hsql
  have hinsert := Turn.insert_literal_of_free (t := ⟨db.storage, link.transaction⟩) hg hf hc n
  have hwritten : Turn.Written id name table (table.rows ++ [[n]])
      ⟨db.storage, link.transaction⟩ _ := Turn.written_setRows hg _
  generalize hdb' : db.after (.call id (.prepare sql)) = db' at hprepared hexecute
  generalize hp : (⟨sql, .insert name [[.literal n]], []⟩ : Prepared) = p at hprepared
  have hexecuted : db'.executed id { link with prepared := some p } p =
      (.ok (.count 1), Turn.setRows ⟨db.storage, link.transaction⟩ id name table
        (table.rows ++ [[n]])) := by
    rw [← hinsert, executed, ← hdb', after_prepare hl hsql, ← hp]
    rfl
  have hanswer := update_answer hprepared (by rw [← hp]; rfl)
  have hafter := update_after hprepared
  rw [hexecuted] at hanswer hafter
  rw [← hp, if_neg (by exact Bool.false_ne_true)] at hafter
  refine ⟨_, hexecute.trans (Prod.ext hanswer hafter), ⟨hwritten.get?, ?_⟩⟩
  rw [← hwritten.transaction]
  exact (transaction?_settle ..).trans (if_pos rfl)

end Database

namespace Counter

variable {d : Dialect} {name : QualifiedName} {column : Identifier} {initial increment : Int64}
  {type : NumberType} {c : Counter}

/-- **The statement that fills a table** is the insertion of the first value, and is not understood if
this is the least word. -/
theorem ofText_seed_of_define (hname : name.Plain)
    (hc : define d name column initial increment type = .ok c) :
    Statement.ofText c.seedStatement =
      if initial = Int64.minValue then
        .error (.parse "not an integer literal: 9223372036854775808")
      else .ok (.insert c.table [[.literal initial]]) := by
  obtain ⟨htable, -, hinitial, -, -⟩ := of_define hc
  rw [ofText_seedStatement hname htable, hinitial]
  split
  · next hleast =>
    rw [hleast]
    rfl
  · rfl

/-- **The first value of a counter is stored.** For a table with a plain name, the statement that
fills it is read as the insertion of one row with one operand, which is the first value; on a table
that was just created with one column, executing it leaves that row alone in the table, locked if the
connection is in a transaction, and all other tables as they are. The least word is an exception: its
statement is not understood, and nothing is stored. -/
theorem seed_stored (hname : name.Plain) (hc : define d name column initial increment type = .ok c) :
    (initial = Int64.minValue → type = .long) ∧
    Statement.ofText c.seedStatement =
      (if initial = Int64.minValue then
        .error (.parse "not an integer literal: 9223372036854775808")
      else .ok (.insert c.table [[.literal initial]])) ∧
    ∀ (db : Database) (id : Nat) (link : Link) (header : String),
      db.links.get? id = some link → db.storage.get? c.table = some { columns := [header] } →
      if initial = Int64.minValue then
        (Database.connection id).execute c.seedStatement db =
          (.error (.parse "not an integer literal: 9223372036854775808"), db)
      else ∃ db', (Database.connection id).execute c.seedStatement db = (.ok 1, db') ∧
        db'.storage.get? c.table = some
          { columns := [header], rows := [[initial]]
            lockedBy? := link.transaction.map fun _ => id
            saved? := link.transaction.map fun _ => [] } ∧
        ∀ m, m ≠ c.table → db'.storage.get? m = db.storage.get? m := by
  have hcontains := (contains_of_define hc).2
  have htext := ofText_seed_of_define hname hc
  refine ⟨fun hleast => ?_, htext, fun db id link header hl hg => ?_⟩
  · rw [hleast] at hcontains
    cases type with
    | long => rfl
    | short => exact absurd hcontains (by decide)
    | integer => exact absurd hcontains (by decide)
  · split
    · next hleast =>
      rw [if_pos hleast] at htext
      exact Database.execute_of_ofText_error hl htext
    · next hne =>
      rw [if_neg hne] at htext
      obtain ⟨db', hexecute, hwritten⟩ :=
        Database.execute_insert_literal hl htext hg (.inl rfl) rfl
      refine ⟨db', hexecute, ?_, fun m hm => (hwritten.get? m).trans (if_neg hm)⟩
      rw [show db'.storage.get? c.table = _ from (hwritten.get? c.table).trans (if_pos rfl)]
      cases hx : link.transaction with
      | none => rfl
      | some x => rfl

/-- The value next to the least word is stored. -/
theorem seed_stored_edge :
    ∃ c, define .generic ⟨none, none, ⟨"t", false⟩⟩ ⟨"v", false⟩ (-9223372036854775807) 1 .long =
        .ok c ∧
      Statement.ofText c.seedStatement =
        .ok (.insert "t" [[.literal (-9223372036854775807)]]) ∧
      ∃ db', (Database.connection 1).execute c.seedStatement .ready = (.ok 1, db') ∧
        db'.storage.get? "t" =
          some { columns := ["v"], rows := [[-9223372036854775807]] } := by
  have hdefine : define .generic ⟨none, none, ⟨"t", false⟩⟩ ⟨"v", false⟩ (-9223372036854775807) 1
      .long = .ok _ := (if_neg (by decide)).trans (if_neg (by decide))
  obtain ⟨-, htext, hstored⟩ := seed_stored Callers.plain_table hdefine
  obtain ⟨db', hexecute, hrow, -⟩ := hstored .ready 1 _ "v" rfl rfl
  exact ⟨_, hdefine, htext, db', hexecute, hrow⟩

/-- **The least word** is a first value that counters over words can have, but their tables cannot be
filled with it. -/
theorem least_unseeded :
    ∃ c, define .generic ⟨none, none, ⟨"t", false⟩⟩ ⟨"v", false⟩ Int64.minValue 1 .long = .ok c ∧
      NumberType.long.Contains Int64.minValue.toInt ∧
      c.seedStatement = "insert into t values ( -9223372036854775808 )" ∧
      Statement.ofText c.seedStatement ≠ .ok (.insert "t" [[.literal Int64.minValue]]) ∧
      ((Database.connection 1).execute c.seedStatement .ready).1 =
        .error (.parse "not an integer literal: 9223372036854775808") := by
  have hdefine : define .generic ⟨none, none, ⟨"t", false⟩⟩ ⟨"v", false⟩ Int64.minValue 1 .long =
      .ok _ := (if_neg (by decide)).trans (if_neg (by decide))
  have htext := (ofText_seed_of_define Callers.plain_table hdefine).trans (if_pos rfl)
  refine ⟨_, hdefine, by decide, by decide +kernel, ?_, ?_⟩
  · rw [htext]
    rintro ⟨⟩
  · rw [Database.execute_of_ofText_error rfl htext]

end Counter

end CounterTable
