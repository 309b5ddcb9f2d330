import CounterTable.Proofs.Store.Histories
import Mathlib.Data.List.Nodup

/-!
# Scripts

What a script of statements without parameters makes of a storage, on a connection that is open and
in no transaction. The storage is looked at as the list of its tables, whose order does not matter.

* `Storage.entry`, `Storage.get?_of_perm`, `Storage.tables_put`, `Storage.tables_erase`: the table of
  a name among others;
* `Database.Leads`: a script that succeeds, and what it makes of the tables;
* `Database.Leads.single`, `Database.Leads.append`: one statement, and one script after another;
* **`Database.exists_leads`**: the same for each of a list.
-/

namespace CounterTable

/-! ## One table among others -/

namespace Storage

/-- The table of a name, if there is one, among the tables of a storage. -/
def entry (name : String) (held : Option Table) : List (String × Table) :=
  held.toList.map (name, ·)

theorem names_entry (name : String) (held : Option Table) :
    ((entry name held).map Prod.fst).Sublist [name] := by
  cases held with
  | none => exact List.nil_sublist _
  | some t => exact .refl _

variable {s : Storage} {name : String} {held : Option Table} {t : Table} {l : List (String × Table)}

theorem get?_of_perm (h : s.tables.Perm (entry name (some t) ++ l)) (hn : name ∉ l.map Prod.fst) :
    s.get? name = some t := by
  have hmem : (name, t) ∈ s.tables := h.mem_iff.mpr List.mem_cons_self
  have hsome : (s.get? name).isSome := by
    rw [get?, Keyed.get?, List.lookup_isSome_iff]
    exact ⟨(name, t), hmem, beq_self_eq_true name⟩
  obtain ⟨u, hu⟩ := Option.isSome_iff_exists.mp hsome
  obtain ⟨before, after, hsplit, -⟩ := List.lookup_eq_some_iff.mp hu
  have hmem' : (name, u) ∈ entry name (some t) ++ l := by
    rw [← h.mem_iff, hsplit]
    exact List.mem_append_right _ List.mem_cons_self
  rcases List.mem_cons.mp hmem' with heq | hl
  · cases heq
    exact hu
  · exact absurd (List.mem_map_of_mem hl) hn

theorem get?_of_mem (h : s.tables.Perm l) (hn : (l.map Prod.fst).Nodup) (ht : (name, t) ∈ l) :
    s.get? name = some t := by
  obtain ⟨before, after, rfl⟩ := List.append_of_mem ht
  rw [List.map_append, List.map_cons, List.nodup_middle, List.nodup_cons, ← List.map_append] at hn
  exact get?_of_perm (h.trans List.perm_middle) hn.1

theorem get?_of_perm_none (h : s.tables.Perm l) (hn : name ∉ l.map Prod.fst) :
    s.get? name = none := by
  rw [get?, Keyed.get?, List.lookup_eq_none_iff]
  intro p hp
  have hmem := List.mem_map_of_mem (f := Prod.fst) (h.mem_iff.mp hp)
  exact bne_iff_ne.mpr fun he => hn (he ▸ hmem)

theorem tables_erase (h : s.tables.Perm (entry name held ++ l)) (hn : name ∉ l.map Prod.fst) :
    (s.tables.erase name).Perm l := by
  have hkept : l.filter (·.1 != name) = l := List.filter_eq_self.mpr fun p hp =>
    bne_iff_ne.mpr fun he => hn (he ▸ List.mem_map_of_mem hp)
  have hgone : (entry name held).filter (·.1 != name) = [] := by
    cases held <;> simp [entry]
  have hfilter := h.filter (·.1 != name)
  rw [List.filter_append, hgone, hkept, List.nil_append] at hfilter
  exact hfilter

theorem tables_put (h : s.tables.Perm (entry name held ++ l)) (hn : name ∉ l.map Prod.fst)
    (t : Table) : (s.put name t).tables.Perm (entry name (some t) ++ l) :=
  (tables_erase h hn).cons (name, t)

end Storage

/-! ## Statements on the storage -/

namespace Turn

variable {s : Storage} {name : String} {t : Table}

theorem createTable_of_none (h : s.get? name = none) (columns : List String)
    (ifNotExists : Bool) : createTable name columns ifNotExists ⟨s, none⟩ =
      (.ok (.count 0), ⟨s.put name { columns }, none⟩) := by
  unfold createTable
  rw [Storage.contains_eq, h, Storage.create_of_get?_none h]
  rfl

theorem dropTable_of_unlocked (id : Nat) (h : s.get? name = some t) (hl : t.lockedBy? = none)
    (ifExists : Bool) : dropTable id name ifExists ⟨s, none⟩ =
      (.ok (.count 0), ⟨⟨s.tables.erase name⟩, none⟩) := by
  have hclaim : claim id name ⟨s, none⟩ = (.ok (), ⟨s, none⟩) := by
    simp only [claim, Storage.acquire_of_free h hl, Option.isSome_none, Bool.false_eq_true,
      if_false]
  unfold dropTable
  rw [Storage.contains_eq, h, hclaim]
  simp only [Storage.drop_of_get? h]
  rfl

end Turn

/-! ## Scripts on a connection -/

namespace Database

variable {db : Database} {id : Nat} {s s' s'' : Storage}

/-- The connection is open and in no transaction. -/
def Idle (db : Database) (id : Nat) : Prop :=
  ∃ link, db.links.get? id = some link ∧ link.transaction = none

/-- The script succeeds on a connection that is idle, which it is again then, and makes one storage
of another. -/
def Leads (id : Nat) (script : List String) (s s' : Storage) : Prop :=
  ∀ db : Database, db.Idle id → db.storage = s →
    ∃ db', (connection id).executeAll script db = (.ok (), db') ∧ db'.Idle id ∧ db'.storage = s'

namespace Leads

theorem nil (id : Nat) (s : Storage) : Leads id [] s s := fun db hid hs => ⟨db, rfl, hid, hs⟩

/-- **One statement** that is understood and succeeds. -/
theorem single {sql : String} {statement : Statement} {n : Nat}
    (hsql : Statement.ofText sql = .ok statement) (hrows : statement.returnsRows = false)
    (ht : Turn.execute id [] statement ⟨s, none⟩ = (.ok (.count n), ⟨s', none⟩)) :
    Leads id [sql] s s' := by
  rintro db ⟨link, hl, hx⟩ rfl
  have hprepare := prepare_of_ofText hl hsql
  generalize hdb' : ({ db with links := db.links.set id { link with
    prepared := some ⟨sql, statement, []⟩ } } : Database) = db' at hprepare
  have hprepared : db'.prepared? id =
      .ok ({ link with prepared := some ⟨sql, statement, []⟩ }, ⟨sql, statement, []⟩) := by
    rw [← hdb', prepared?_eq_ok]
    exact ⟨by simp, rfl⟩
  have hexecuted : db'.executed id { link with prepared := some ⟨sql, statement, []⟩ }
      ⟨sql, statement, []⟩ = (.ok (.count n), ⟨s', none⟩) := by
    rw [← ht, executed, ← hdb', hx]
  have hanswer := update_answer hprepared hrows
  have hafter := update_after hprepared
  rw [hexecuted] at hanswer hafter
  rw [hrows, if_neg Bool.false_ne_true] at hafter
  refine ⟨(update id db').2, ?_, ⟨{ link with
    transaction := none, prepared := some ⟨sql, statement, []⟩ }, ?_, rfl⟩,
    congrArg Database.storage hafter⟩
  · change (((prepare id sql).andThen fun _ => update id).andThen fun _ => .succeed ()) db = _
    have hupdate : update id db' = (.ok n, (update id db').2) := Prod.ext hanswer rfl
    simp only [Action.andThen, hprepare]
    rw [hupdate]
    rfl
  · rw [hafter, links_settle, if_pos rfl]

theorem append {xs ys : List String} (h : Leads id xs s s') (h' : Leads id ys s' s'') :
    Leads id (xs ++ ys) s s'' := by
  have hrun : ∀ db, (connection id).executeAll (xs ++ ys) db =
      ((connection id).executeAll xs).andThen (fun _ => (connection id).executeAll ys) db := by
    clear h h'
    induction xs with
    | nil => exact fun db => rfl
    | cons x xs ih =>
      intro db
      simp only [List.cons_append, Connection.executeAll, Action.andThen, ih]
      rcases (connection id).execute x db with ⟨e | n, db₁⟩ <;> rfl
  intro db hid hs
  obtain ⟨db₁, hxs, hid₁, hs₁⟩ := h db hid hs
  obtain ⟨db₂, hys, hid₂, hs₂⟩ := h' db₁ hid₁ hs₁
  refine ⟨db₂, ?_, hid₂, hs₂⟩
  rw [hrun db, Action.andThen, hxs]
  exact hys

end Leads

/-- **Statements for each of a list.** Each one makes the table `q a` of the table `p a` under a
name, where either may be missing, and leaves those of other names alone. If the names are different,
the statements one after another do so for all of them. -/
theorem exists_leads {α : Type} {text name : α → String} {p q : α → Option Table}
    {as : List α} {l : List (String × Table)}
    (hstep : ∀ a ∈ as, ∀ (s : Storage) (l : List (String × Table)), name a ∉ l.map Prod.fst →
      s.tables.Perm (Storage.entry (name a) (p a) ++ l) →
        ∃ s', Leads id [text a] s s' ∧ s'.tables.Perm (Storage.entry (name a) (q a) ++ l))
    (hnames : (l.map Prod.fst ++ as.map name).Nodup)
    (hs : s.tables.Perm (l ++ as.flatMap fun a => Storage.entry (name a) (p a))) :
    ∃ s', Leads id (as.map text) s s' ∧
      s'.tables.Perm (l ++ as.flatMap fun a => Storage.entry (name a) (q a)) := by
  induction as generalizing l s with
  | nil => exact ⟨s, .nil id s, hs⟩
  | cons a as ih =>
    rw [List.flatMap_cons] at hs ⊢
    have hnew : name a ∉ (l ++ as.flatMap fun a => Storage.entry (name a) (p a)).map
        Prod.fst := by
      rw [List.map_append, List.mem_append, not_or, List.map_flatMap]
      rw [List.map_cons, List.nodup_middle, List.nodup_cons, List.mem_append, not_or] at hnames
      refine ⟨hnames.1.1, fun hmem => ?_⟩
      obtain ⟨b, hb, hmem⟩ := List.mem_flatMap.mp hmem
      have hname := List.mem_singleton.mp ((Storage.names_entry _ _).subset hmem)
      exact hnames.1.2 (hname ▸ List.mem_map_of_mem hb)
    obtain ⟨s₁, hlead, hs₁⟩ := hstep a List.mem_cons_self s _ hnew
      (hs.trans (List.perm_append_comm_assoc ..))
    have hnames' : ((l ++ Storage.entry (name a) (q a)).map Prod.fst ++ as.map name).Nodup := by
      refine hnames.sublist ?_
      rw [List.map_append, List.append_assoc, List.map_cons]
      exact (((Storage.names_entry _ _).append_right _).append_left _)
    -- The table that is made joins those that the rest of the list leaves alone.
    have hs₁' : s₁.tables.Perm ((l ++ Storage.entry (name a) (q a)) ++
        as.flatMap fun a => Storage.entry (name a) (p a)) := by
      rw [List.append_assoc]
      exact hs₁.trans (List.perm_append_comm_assoc ..)
    obtain ⟨s₂, hrest, hs₂⟩ := ih (fun b hb => hstep b (List.mem_cons_of_mem a hb)) hnames' hs₁'
    rw [List.append_assoc] at hs₂
    exact ⟨s₂, hlead.append hrest, hs₂⟩

end Database

end CounterTable
