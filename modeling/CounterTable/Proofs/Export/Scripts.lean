import CounterTable.Proofs.Export.Apart
import CounterTable.Proofs.Store.Scripts

/-!
# The scripts of a registry

The create script of a registry makes its tables on a database without tables, each with the first
value of the counter that was the first of its name, and the drop script takes them all away again.
The names have to be plain, and none of the first values can be the least word, which no statement
spells.

* `Counter.Portable`, `Settings.Portable`: what the scripts are understood of;
* `Counter.Portable.leads_create`, `Counter.Portable.leads_seed`, `Counter.Portable.leads_drop`: the
  statements of one counter;
* `Registry.Lists.exists_created`, `Registry.Lists.exists_dropped`: the scripts;
* **`Registry.scripts_succeed`**: the scripts of generators.
-/

namespace CounterTable

/-! ## One counter -/

namespace Counter

/-- A counter with plain names, which are written alike in all dialects, and with a first value that
statements can spell. -/
structure Portable (c : Counter) : Prop where
  name : c.name.Plain
  whole : c.name.catalog.isSome → c.name.schema.isSome
  table : ∀ d, c.table = c.name.render d
  column : ∃ column : Identifier, column.Plain ∧ c.column = column.text
  initial : Int64.minValue < c.initial

/-- The table of a counter as it is created. -/
def empty (c : Counter) : Table := { columns := [c.column] }

/-- The table of a counter with its first value. -/
def filled (c : Counter) : Table := { columns := [c.column], rows := [[c.initial]] }

theorem createText_exported (c : Counter) (d : Dialect) : c.exported.createText d =
    s!"{d.createTable} {c.name.render d} ( {c.column} {d.typeName .long} )" := by
  simp only [ExportTable.createText, exported, List.map_singleton, String.intercalate_singleton,
    toString, String.append_assoc]

namespace Portable

variable {c : Counter} {d : Dialect}

theorem ofText_create (h : c.Portable) (hd : d ∈ Dialect.all) :
    Statement.ofText (c.exported.createText d) = .ok (.createTable c.table [c.column] false) := by
  obtain ⟨column, hplain, hcolumn⟩ := h.column
  rw [createText_exported, h.table d, hcolumn]
  have hcreate := Counter.ofText_create (Dialect.usual_of_mem hd) h.name hplain d
  rwa [hplain.render d] at hcreate

/-- **The table is created**, empty. -/
theorem leads_create (h : c.Portable) (hd : d ∈ Dialect.all) (id : Nat) {s : Storage}
    {l : List (String × Table)} (hn : c.table ∉ l.map Prod.fst)
    (hs : s.tables.Perm (Storage.entry c.table none ++ l)) :
    ∃ s', Database.Leads id [c.exported.createText d] s s' ∧
      s'.tables.Perm (Storage.entry c.table (some c.empty) ++ l) :=
  ⟨_, .single (h.ofText_create hd) rfl
    (Turn.createTable_of_none (Storage.get?_of_perm_none hs hn) _ _), Storage.tables_put hs hn _⟩

/-- **The table is filled.** -/
theorem leads_seed (h : c.Portable) (id : Nat) {s : Storage}
    {l : List (String × Table)} (hn : c.table ∉ l.map Prod.fst)
    (hs : s.tables.Perm (Storage.entry c.table (some c.empty) ++ l)) :
    ∃ s', Database.Leads id [c.seedStatement] s s' ∧
      s'.tables.Perm (Storage.entry c.table (some c.filled) ++ l) := by
  have hseed := ofText_seed_of_lt h.name (h.table .generic) h.initial
  have hinsert := Turn.insert_literal id (Storage.get?_of_perm hs hn) c.initial
  exact ⟨_, .single hseed rfl hinsert, Storage.tables_put hs hn c.filled⟩

/-- **The table is dropped.** -/
theorem leads_drop (h : c.Portable) (hd : d ∈ Dialect.all) (id : Nat) {s : Storage}
    {l : List (String × Table)} (hn : c.table ∉ l.map Prod.fst)
    (hs : s.tables.Perm (Storage.entry c.table (some c.filled) ++ l)) :
    ∃ s', Database.Leads id [c.exported.dropText d] s s' ∧
      s'.tables.Perm (Storage.entry c.table none ++ l) := by
  obtain ⟨ifExists, hdrop⟩ := Counter.ofText_drop (Dialect.drops_of_mem hd) (h.name.legible d)
  rw [← h.table d] at hdrop
  have hexported : c.exported.dropText d = d.dropTableText c.table := by rw [h.table d]; rfl
  rw [hexported]
  exact ⟨_, .single hdrop rfl (Turn.dropTable_of_unlocked id (Storage.get?_of_perm hs hn) rfl _),
    Storage.tables_erase hs hn⟩

end Portable

theorem Portable.nodup_tables {cs : List Counter} (hcs : ∀ c ∈ cs, c.Portable)
    (h : (cs.map Counter.name).Nodup) : (cs.map Counter.table).Nodup := by
  have htables : cs.map Counter.table =
      (cs.map Counter.name).map (QualifiedName.render .generic) := by
    rw [List.map_map]
    exact List.map_congr_left fun c hc => (hcs c hc).table .generic
  rw [htables]
  refine h.map_on fun a ha b hb hab => ?_
  obtain ⟨c, hc, rfl⟩ := List.mem_map.mp ha
  obtain ⟨c', hc', rfl⟩ := List.mem_map.mp hb
  exact (hcs c hc).name.eq_of_render (hcs c' hc').name (hcs c hc).whole (hcs c' hc').whole
    (Dialect.closingQuote?_of_mem List.mem_cons_self) hab

end Counter

/-! ## The scripts -/

namespace Counter

variable {cs : List Counter} {d : Dialect} {s : Storage}

theorem flatMap_entry (f : Counter → Table) (cs : List Counter) :
    (cs.flatMap fun c => Storage.entry c.table (some (f c))) = cs.map fun c => (c.table, f c) :=
  List.map_eq_flatMap.symm

theorem flatMap_entry_none (cs : List Counter) :
    (cs.flatMap fun c => Storage.entry c.table none) = [] :=
  List.flatMap_eq_nil_iff.mpr fun _ _ => rfl

/-- **All tables are created**, empty. -/
theorem exists_creates (hcs : ∀ c ∈ cs, c.Portable) (hn : (cs.map Counter.table).Nodup)
    (hd : d ∈ Dialect.all) (id : Nat) (hs : s.tables = []) :
    ∃ s', Database.Leads id (cs.map fun c => c.exported.createText d) s s' ∧
      s'.tables.Perm (cs.map fun c => (c.table, c.empty)) := by
  have hstart : s.tables.Perm ([] ++ cs.flatMap fun c => Storage.entry c.table none) := by
    rw [hs, flatMap_entry_none]
    exact .refl _
  have hall := Database.exists_leads (l := []) (q := fun c => some c.empty)
    (fun c hc s l => (hcs c hc).leads_create hd id) hn hstart
  rwa [List.nil_append, flatMap_entry] at hall

/-- **All tables are filled.** -/
theorem exists_seeds (hcs : ∀ c ∈ cs, c.Portable) (hn : (cs.map Counter.table).Nodup) (id : Nat)
    (hs : s.tables.Perm (cs.map fun c => (c.table, c.empty))) :
    ∃ s', Database.Leads id (cs.map seedStatement) s s' ∧
      s'.tables.Perm (cs.map fun c => (c.table, c.filled)) := by
  rw [← flatMap_entry] at hs
  have hall := Database.exists_leads (l := []) (q := fun c => some c.filled)
    (fun c hc s l => (hcs c hc).leads_seed id) hn hs
  rwa [List.nil_append, flatMap_entry] at hall

/-- **All tables are dropped.** -/
theorem exists_drops (hcs : ∀ c ∈ cs, c.Portable) (hn : (cs.map Counter.table).Nodup)
    (hd : d ∈ Dialect.all) (id : Nat) (hs : s.tables.Perm (cs.map fun c => (c.table, c.filled))) :
    ∃ s', Database.Leads id (cs.map fun c => c.exported.dropText d) s s' ∧ s'.tables = [] := by
  rw [← flatMap_entry] at hs
  have hall := Database.exists_leads (l := []) (q := fun _ => none)
    (fun c hc s l => (hcs c hc).leads_drop hd id) hn hs
  rw [List.nil_append, flatMap_entry_none] at hall
  obtain ⟨s', hdrop, hs'⟩ := hall
  exact ⟨s', hdrop, hs'.eq_nil⟩

end Counter

namespace Registry

variable {r : Registry} {fs : List Counter} {d : Dialect} {s : Storage}

/-- **The create script** makes the table of each counter of the registry, with its first value. -/
theorem Lists.exists_created (h : r.Lists fs) (hfs : ∀ c ∈ fs, c.Portable)
    (hd : d ∈ Dialect.all) (id : Nat) (hs : s.tables = []) :
    ∃ s', Database.Leads id (r.createScript d) s s' ∧
      s'.tables.Perm (fs.map fun c => (c.table, c.filled)) := by
  obtain ⟨ps, htables, hperm⟩ := h.exists_perm
  have hnodup := Counter.Portable.nodup_tables hfs h.nodup
  obtain ⟨s₁, hcreate, hs₁⟩ := Counter.exists_creates (fun c hc => hfs c (hperm.mem_iff.mp hc))
    ((hperm.map Counter.table).nodup_iff.mpr hnodup) hd id hs
  obtain ⟨s₂, hseed, hs₂⟩ := Counter.exists_seeds hfs hnodup id (hs₁.trans (hperm.map _))
  refine ⟨s₂, ?_, hs₂⟩
  rw [createScript, htables, List.map_map, h.initCommands]
  exact hcreate.append hseed

/-- **The drop script** takes these tables away. -/
theorem Lists.exists_dropped (h : r.Lists fs) (hfs : ∀ c ∈ fs, c.Portable)
    (hd : d ∈ Dialect.all) (id : Nat) (hs : s.tables.Perm (fs.map fun c => (c.table, c.filled))) :
    ∃ s', Database.Leads id (r.dropScript d) s s' ∧ s'.tables = [] := by
  obtain ⟨ps, htables, hperm⟩ := h.exists_perm
  have hperm' : ps.reverse.Perm fs := ps.reverse_perm.trans hperm
  have hnodup := Counter.Portable.nodup_tables hfs h.nodup
  rw [dropScript, htables, List.map_map, ← List.map_reverse]
  exact Counter.exists_drops (fun c hc => hfs c (hperm'.mem_iff.mp hc))
    ((hperm'.map Counter.table).nodup_iff.mpr hnodup) hd id (hs.trans (hperm'.symm.map _))

end Registry

/-! ## Generators -/

theorem eq_ok_of_mem_toOption {ε α : Type} {e : Except ε α} {a : α} (h : a ∈ e.toOption) :
    e = .ok a := by
  cases e with
  | error e => cases h
  | ok b =>
    cases h
    rfl

/-- Settings that make sense, with plain names, that of the table as a whole, and with a first value
that statements can spell. -/
structure Settings.Portable (s : Settings) : Prop where
  valid : s.validate = .ok ()
  catalog : s.catalog = none
  schema : s.schema = none
  plain : s.Plain
  initial : Int64.minValue < s.initialValue

instance (s : Settings) : Decidable s.Portable :=
  decidable_of_iff (s.validate = .ok () ∧ s.catalog = none ∧ s.schema = none ∧
      ((∀ name ∈ s.qualifiedName.toOption, ∀ i ∈ name.parts, i.Plain) ∧
        ∀ column ∈ s.columnName.toOption, column.Plain) ∧ Int64.minValue < s.initialValue)
    ⟨fun ⟨hvalid, hcatalog, hschema, ⟨htable, hcolumn⟩, hinitial⟩ => ⟨hvalid, hcatalog, hschema,
      ⟨fun name h => htable name (by rw [h]; rfl), fun column h => hcolumn column (by rw [h]; rfl)⟩,
      hinitial⟩,
    fun h => ⟨h.valid, h.catalog, h.schema,
      ⟨fun name hname => h.plain.table name (eq_ok_of_mem_toOption hname),
        fun column hcolumn => h.plain.column column (eq_ok_of_mem_toOption hcolumn)⟩, h.initial⟩⟩

namespace Generator

variable {l : List (Settings × Dialect)} {gs : List Generator}

theorem portable_of_configure {s : Settings} {d : Dialect} {g : Generator} (hs : s.Portable)
    (h : configure s d = .ok g) : g.counter.Portable := by
  obtain ⟨hname, htable, ⟨column, hcolumn, hwritten⟩, hinitial⟩ := counter_of_configure h
  have hplain := hs.plain.table _ hname
  have hcol := hs.plain.column _ hcolumn
  refine ⟨hplain, Settings.schema_of_catalog hs.catalog hname, fun e => ?_,
    ⟨column, hcol, hwritten.trans (hcol.render d)⟩, hinitial ▸ hs.initial⟩
  rw [htable, hplain.render d, hplain.render e]

theorem names_of_configure (h : List.Forall₂ (fun p g => configure p.1 p.2 = .ok g) l gs) :
    (gs.map Generator.counter).map Counter.name =
      l.filterMap fun p => p.1.qualifiedName.toOption := by
  induction h with
  | nil => rfl
  | cons hg _ ih =>
    have hname := (counter_of_configure hg).1
    rw [List.filterMap_cons_some (by rw [hname]; rfl), ← ih]
    rfl

theorem find?_of_configure (h : List.Forall₂ (fun p g => configure p.1 p.2 = .ok g) l gs)
    {name : QualifiedName} {p : Settings × Dialect}
    (hp : l.find? (fun p => p.1.qualifiedName.toOption == some name) = some p) :
    ∃ g, configure p.1 p.2 = .ok g ∧
      (gs.map Generator.counter).find? (·.name == name) = some g.counter := by
  induction h with
  | nil => cases hp
  | @cons q g l gs hg _ ih =>
    have hname := (counter_of_configure hg).1
    have heq : (q.1.qualifiedName.toOption == some name) = (g.counter.name == name) := by
      rw [hname]
      rfl
    rw [List.find?_cons, heq] at hp
    rw [List.map_cons, List.find?_cons]
    cases hfound : g.counter.name == name with
    | true =>
      rw [hfound] at hp
      cases hp
      exact ⟨g, hg, rfl⟩
    | false =>
      rw [hfound] at hp
      exact ih hp

end Generator

theorem Storage.names_of_perm {s : Storage} {fs : List Counter}
    (h : s.tables.Perm (fs.map fun c => (c.table, c.filled))) :
    s.names.Perm (fs.map Counter.table) := by
  refine (List.mergeSort_perm _ _).trans ((h.map Prod.fst).trans ?_)
  rw [List.map_map]
  exact .refl _

theorem Storage.get?_of_counter {s : Storage} {fs : List Counter}
    (h : s.tables.Perm (fs.map fun c => (c.table, c.filled))) (hn : (fs.map Counter.table).Nodup)
    {c : Counter} (hc : c ∈ fs) : s.get? c.table = some c.filled := by
  refine get?_of_mem h ?_ (List.mem_map_of_mem hc)
  rw [List.map_map]
  exact hn

namespace Registry

/-- **The scripts of generators succeed.** Some settings make sense, have plain names, which give
that of the table as a whole, and first values other than the least word. Their generators, each
configured in a dialect of its own, are registered one after another. On a database without tables,
the create script in any dialect succeeds. Then there is one table for each name, with one row, which
has the first value of the first settings of that name; different names are written differently. The
drop script succeeds after that, and leaves no table. -/
theorem scripts_succeed {l : List (Settings × Dialect)} (hl : ∀ p ∈ l, p.1.Portable)
    {d : Dialect} (hd : d ∈ Dialect.all) {db : Database} {id : Nat} (hid : db.Idle id)
    (hdb : db.storage.tables = []) :
    ∃ gs created dropped, l.mapM (fun p => Generator.configure p.1 p.2) = .ok gs ∧
      (Database.connection id).executeAll
        ((ofCounters (gs.map Generator.counter)).createScript d) db = (.ok (), created) ∧
      created.storage.names.Perm
        ((l.filterMap fun p => p.1.qualifiedName.toOption).dedup.map (QualifiedName.render d)) ∧
      created.storage.names.Nodup ∧
      (∀ name p, l.find? (fun p => p.1.qualifiedName.toOption == some name) = some p →
        ∃ column, p.1.columnName = .ok column ∧ created.storage.get? (name.render d) =
          some { columns := [column.text], rows := [[p.1.initialValue]] }) ∧
      (Database.connection id).executeAll
        ((ofCounters (gs.map Generator.counter)).dropScript d) created = (.ok (), dropped) ∧
      dropped.storage.tables = [] := by
  obtain ⟨gs, hgs⟩ := Generator.exists_of_forall_validate fun p hp => (hl p hp).valid
  have hconfigured := forall₂_of_mapM hgs
  have hlists := ofCounters_lists (gs.map Generator.counter)
  have hfs : ∀ c ∈ Counter.firsts (gs.map Generator.counter), c.Portable := fun c hc => by
    obtain ⟨g, hg, rfl⟩ := List.mem_map.mp (Counter.mem_of_mem_firsts hc)
    obtain ⟨p, hp, hconfigure⟩ := exists_of_mapM hgs hg
    exact Generator.portable_of_configure (hl p hp) hconfigure
  have hnodup := Counter.Portable.nodup_tables hfs hlists.nodup
  obtain ⟨s, hcreate, hs⟩ := hlists.exists_created hfs hd id hdb
  obtain ⟨s', hdrop, hs'⟩ := hlists.exists_dropped hfs hd id hs
  obtain ⟨created, hcreated, hidle, hstorage⟩ := hcreate db hid rfl
  obtain ⟨dropped, hdropped, -, hstorage'⟩ := hdrop created hidle hstorage
  have hnames := Storage.names_of_perm (hstorage ▸ hs)
  refine ⟨gs, created, dropped, hgs, hcreated, hnames.trans ?_, hnames.nodup_iff.mpr hnodup,
    fun name p hp => ?_, hdropped, hstorage' ▸ hs'⟩
  · have hfirsts := (Counter.names_firsts (gs.map Generator.counter)).map (QualifiedName.render d)
    rw [List.map_map, Generator.names_of_configure hconfigured] at hfirsts
    rw [List.map_congr_left fun c hc => (hfs c hc).table d]
    exact hfirsts
  · obtain ⟨g, hg, hfind⟩ := Generator.find?_of_configure hconfigured hp
    rw [← Counter.find?_firsts] at hfind
    have hmem := List.mem_of_find?_eq_some hfind
    have hname : g.counter.name = name :=
      beq_iff_eq.mp (List.find?_some (p := fun c : Counter => c.name == name) hfind)
    obtain ⟨-, -, ⟨column, hcolumn, hwritten⟩, hinitial⟩ := Generator.counter_of_configure hg
    have hplain := (hl p (List.mem_of_find?_eq_some hp)).plain.column column hcolumn
    refine ⟨column, hcolumn, ?_⟩
    rw [hstorage, ← hname, ← (hfs _ hmem).table d, Storage.get?_of_counter hs hnodup hmem,
      Counter.filled, hwritten, hplain.render, hinitial]

/-- Settings with two names, one of which comes twice. -/
def ledgers : List (Settings × Dialect) := [
  ({ tableName := "ledger", initialValue := 7 }, .mysql),
  ({ tableName := "app.ledger", valueColumn := "v", initialValue := -3 }, .sqlserver),
  ({ tableName := "ledger", initialValue := 9, incrementSize := 5 }, .postgresql)]

/-- Both tables are created, with the value of the settings that came first, and dropped again. -/
theorem scripts_succeed_ledgers :
    ∃ gs created dropped, ledgers.mapM (fun p => Generator.configure p.1 p.2) = .ok gs ∧
      (Database.connection 1).executeAll ((ofCounters (gs.map Generator.counter)).createScript
        .postgresql) Participants.connected = (.ok (), created) ∧
      created.storage.names.Perm ["app.ledger", "ledger"] ∧
      created.storage.get? "ledger" = some { columns := ["next_val"], rows := [[7]] } ∧
      created.storage.get? "app.ledger" = some { columns := ["v"], rows := [[-3]] } ∧
      (Database.connection 1).executeAll ((ofCounters (gs.map Generator.counter)).dropScript
        .postgresql) created = (.ok (), dropped) ∧
      dropped.storage.tables = [] := by
  have hportable : ∀ p ∈ ledgers, p.1.Portable := by decide +kernel
  have hdialect : Dialect.postgresql ∈ Dialect.all := by simp [Dialect.all]
  have hidle : Participants.connected.Idle 1 := ⟨{}, rfl, rfl⟩
  obtain ⟨gs, created, dropped, hgs, hcreated, hnames, -, htables, hdropped, hnone⟩ :=
    scripts_succeed hportable hdialect hidle rfl
  have hdedup : (ledgers.filterMap fun p => p.1.qualifiedName.toOption).dedup.map
      (QualifiedName.render .postgresql) = ["app.ledger", "ledger"] := by decide +kernel
  rw [hdedup] at hnames
  obtain ⟨column, hcolumn, hledger⟩ := htables ⟨none, none, ⟨"ledger", false⟩⟩ _ rfl
  obtain ⟨column', hcolumn', happ⟩ :=
    htables ⟨none, some ⟨"app", false⟩, ⟨"ledger", false⟩⟩ _ rfl
  cases hcolumn.symm.trans rfl
  cases hcolumn'.symm.trans rfl
  exact ⟨gs, created, dropped, hgs, hcreated, hnames, hledger, happ, hdropped, hnone⟩

end Registry

end CounterTable
