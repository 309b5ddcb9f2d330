import CounterTable.Proofs.Export.Registry
import CounterTable.Proofs.Sequence.Validated

/-!
# Tables of different names

The tables of a registry have different names. They are also written differently in a dialect, except
for names that are cut at other places: a catalog without a schema is written like a schema, and so
is a dot between two quotes that occur in a quoted name.

* `Registry.exists_of_mem`: where the tables of a registry come from;
* **`Registry.written_apart`**: tables are written differently;
* `Registry.written_alike`: two exceptions.
-/

namespace CounterTable

theorem Generator.exists_of_forall_validate {l : List (Settings × Dialect)}
    (h : ∀ p ∈ l, p.1.validate = .ok ()) :
    ∃ gs, l.mapM (fun p => Generator.configure p.1 p.2) = .ok gs := by
  induction l with
  | nil => exact ⟨[], rfl⟩
  | cons p l ih =>
    obtain ⟨g, hg⟩ := Generator.exists_of_validate (h p List.mem_cons_self) p.2
    obtain ⟨gs, hgs⟩ := ih fun q hq => h q (List.mem_cons_of_mem p hq)
    refine ⟨g :: gs, ?_⟩
    rw [List.mapM_cons, hg, hgs]
    rfl

namespace Registry

/-- **The tables of a registry** are those of the settings that its generators are made of. -/
theorem exists_of_mem {l : List (Settings × Dialect)} {gs : List Generator}
    (hgs : l.mapM (fun p => Generator.configure p.1 p.2) = .ok gs) {t : ExportTable}
    (ht : t ∈ (ofCounters (gs.map Generator.counter)).tables) :
    ∃ p ∈ l, p.1.qualifiedName = .ok t.name := by
  have hlists := ofCounters_lists (gs.map Generator.counter)
  obtain ⟨c, hc, rfl⟩ := List.mem_map.mp (hlists.tables.mem_iff.mp ht)
  obtain ⟨g, hg, rfl⟩ := List.mem_map.mp (Counter.mem_of_mem_firsts hc)
  obtain ⟨p, hp, hconfigure⟩ := exists_of_mapM hgs hg
  exact ⟨p, hp, (Generator.counter_of_configure hconfigure).1⟩

/-- **Tables are written differently.** Settings that make sense make generators, whose tables are
registered. In a dialect whose closing quote occurs in no quoted name, two tables that are written
alike have names of the same parts; and no two tables are written alike, if no name has a catalog
without a schema. -/
theorem written_apart {l : List (Settings × Dialect)} (hl : ∀ p ∈ l, p.1.validate = .ok ())
    {d : Dialect} (hd : d ∈ Dialect.all)
    (hclosed : ∀ p ∈ l, ∀ name, p.1.qualifiedName = .ok name → ∀ i ∈ name.parts, i.Closed d) :
    ∃ gs, l.mapM (fun p => Generator.configure p.1 p.2) = .ok gs ∧
      (∀ t ∈ (ofCounters (gs.map Generator.counter)).tables,
        ∀ u ∈ (ofCounters (gs.map Generator.counter)).tables,
          t.name.render d = u.name.render d → t.name.parts = u.name.parts) ∧
      ((∀ p ∈ l, ∀ name, p.1.qualifiedName = .ok name → name.catalog.isSome → name.schema.isSome) →
        ((ofCounters (gs.map Generator.counter)).tables.map fun t => t.name.render d).Nodup) := by
  obtain ⟨gs, hgs⟩ := Generator.exists_of_forall_validate hl
  have hlegible : ∀ t ∈ (ofCounters (gs.map Generator.counter)).tables,
      ∀ i ∈ t.name.parts, i.WellFormed ∧ i.Closed d := fun t ht i hi => by
    obtain ⟨p, hp, hname⟩ := exists_of_mem hgs ht
    exact ⟨Settings.wellFormed_of_qualifiedName hname i hi, hclosed p hp _ hname i hi⟩
  have hparts : ∀ t ∈ (ofCounters (gs.map Generator.counter)).tables,
      ∀ u ∈ (ofCounters (gs.map Generator.counter)).tables,
        t.name.render d = u.name.render d → t.name.parts = u.name.parts := fun t ht u hu =>
    QualifiedName.parts_of_render (Dialect.closingQuote?_of_mem hd) (hlegible t ht) (hlegible u hu)
  refine ⟨gs, hgs, hparts, fun hcatalog => ?_⟩
  have hqualified : ∀ t ∈ (ofCounters (gs.map Generator.counter)).tables,
      t.name.catalog.isSome → t.name.schema.isSome := fun t ht => by
    obtain ⟨p, hp, hname⟩ := exists_of_mem hgs ht
    exact hcatalog p hp _ hname
  have hlists := ofCounters_lists (gs.map Generator.counter)
  have hnames : ((ofCounters (gs.map Generator.counter)).tables.map ExportTable.name).Nodup := by
    refine ((hlists.tables.map ExportTable.name).nodup_iff).mpr ?_
    rw [List.map_map]
    exact hlists.nodup
  have hrendered := List.Nodup.map_on (f := fun name => QualifiedName.render d name)
    (fun a ha b hb hab => by
      obtain ⟨t, ht, rfl⟩ := List.mem_map.mp ha
      obtain ⟨u, hu, rfl⟩ := List.mem_map.mp hb
      exact QualifiedName.eq_of_parts (hqualified t ht) (hqualified u hu) (hparts t ht u hu hab))
    hnames
  rwa [List.map_map] at hrendered

/-- Settings of tables with plain, qualified and quoted names, two of which are the same. -/
def shelves : List (Settings × Dialect) := [
  ({ tableName := "shelf" }, .mysql),
  ({ tableName := "app.shelf" }, .generic),
  ({ tableName := "shelf", schema := some "\"app.x\"" }, .sqlserver),
  ({ tableName := "app.shelf", incrementSize := 5 }, .postgresql)]

/-- Their tables are written differently. -/
theorem written_apart_shelves :
    ∃ gs, shelves.mapM (fun p => Generator.configure p.1 p.2) = .ok gs ∧
      ((ofCounters (gs.map Generator.counter)).tables.map
        fun t => t.name.render .generic).Nodup := by
  have hvalid : ∀ p ∈ shelves, p.1.validate = .ok () := by decide +kernel
  have hnames : ∀ p ∈ shelves, ∀ name ∈ p.1.qualifiedName.toOption,
      (∀ i ∈ name.parts, i.Closed .generic) ∧ (name.catalog.isSome → name.schema.isSome) := by
    decide +kernel
  obtain ⟨gs, hgs, -, hnodup⟩ := written_apart hvalid (d := .generic) List.mem_cons_self
    fun p hp name hname => (hnames p hp name (by rw [hname]; rfl)).1
  exact ⟨gs, hgs, hnodup fun p hp name hname => (hnames p hp name (by rw [hname]; rfl)).2⟩

/-- A catalog without a schema is written like a schema, and a quoted name with quotes in it like a
schema and a table. -/
theorem written_alike :
    (∃ g h, Generator.configure { tableName := "t", catalog := some "app" } .generic = .ok g ∧
      Generator.configure { tableName := "app.t" } .generic = .ok h ∧
      g.counter.name ≠ h.counter.name ∧
      (ofCounters [g.counter, h.counter]).createScript .generic =
        ["create table app.t ( next_val bigint )", "create table app.t ( next_val bigint )",
          "insert into app.t values ( 1 )", "insert into app.t values ( 1 )"]) ∧
    ∃ g h, Generator.configure { tableName := "\x60a\".\"b\x60" } .generic = .ok g ∧
      Generator.configure { tableName := "\"a\".\"b\"" } .generic = .ok h ∧
      g.counter.name ≠ h.counter.name ∧
      ((ofCounters [g.counter, h.counter]).tables.map fun t => t.name.render .generic) =
        ["\"a\".\"b\"", "\"a\".\"b\""] := by
  refine ⟨⟨_, _, rfl, rfl, ?_, ?_⟩, ⟨_, _, rfl, rfl, ?_, ?_⟩⟩
  all_goals decide +kernel

end Registry

end CounterTable
