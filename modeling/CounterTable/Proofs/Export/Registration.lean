import CounterTable.Proofs.Export.Registry

/-!
# Registration

Counters that share a table register it once: the first of them decides on its column and on the
command that fills it, and the others change nothing. The tables stand in the order of their names,
whatever the order in which they came.

* `Counter.firsts_eq`: the first counters are those found for the names;
* `Registry.place_ordered`, `Registry.ofCounters_ordered`: tables are kept in order;
* `Registry.Lists.locate?_eq`: the table of a name is that of its counter;
* `Registry.tables_ofCounters_congr`: the tables depend on which counters come, not on their order;
* **`Registry.registered_once`**: what counters leave in an empty registry.
-/

namespace CounterTable

/-! ## The order of names -/

instance : Std.TransOrd Identifier :=
  inferInstanceAs (Std.TransCmp
    (compareLex (compareOn Identifier.text) (compareOn Identifier.quoted)))

instance : Std.TransOrd QualifiedName :=
  inferInstanceAs (Std.TransCmp
    (compareLex (compareLex (compareOn QualifiedName.catalog) (compareOn QualifiedName.schema))
      (compareOn QualifiedName.object)))

/-- A table stands before another one in the order of names. -/
def ExportTable.Before (t u : ExportTable) : Prop := compare t.name u.name = .lt

theorem ExportTable.Before.trans {t u v : ExportTable} (h : t.Before u) (h' : u.Before v) :
    t.Before v := Std.TransCmp.lt_trans h h'

theorem ExportTable.Before.asymm {t u : ExportTable} (h : t.Before u) : ¬ u.Before t :=
  Std.OrientedCmp.not_lt_of_lt h

/-! ## First counters -/

namespace Counter

theorem exists_found {cs : List Counter} {c : Counter} (h : c ∈ cs) :
    ∃ f ∈ cs, f.name = c.name ∧ cs.find? (·.name == c.name) = some f := by
  have hsome : (cs.find? (·.name == c.name)).isSome :=
    List.find?_isSome.mpr ⟨c, h, beq_iff_eq.mpr rfl⟩
  obtain ⟨f, hf⟩ := Option.isSome_iff_exists.mp hsome
  have hname := List.find?_some (p := fun f : Counter => f.name == c.name) hf
  exact ⟨f, List.mem_of_find?_eq_some hf, beq_iff_eq.mp hname, hf⟩

theorem find?_of_nodup {fs : List Counter} (h : (fs.map name).Nodup) {f : Counter} (hf : f ∈ fs) :
    fs.find? (·.name == f.name) = some f := by
  obtain ⟨g, hg, hname, hfind⟩ := exists_found hf
  rw [hfind, List.inj_on_of_nodup_map h hg hf hname]

theorem map_name_firsts (cs : List Counter) :
    (firsts cs).map name = (cs.map name).eraseDups := by
  induction cs using List.reverseRecOn with
  | nil => rfl
  | append_singleton cs c ih =>
    have hmem : (firsts cs).any (·.name == c.name) = (cs.map name).contains c.name := by
      rw [Bool.eq_iff_iff, List.any_eq_true, List.contains_iff_mem, ← List.mem_eraseDups, ← ih]
      simp only [List.mem_map, beq_iff_eq]
    rw [firsts_concat, addFirst, hmem, List.map_append, List.map_singleton, List.eraseDups_append]
    split
    · next hin =>
      have hnone : [c.name].removeAll (cs.map name) = [] := by
        simpa [List.removeAll] using hin
      rw [ih, hnone, List.eraseDups_nil, List.append_nil]
    · next hin =>
      have hone : [c.name].removeAll (cs.map name) = [c.name] := by
        simpa [List.removeAll] using hin
      rw [List.map_append, List.map_singleton, ih, hone]
      rfl

/-- **The first counters** are those found for the names. -/
theorem firsts_eq (cs : List Counter) :
    firsts cs = (cs.map name).eraseDups.filterMap fun n => cs.find? (·.name == n) := by
  have hnodup : ((firsts cs).map name).Nodup := (Registry.ofCounters_lists cs).nodup
  have hfound : (firsts cs).filterMap (fun f => cs.find? (·.name == f.name)) =
      (firsts cs).filterMap some :=
    List.filterMap_congr fun f hf => by rw [← find?_firsts, find?_of_nodup hnodup hf]
  rw [← map_name_firsts, List.filterMap_map]
  exact (hfound.trans List.filterMap_some).symm

theorem find?_of_perm {ps fs : List Counter} (h : (fs.map name).Nodup) (hperm : ps.Perm fs)
    (n : QualifiedName) : ps.find? (·.name == n) = fs.find? (·.name == n) := by
  cases hfind : fs.find? (·.name == n) with
  | none =>
    rw [List.find?_eq_none] at hfind ⊢
    exact fun p hp => hfind p (hperm.mem_iff.mp hp)
  | some f =>
    have hname : f.name = n :=
      beq_iff_eq.mp (List.find?_some (p := fun f : Counter => f.name == n) hfind)
    have hf : f ∈ ps := hperm.mem_iff.mpr (List.mem_of_find?_eq_some hfind)
    rw [← hname]
    exact find?_of_nodup ((hperm.map name).nodup_iff.mpr h) hf

end Counter

namespace Registry

variable {r : Registry} {fs : List Counter}

/-! ## Tables in order -/

theorem mem_place {t u : ExportTable} {us : List ExportTable} (h : u ∈ place t us) :
    u = t ∨ u ∈ us := by
  induction us with
  | nil => exact .inl (List.mem_singleton.mp h)
  | cons v us ih =>
    rw [place] at h
    split at h
    · exact List.mem_cons.mp h
    · exact (List.mem_cons.mp h).imp_right (List.mem_cons_of_mem v)
    · rcases List.mem_cons.mp h with rfl | h
      · exact .inr List.mem_cons_self
      · exact (ih h).imp_right (List.mem_cons_of_mem v)

theorem place_ordered {t : ExportTable} {us : List ExportTable}
    (h : us.Pairwise ExportTable.Before) : (place t us).Pairwise ExportTable.Before := by
  induction h with
  | nil => exact List.pairwise_singleton _ _
  | @cons u us hu hus ih =>
    rw [place]
    split
    · next hlt =>
      refine (hus.cons hu).cons fun v hv => ?_
      rcases List.mem_cons.mp hv with rfl | hv
      · exact hlt
      · exact ExportTable.Before.trans hlt (hu v hv)
    · next heq =>
      have hname : t.name = u.name := QualifiedName.eq_of_compare heq
      exact hus.cons fun v hv => by
        unfold ExportTable.Before
        rw [hname]
        exact hu v hv
    · next hgt =>
      refine ih.cons fun v hv => ?_
      rcases mem_place hv with rfl | hv
      · exact Std.OrientedCmp.gt_iff_lt.mp hgt
      · exact hu v hv

theorem register_ordered (h : r.tables.Pairwise ExportTable.Before) (c : Counter) :
    (r.register c).tables.Pairwise ExportTable.Before := by
  rw [register]
  split
  · exact h
  · exact place_ordered h

/-- **The tables stand in order**, whatever is registered. -/
theorem ofCounters_ordered (cs : List Counter) :
    (ofCounters cs).tables.Pairwise ExportTable.Before := by
  induction cs using List.reverseRecOn with
  | nil => exact List.Pairwise.nil
  | append_singleton cs c ih =>
    rw [ofCounters, List.foldl_concat]
    exact register_ordered ih c

/-! ## Tables of counters -/

theorem Lists.locate?_eq (h : r.Lists fs) (name : QualifiedName) :
    r.locate? name = (fs.find? (·.name == name)).map Counter.exported := by
  obtain ⟨ps, htables, hperm⟩ := h.exists_perm
  rw [locate?, htables, List.find?_map, ← Counter.find?_of_perm h.nodup hperm]
  rfl

theorem locate?_ofCounters (cs : List Counter) (name : QualifiedName) :
    (ofCounters cs).locate? name = (cs.find? (·.name == name)).map Counter.exported := by
  rw [(ofCounters_lists cs).locate?_eq, Counter.find?_firsts]

/-- **A counter that has been registered** is not registered again. -/
theorem register_of_mem {cs : List Counter} {c : Counter} (h : c ∈ cs) :
    (ofCounters cs).register c = ofCounters cs := by
  obtain ⟨f, -, -, hf⟩ := Counter.exists_found h
  rw [register, locate?_ofCounters, hf]
  rfl

/-! ## Order of registration -/

theorem mem_tables_ofCounters {cs : List Counter}
    (hcolumn : ∀ c ∈ cs, ∀ c' ∈ cs, c.name = c'.name → c.column = c'.column) {t : ExportTable} :
    t ∈ (ofCounters cs).tables ↔ t ∈ cs.map Counter.exported := by
  rw [(ofCounters_lists cs).tables.mem_iff, List.mem_map, List.mem_map]
  constructor
  · rintro ⟨f, hf, rfl⟩
    exact ⟨f, Counter.mem_of_mem_firsts hf, rfl⟩
  · rintro ⟨c, hc, rfl⟩
    obtain ⟨f, hf, hname, hfind⟩ := Counter.exists_found hc
    have hfirst : f ∈ Counter.firsts cs :=
      List.mem_of_find?_eq_some ((Counter.find?_firsts cs c.name).trans hfind)
    refine ⟨f, hfirst, ?_⟩
    rw [Counter.exported, Counter.exported, hname, hcolumn f hf c hc hname]

theorem tables_eq_of_mem_iff {r r' : Registry} (h : r.tables.Pairwise ExportTable.Before)
    (h' : r'.tables.Pairwise ExportTable.Before) (hmem : ∀ t, t ∈ r.tables ↔ t ∈ r'.tables) :
    r.tables = r'.tables := by
  have hnodup : ∀ ts : List ExportTable, ts.Pairwise ExportTable.Before → ts.Nodup :=
    fun ts hts => hts.imp fun {t u} hlt heq => by
      subst heq
      exact hlt.asymm hlt
  have hperm : r.tables.Perm r'.tables :=
    (List.perm_ext_iff_of_nodup (hnodup _ h) (hnodup _ h')).mpr hmem
  exact hperm.eq_of_pairwise (fun _ _ _ _ hlt hgt => absurd hgt hlt.asymm) h h'

/-- **The tables do not depend on the order** in which the counters come, nor on how often they
come, if counters of one name have one column. -/
theorem tables_ofCounters_congr {cs cs' : List Counter} (hmem : ∀ c, c ∈ cs' ↔ c ∈ cs)
    (hcolumn : ∀ c ∈ cs, ∀ c' ∈ cs, c.name = c'.name → c.column = c'.column) :
    (ofCounters cs').tables = (ofCounters cs).tables := by
  refine tables_eq_of_mem_iff (ofCounters_ordered cs') (ofCounters_ordered cs) fun t => ?_
  have hcolumn' : ∀ c ∈ cs', ∀ c' ∈ cs', c.name = c'.name → c.column = c'.column :=
    fun c hc c' hc' => hcolumn c ((hmem c).mp hc) c' ((hmem c').mp hc')
  rw [mem_tables_ofCounters hcolumn', mem_tables_ofCounters hcolumn]
  simp only [List.mem_map, hmem]

theorem length_ofCounters (cs : List Counter) :
    (ofCounters cs).tables.length = (cs.map Counter.name).dedup.length ∧
      (ofCounters cs).initCommands.length = (cs.map Counter.name).dedup.length := by
  have hlists := ofCounters_lists cs
  have hnames := (Counter.names_firsts cs).length_eq
  rw [hlists.tables.length_eq, hlists.initCommands, List.length_map, List.length_map, ← hnames,
    List.length_map]
  exact ⟨rfl, rfl⟩

/-- **What counters leave in an empty registry**, in whatever number and order they come, with
repetitions or without.

There are as many tables and as many commands as there are different names, and every table has one
column. The table of a name has the column of the first counter of this name, and the command that
is kept is that of the same counter, where the commands stand in the order in which the names came
first. Whoever is registered again changes nothing. The tables come out in one order, however the
counters are arranged, if counters of one name have one column. -/
theorem registered_once (cs : List Counter) :
    ((ofCounters cs).tables.length = (cs.map Counter.name).dedup.length ∧
      (ofCounters cs).initCommands.length = (cs.map Counter.name).dedup.length) ∧
    (∀ t ∈ (ofCounters cs).tables, ∃ column, t.columns = [column]) ∧
    (∀ name, (ofCounters cs).locate? name =
      (cs.find? (·.name == name)).map fun c => ⟨c.name, [⟨c.column, .long⟩]⟩) ∧
    ((ofCounters cs).initCommands = (cs.map Counter.name).eraseDups.filterMap fun name =>
      (cs.find? (·.name == name)).map Counter.seedStatement) ∧
    (∀ c ∈ cs, (ofCounters cs).register c = ofCounters cs) ∧
    ∀ cs', cs'.Perm cs →
      (∀ c ∈ cs, ∀ c' ∈ cs, c.name = c'.name → c.column = c'.column) →
      (ofCounters cs').tables = (ofCounters cs).tables := by
  have hlists := ofCounters_lists cs
  refine ⟨length_ofCounters cs, fun t ht => ?_, locate?_ofCounters cs, ?_,
    fun c hc => register_of_mem hc, fun cs' hperm => tables_ofCounters_congr fun c => hperm.mem_iff⟩
  · obtain ⟨f, -, rfl⟩ := List.mem_map.mp (hlists.tables.mem_iff.mp ht)
    exact ⟨⟨f.column, .long⟩, rfl⟩
  · rw [hlists.initCommands, Counter.firsts_eq, List.map_filterMap]

/-- Two counters share the table `t`. Either of them may come first: the tables are the same, and
the command is that of the first one. -/
theorem registered_once_shared :
    let counter (table : String) (initial : Int64) : Counter :=
      { name := ⟨none, none, ⟨table, false⟩⟩, table, column := "v", initial, increment := 1
        numberType := .long, selectText := "", updateText := "" }
    let cs := [counter "t" 1, counter "a" 7, counter "t" 5]
    let cs' := [counter "t" 5, counter "a" 7, counter "t" 1]
    cs'.Perm cs ∧ (∀ c ∈ cs, ∀ c' ∈ cs, c.name = c'.name → c.column = c'.column) ∧
      (ofCounters cs').tables = (ofCounters cs).tables ∧
      (ofCounters cs).initCommands = ["insert into t values ( 1 )", "insert into a values ( 7 )"] ∧
      (ofCounters cs').initCommands =
        ["insert into t values ( 5 )", "insert into a values ( 7 )"] := by
  intro counter cs cs'
  have hperm : cs'.Perm cs := by decide
  have hcolumn : ∀ c ∈ cs, ∀ c' ∈ cs, c.name = c'.name → c.column = c'.column := by decide
  obtain ⟨-, -, -, hcommands, -, htables⟩ := registered_once cs
  obtain ⟨-, -, -, hcommands', -, -⟩ := registered_once cs'
  refine ⟨hperm, hcolumn, htables cs' hperm hcolumn, ?_, ?_⟩
  · rw [hcommands]
    decide
  · rw [hcommands']
    decide

end Registry

end CounterTable
