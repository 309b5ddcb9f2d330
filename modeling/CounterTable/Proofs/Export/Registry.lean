import CounterTable.Export.Registry
import Mathlib.Data.List.Dedup
import Mathlib.Data.List.Induction
import Mathlib.Data.List.Perm.Basic

/-!
# What is registered

Of the counters that are registered one after another, those count whose names are new. The export
has a table for each of them, in the order of their names, and fills the tables in the order in which
the counters came.

* `Counter.firsts`, `Counter.find?_firsts`: the first counter of each name;
* `Registry.place_perm`: a table among others;
* `Registry.Lists`, `Registry.Lists.register`: what a registry has of some counters;
* **`Registry.ofCounters_lists`**: a registry has the first counters of their names.
-/

namespace CounterTable

/-! ## Order -/

instance : Std.LawfulEqOrd Identifier where
  compare_self {i} :=
    Ordering.then_eq_eq.mpr ⟨Std.ReflOrd.compare_self, Std.ReflOrd.compare_self⟩
  eq_of_compare {i j} h := by
    obtain ⟨text, quoted⟩ := i
    obtain ⟨text', quoted'⟩ := j
    obtain ⟨htext, hquoted⟩ := Ordering.then_eq_eq.mp h
    cases Std.LawfulEqOrd.eq_of_compare htext
    cases Std.LawfulEqOrd.eq_of_compare hquoted
    rfl

theorem QualifiedName.eq_of_compare {a b : QualifiedName} (h : compare a b = .eq) : a = b := by
  obtain ⟨catalog, schema, object⟩ := a
  obtain ⟨catalog', schema', object'⟩ := b
  obtain ⟨hqualifiers, hobject⟩ := Ordering.then_eq_eq.mp h
  obtain ⟨hcatalog, hschema⟩ := Ordering.then_eq_eq.mp hqualifiers
  cases Std.LawfulEqOrd.eq_of_compare hcatalog
  cases Std.LawfulEqOrd.eq_of_compare hschema
  cases Std.LawfulEqOrd.eq_of_compare hobject
  rfl

/-! ## Counters -/

namespace Counter

/-- The table of a counter in the export. -/
def exported (c : Counter) : ExportTable := ⟨c.name, [⟨c.column, .long⟩]⟩

/-- Adds a counter to others, unless one of them has its name. -/
def addFirst (fs : List Counter) (c : Counter) : List Counter :=
  if fs.any (·.name == c.name) then fs else fs ++ [c]

/-- The first counter of each name, in the order in which they come. -/
def firsts (cs : List Counter) : List Counter := cs.foldl addFirst []

theorem firsts_concat (cs : List Counter) (c : Counter) :
    firsts (cs ++ [c]) = addFirst (firsts cs) c := List.foldl_concat addFirst [] c cs

/-- **The first counter** of a name is what is found. -/
theorem find?_firsts (cs : List Counter) (name : QualifiedName) :
    (firsts cs).find? (·.name == name) = cs.find? (·.name == name) := by
  induction cs using List.reverseRecOn with
  | nil => rfl
  | append_singleton cs c ih =>
    rw [firsts_concat, List.find?_append, addFirst]
    split
    · next hany =>
      rw [ih]
      by_cases hc : c.name = name
      · rw [List.any_eq_true] at hany
        obtain ⟨f, hf, hname⟩ := hany
        have hsome : ((firsts cs).find? (·.name == name)).isSome := by
          rw [List.find?_isSome]
          exact ⟨f, hf, hc ▸ hname⟩
        rw [← ih, Option.or_of_isSome hsome]
      · have hnone : [c].find? (·.name == name) = none := by simp [hc]
        rw [hnone, Option.or_none]
    · rw [List.find?_append, ih]

theorem mem_of_mem_firsts {cs : List Counter} {c : Counter} (h : c ∈ firsts cs) : c ∈ cs := by
  induction cs using List.reverseRecOn with
  | nil => exact h
  | append_singleton cs c' ih =>
    rw [firsts_concat, addFirst] at h
    split at h
    · exact List.mem_append_left _ (ih h)
    · rcases List.mem_append.mp h with h | h
      · exact List.mem_append_left _ (ih h)
      · exact List.mem_append_right _ h

end Counter

/-! ## Registries -/

namespace Registry

variable {r : Registry} {fs : List Counter}

theorem place_perm {t : ExportTable} {us : List ExportTable} (h : ∀ u ∈ us, t.name ≠ u.name) :
    (place t us).Perm (t :: us) := by
  induction us with
  | nil => exact .refl _
  | cons u us ih =>
    rw [place]
    split
    · exact .refl _
    · next heq => exact absurd (QualifiedName.eq_of_compare heq) (h u List.mem_cons_self)
    · have hrest := ih fun v hv => h v (List.mem_cons_of_mem u hv)
      exact (hrest.cons u).trans (.swap t u us)

/-- A registry has the tables of some counters, which have different names, and the commands that
fill them. -/
structure Lists (r : Registry) (fs : List Counter) : Prop where
  tables : r.tables.Perm (fs.map Counter.exported)
  initCommands : r.initCommands = fs.map Counter.seedStatement
  nodup : (fs.map Counter.name).Nodup

theorem Lists.exists_perm (h : r.Lists fs) :
    ∃ ps : List Counter, r.tables = ps.map Counter.exported ∧ ps.Perm fs := by
  have hcomp : Relation.Comp (fun a b => a = b.map Counter.exported) List.Perm r.tables fs := by
    rw [List.eq_map_comp_perm]
    exact h.tables
  exact hcomp

/-- **One more counter** is registered if its name is new. -/
theorem Lists.register (h : r.Lists fs) (c : Counter) :
    (r.register c).Lists (Counter.addFirst fs c) := by
  have hnames : ∀ name, (∃ t ∈ r.tables, t.name = name) ↔ ∃ f ∈ fs, f.name = name := by
    intro name
    constructor
    · rintro ⟨t, ht, rfl⟩
      obtain ⟨f, hf, rfl⟩ := List.mem_map.mp (h.tables.mem_iff.mp ht)
      exact ⟨f, hf, rfl⟩
    · rintro ⟨f, hf, rfl⟩
      exact ⟨f.exported, h.tables.mem_iff.mpr (List.mem_map_of_mem hf), rfl⟩
  rw [Counter.addFirst, Registry.register]
  cases hlocate : r.locate? c.name with
  | some t =>
    have ht : (t.name == c.name) = true :=
      List.find?_some (p := fun t : ExportTable => t.name == c.name) hlocate
    obtain ⟨f, hf, hname⟩ :=
      (hnames c.name).mp ⟨t, List.mem_of_find?_eq_some hlocate, beq_iff_eq.mp ht⟩
    have hany : (fs.any (·.name == c.name)) = true :=
      List.any_eq_true.mpr ⟨f, hf, beq_iff_eq.mpr hname⟩
    rw [if_pos hany]
    exact h
  | none =>
    have hnew : ∀ u ∈ r.tables, c.name ≠ u.name := by
      intro u hu hname
      have hne := List.find?_eq_none.mp hlocate u hu
      exact hne (beq_iff_eq.mpr hname.symm)
    have hfs : ∀ f ∈ fs, c.name ≠ f.name := fun f hf hname => by
      obtain ⟨t, ht, hname'⟩ := (hnames c.name).mpr ⟨f, hf, hname.symm⟩
      exact hnew t ht hname'.symm
    have hany : ¬ (fs.any (·.name == c.name)) = true := fun hany => by
      obtain ⟨f, hf, hname⟩ := List.any_eq_true.mp hany
      exact hfs f hf (beq_iff_eq.mp hname).symm
    rw [if_neg hany]
    have htable : (r.table c.name).addColumn ⟨c.column, .long⟩ = c.exported := by
      rw [table, hlocate]
      rfl
    refine ⟨?_, ?_, ?_⟩
    · change (place ((r.table c.name).addColumn ⟨c.column, .long⟩) r.tables).Perm _
      rw [htable, List.map_append, List.map_singleton]
      refine (place_perm (t := c.exported) hnew).trans ?_
      exact (h.tables.cons _).trans (List.perm_append_singleton _ _).symm
    · change r.initCommands ++ [c.seedStatement] = _
      rw [h.initCommands, List.map_append, List.map_singleton]
    · rw [List.map_append, List.map_singleton]
      refine List.nodup_append.mpr ⟨h.nodup, List.nodup_singleton _, ?_⟩
      rintro name hname _ hc rfl
      obtain ⟨f, hf, hf'⟩ := List.mem_map.mp hname
      exact hfs f hf ((List.mem_singleton.mp hc).symm.trans hf'.symm)

/-- Registers counters one after another. -/
def ofCounters (cs : List Counter) : Registry := cs.foldl register {}

/-- **What is registered** of some counters is the first of each name. -/
theorem ofCounters_lists (cs : List Counter) : (ofCounters cs).Lists (Counter.firsts cs) := by
  induction cs using List.reverseRecOn with
  | nil => exact ⟨.refl _, rfl, List.nodup_nil⟩
  | append_singleton cs c ih =>
    rw [ofCounters, List.foldl_concat, Counter.firsts_concat]
    exact ih.register c

end Registry

theorem Counter.names_firsts (cs : List Counter) :
    ((Counter.firsts cs).map Counter.name).Perm (cs.map Counter.name).dedup := by
  refine (List.perm_ext_iff_of_nodup (Registry.ofCounters_lists cs).nodup
    (List.nodup_dedup _)).mpr fun name => ?_
  have hfound : ∀ cs : List Counter,
      name ∈ cs.map Counter.name ↔ (cs.find? (·.name == name)).isSome := fun cs => by
    simp only [List.find?_isSome, List.mem_map, beq_iff_eq]
  rw [List.mem_dedup, hfound, hfound, Counter.find?_firsts]

end CounterTable
