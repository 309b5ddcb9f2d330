import CounterTable.Proofs.Name.ReadBack
import CounterTable.Proofs.Sequence.Configured

/-!
# Settings that make sense

Settings that pass their check make a generator in every dialect, and what they name is well formed.

* `Settings.of_validate`: what the check has seen;
* **`Generator.exists_of_validate`**: the generator;
* `Generator.counter_of_configure`: its counter;
* `Settings.wellFormed_of_qualifiedName`, `Settings.schema_of_catalog`: the name of its table.
-/

namespace CounterTable

namespace Settings

variable {s : Settings}

theorem of_validate (h : s.validate = .ok ()) :
    1 ≤ s.incrementSize.toInt ∧ s.numberType.Contains s.initialValue.toInt ∧
      (∃ name, s.qualifiedName = .ok name) ∧ ∃ column, s.columnName = .ok column := by
  unfold validate at h
  by_cases hincrement : s.incrementSize < 1
  · rw [if_pos hincrement] at h
    cases h
  rw [if_neg hincrement] at h
  by_cases hinitial : s.numberType.Contains s.initialValue.toInt
  · rw [if_pos hinitial] at h
    obtain ⟨-, -, h⟩ := exists_of_bind_eq_ok h
    obtain ⟨name, hname, h⟩ := exists_of_bind_eq_ok h
    obtain ⟨column, hcolumn, -⟩ := exists_of_bind_eq_ok h
    exact ⟨Int64.le_iff_toInt_le.mp (Int64.not_lt.mp hincrement), hinitial, ⟨name, hname⟩,
      ⟨column, hcolumn⟩⟩
  · rw [if_neg hinitial] at h
    cases h

theorem wellFormed_of_mapM {raw : Option String} {i? : Option Identifier}
    (h : raw.mapM Identifier.ofText = .ok i?) : ∀ i ∈ i?, i.WellFormed := by
  cases raw with
  | none =>
    cases h
    exact nofun
  | some text =>
    obtain ⟨i, hi, h⟩ := exists_of_bind_eq_ok h
    cases h
    rintro _ ⟨⟩
    exact Identifier.wellFormed_of_ofChars hi

/-- **The name of the table** is well formed. -/
theorem wellFormed_of_qualifiedName {q : QualifiedName} (h : s.qualifiedName = .ok q) :
    ∀ i ∈ q.parts, i.WellFormed := by
  obtain ⟨name, hname, h⟩ := exists_of_bind_eq_ok h
  have hall := QualifiedName.wellFormed_of_ofText hname
  split at h
  · cases h
    exact hall
  · obtain ⟨catalog, hcatalog, h⟩ := exists_of_bind_eq_ok h
    obtain ⟨schema, hschema, h⟩ := exists_of_bind_eq_ok h
    cases h
    intro i hi
    simp only [QualifiedName.parts, List.mem_append, Option.mem_toList, List.mem_singleton] at hi
    rcases hi with (hi | hi) | rfl
    · exact wellFormed_of_mapM hcatalog i hi
    · exact wellFormed_of_mapM hschema i hi
    · exact hall _ (List.mem_append_right _ (List.mem_singleton_self _))

theorem schema_of_catalog (hs : s.catalog = none) {name : QualifiedName}
    (h : s.qualifiedName = .ok name) : name.catalog.isSome → name.schema.isSome := by
  obtain ⟨name', -, h⟩ := exists_of_bind_eq_ok h
  split at h
  · next hschema =>
    cases h
    exact fun _ => hschema
  · obtain ⟨catalog, hcatalog, h⟩ := exists_of_bind_eq_ok h
    obtain ⟨schema, -, h⟩ := exists_of_bind_eq_ok h
    cases h
    rw [hs] at hcatalog
    cases hcatalog
    exact nofun

end Settings

namespace Generator

variable {s : Settings} {d : Dialect} {g : Generator}

/-- **Settings that make sense** make a generator in every dialect. -/
theorem exists_of_validate (h : s.validate = .ok ()) (d : Dialect) :
    ∃ g, configure s d = .ok g := by
  obtain ⟨hincrement, hinitial, ⟨name, hname⟩, column, hcolumn⟩ := Settings.of_validate h
  have hpos : ¬ s.incrementSize < 1 := Int64.not_lt.mpr (Int64.le_iff_toInt_le.mpr hincrement)
  have hfits : ¬ ¬ s.numberType.Contains s.initialValue.toInt := not_not_intro hinitial
  unfold configure
  rw [h, hname, hcolumn]
  change ∃ g, (Counter.define d name column _ _ _ >>= _) = _
  rw [Counter.define, if_neg hpos, if_neg hfits]
  change ∃ g, (OptimizerKind.build _ _ _ >>= _) = _
  rw [OptimizerKind.build, dif_pos hincrement]
  exact ⟨_, rfl⟩

theorem counter_of_configure (h : configure s d = .ok g) :
    s.qualifiedName = .ok g.counter.name ∧ g.counter.table = g.counter.name.render d ∧
      (∃ column, s.columnName = .ok column ∧ g.counter.column = column.render d) ∧
      g.counter.initial = s.initialValue := by
  obtain ⟨name, column, counter, optimizer, hname, hcolumn, hcounter, -, rfl⟩ := of_configure h
  unfold Counter.define at hcounter
  split at hcounter
  · cases hcounter
  · split at hcounter
    · cases hcounter
    · cases hcounter
      exact ⟨hname, rfl, ⟨column, hcolumn, rfl⟩, rfl⟩

end Generator

end CounterTable
