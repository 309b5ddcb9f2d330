import CounterTable.Proofs.Name.ReadBack
import CounterTable.Sequence.Settings

/-!
# Qualifiers of a table

The settings name a table by one text, which may have qualifiers, and may give a catalog and a
schema beside it, which apply where the text does not name them.

* **`Settings.qualifiers_applied`**: the name of the table;
* `Settings.catalog_dropped`: a catalog that is not applied.
-/

namespace CounterTable

namespace Settings

/-- **The name of the table.** If the texts in the settings can be read, so can the name of the
table. Its object is that of the text, its schema is the one that the text names, or else the one
that is given, and so is its catalog; but a catalog that is given does not apply to a text that
names a schema. -/
theorem qualifiers_applied {s : Settings} {name : QualifiedName}
    {catalog schema : Option Identifier}
    (hname : QualifiedName.ofText s.tableName = .ok name)
    (hcatalog : s.catalog.mapM Identifier.ofText = .ok catalog)
    (hschema : s.schema.mapM Identifier.ofText = .ok schema) :
    ∃ q, s.qualifiedName = .ok q ∧ q.object = name.object ∧ q.schema = name.schema.or schema ∧
      (¬ (name.schema.isSome ∧ name.catalog = none ∧ catalog.isSome) →
        q.catalog = name.catalog.or catalog) ∧
      (name.schema.isSome ∧ name.catalog = none ∧ catalog.isSome → q.catalog = none) := by
  have hqualified := (QualifiedName.ofText_eq_ok_iff.mp hname).1
  have hbind : s.qualifiedName = if name.schema.isSome then .ok name else
      .ok { catalog, schema, object := name.object } := by
    rw [qualifiedName, hname]
    change (if name.schema.isSome then pure name else _) = _
    rw [hcatalog, hschema]
    rfl
  cases hs : name.schema with
  | some identifier =>
    rw [hs, if_pos Option.isSome_some] at hbind
    refine ⟨name, hbind, rfl, hs, fun happlies => ?_, fun hdropped => hdropped.2.1⟩
    cases hc : name.catalog with
    | some identifier => rfl
    | none =>
      have hnone : ¬ catalog.isSome := fun hgiven => happlies ⟨rfl, hc, hgiven⟩
      rw [Option.not_isSome_iff_eq_none.mp hnone]
      rfl
  | none =>
    have hc : name.catalog = none := by
      rw [hs] at hqualified
      exact Option.not_isSome_iff_eq_none.mp fun hsome => nomatch hqualified hsome
    rw [hs, Option.isSome_none, if_neg Bool.false_ne_true] at hbind
    refine ⟨_, hbind, rfl, rfl, fun _ => ?_, fun hdropped => nomatch hdropped.1⟩
    rw [hc]
    rfl

/-- A catalog beside a text that has no qualifiers. -/
theorem qualifiers_applied_quoted :
    ∃ q, ({ tableName := " t", catalog := some "[c.d] " } : Settings).qualifiedName = .ok q ∧
      q.object = ⟨"t", false⟩ ∧ q.schema = none ∧ q.catalog = some ⟨"c.d", true⟩ := by
  have hname : QualifiedName.ofText " t" = .ok ⟨none, none, ⟨"t", false⟩⟩ := by decide +kernel
  have hcatalog : (some "[c.d] ").mapM Identifier.ofText = .ok (some ⟨"c.d", true⟩) := by
    decide +kernel
  have hschema : (none : Option String).mapM Identifier.ofText = .ok none := rfl
  obtain ⟨q, hq, hobject, hschema, hcatalog, -⟩ :=
    qualifiers_applied (s := { tableName := " t", catalog := some "[c.d] " }) hname hcatalog hschema
  exact ⟨q, hq, hobject, hschema, hcatalog fun h => nomatch h.1⟩

/-- A catalog beside a text that names a schema and no catalog is not applied. -/
theorem catalog_dropped :
    QualifiedName.ofText "app.t" = .ok ⟨none, some ⟨"app", false⟩, ⟨"t", false⟩⟩ ∧
      Identifier.ofText "cat" = .ok ⟨"cat", false⟩ ∧
      ({ tableName := "app.t", catalog := some "cat" } : Settings).qualifiedName =
        .ok ⟨none, some ⟨"app", false⟩, ⟨"t", false⟩⟩ := by
  decide +kernel

end Settings

end CounterTable
