import CounterTable.Command.Run
import CounterTable.Proofs.Export.Scripts

/-!
# Two ways to a script

A counter has the statements that create, fill and drop its table, in which the name of the table
stands as it was written when the counter was made. A registry writes the name of the table anew.
Both say the same in a dialect that writes the name as it was written then.

* **`Counter.createScript_eq_iff`, `Counter.dropScript_eq_iff`**: the scripts of a counter against
  those of a registry;
* `Generator.createScript_eq_iff`: those of a generator, in any other dialect;
* `ScriptArguments.Describes`, `ScriptArguments.script_of_describes`: what the command prints;
* **`Generator.scripts_exported`**: the scripts of a generator in its own dialect.
-/

namespace CounterTable

/-! ## Counters -/

namespace Counter

variable (c : Counter) (d : Dialect)

theorem createScript_eq_cons : c.createScript d =
    ["create table " ++ c.table ++ (" ( " ++ c.column ++ " " ++ d.typeName .long ++ " )"),
      c.seedStatement] := by
  simp only [createScript, Dialect.createTable, toString, String.append_assoc]
  rfl

theorem createScript_register : (Registry.register {} c).createScript d =
    ["create table " ++ c.name.render d ++ (" ( " ++ c.column ++ " " ++ d.typeName .long ++ " )"),
      c.seedStatement] := by
  change [c.exported.createText d, c.seedStatement] = _
  rw [createText_exported]
  simp only [Dialect.createTable, toString, String.append_assoc]
  rfl

/-- **The scripts that create** are the same where the name is written alike. -/
theorem createScript_eq_iff :
    c.createScript d = (Registry.register {} c).createScript d ↔ c.table = c.name.render d := by
  rw [createScript_eq_cons, createScript_register, List.cons.injEq, and_iff_left rfl,
    String.append_left_inj, String.append_right_inj]

/-- **The scripts that drop** are the same where the name is written alike. -/
theorem dropScript_eq_iff :
    c.dropScript d = (Registry.register {} c).dropScript d ↔ c.table = c.name.render d := by
  change [d.dropTable.1 ++ c.table ++ d.dropTable.2] =
    [d.dropTable.1 ++ c.name.render d ++ d.dropTable.2] ↔ _
  rw [List.cons.injEq, and_iff_left rfl, String.append_left_inj, String.append_right_inj]

end Counter

/-! ## Generators -/

namespace Generator

variable {s : Settings} {d e : Dialect} {g : Generator}

/-- The scripts of a generator in some dialect are those of a registry if the dialect writes the
name of its table like the one in which it was configured, and only then. -/
theorem createScript_eq_iff (h : configure s d = .ok g) :
    g.createScript e = (Registry.register {} g.counter).createScript e ↔
      g.counter.name.render d = g.counter.name.render e := by
  obtain ⟨-, htable, -⟩ := counter_of_configure h
  rw [← htable]
  exact g.counter.createScript_eq_iff e

end Generator

/-! ## The command -/

namespace ScriptArguments

/-- The arguments that ask for the script of some settings in a dialect. -/
structure Describes (a : ScriptArguments) (s : Settings) (d : Dialect) : Prop where
  settings : s = { tableName := a.table, valueColumn := a.column, initialValue := a.initial }
  dialect : Dialect.ofText a.dialect = .ok d

theorem script_of_describes {a : ScriptArguments} {s : Settings} {d : Dialect} {g : Generator}
    (h : a.Describes s d) (hg : Generator.configure s d = .ok g) :
    a.script = .ok (if a.drop then (Registry.register {} g.counter).dropScript d
      else (Registry.register {} g.counter).createScript d) := by
  obtain ⟨rfl, hd⟩ := h
  rw [script, hd]
  change (Failure.during _ (Generator.configure _ d) >>= _) = _
  rw [hg]
  rfl

end ScriptArguments

namespace Generator

/-- **The two ways to a script agree.** Settings that make sense have a generator in every dialect,
and its scripts in that dialect are, statement for statement, those of an empty registry to which
its counter is added. The command that is asked for the script of these settings prints the same. -/
theorem scripts_exported {s : Settings} (h : s.validate = .ok ()) (d : Dialect) :
    ∃ g, configure s d = .ok g ∧
      g.createScript d = (Registry.register {} g.counter).createScript d ∧
      g.dropScript d = (Registry.register {} g.counter).dropScript d ∧
      ∀ a : ScriptArguments, a.Describes s d →
        a.script = .ok (if a.drop then g.dropScript d else g.createScript d) := by
  obtain ⟨g, hg⟩ := exists_of_validate h d
  obtain ⟨-, htable, -⟩ := counter_of_configure hg
  have hcreate : g.createScript d = (Registry.register {} g.counter).createScript d :=
    (g.counter.createScript_eq_iff d).mpr htable
  have hdrop : g.dropScript d = (Registry.register {} g.counter).dropScript d :=
    (g.counter.dropScript_eq_iff d).mpr htable
  refine ⟨g, hg, hcreate, hdrop, fun a ha => ?_⟩
  rw [hcreate, hdrop]
  exact ScriptArguments.script_of_describes ha hg

/-- The arguments for a table with a quoted name in a catalog, in a dialect that writes brackets. -/
def bracketed : ScriptArguments :=
  { table := "main.dbo.\"odd name\"", column := "n", initial := 5, dialect := "mssql" }

theorem scripts_exported_bracketed :
    ∃ g, configure { tableName := "main.dbo.\"odd name\"", valueColumn := "n", initialValue := 5 }
        .sqlserver = .ok g ∧
      g.createScript .sqlserver = (Registry.register {} g.counter).createScript .sqlserver ∧
      g.dropScript .sqlserver = (Registry.register {} g.counter).dropScript .sqlserver ∧
      bracketed.script = .ok (g.createScript .sqlserver) := by
  obtain ⟨g, hg, hcreate, hdrop, hscript⟩ := scripts_exported
    (s := { tableName := "main.dbo.\"odd name\"", valueColumn := "n", initialValue := 5 })
    (by decide +kernel) .sqlserver
  exact ⟨g, hg, hcreate, hdrop, hscript bracketed ⟨rfl, rfl⟩⟩

end Generator

end CounterTable
