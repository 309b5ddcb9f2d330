import CounterTable.Command.Arguments
import CounterTable.Sequence.SettingsJson
import CounterTable.Sequence.Simulation

/-!
# Running commands

A command prints text and may fail. What it needs from outside is the text of one file, which is
given to it.

* `Failure`: why a command failed, and what it was doing;
* `Command.run`: what a command prints, and how it fails.
-/

namespace CounterTable

/-- The cause of the failure of a command. -/
inductive FailureCause where
  | error (e : Error)
  /-- The system's text for a file that cannot be read, or a text of the command itself. -/
  | text (message : String)
deriving DecidableEq, Repr

/-- Why a command failed, and what it was doing, if that says more. -/
structure Failure where
  activity : Option String := none
  cause : FailureCause
deriving DecidableEq, Repr

namespace Failure

/-- The texts of a failure, outermost first. -/
def chain (f : Failure) : List String :=
  f.activity.toList ++ match f.cause with
    | .error e => e.chain
    | .text message => [message]

/-- The failure that a command is built around, if there is one. -/
def error? (f : Failure) : Option Error :=
  match f.cause with
  | .error e => some e
  | .text _ => none

end Failure

/-- What a command prints, and how it fails. -/
structure CommandResult where
  output : String := ""
  failure : Option Failure := none
deriving DecidableEq, Repr

namespace Failure

/-- A failure of something that has a name for what it was doing. -/
def during {α : Type} (activity : String) (r : Except Error α) : Except Failure α :=
  r.mapError fun e => { activity := some activity, cause := .error e }

/-- A failure that speaks for itself. -/
def plainly {α : Type} (r : Except Error α) : Except Failure α :=
  r.mapError fun e => { cause := .error e }

end Failure

open Failure

/-- The script for a counter table: its export in a dialect. -/
def ScriptArguments.script (a : ScriptArguments) : Except Failure (List String) := do
  let d ← plainly (Dialect.ofText a.dialect)
  let settings : Settings :=
    { tableName := a.table, valueColumn := a.column, initialValue := a.initial }
  let g ← during s!"Invalid table definition '{a.table}'" (Generator.configure settings d)
  let registry := Registry.register {} g.counter
  return if a.drop then registry.dropScript d else registry.createScript d

namespace SimulateArguments

/-- The settings of a simulation: those of the file if there is one, which is given as its text or
as the reason why it cannot be read. -/
def settings (a : SimulateArguments) (file : Except String String) : Except Failure Settings :=
  match a.config with
  | some path =>
    match file with
    | .error reason =>
      .error { activity := some s!"Failed to read config '{path}'", cause := .text reason }
    | .ok text => during s!"Invalid config '{path}'" (Settings.ofJsonText text)
  | none =>
    plainly (Settings.validated
      { tableName := a.table, incrementSize := a.increment, initialValue := a.initial,
        optimizer := a.optimizer })

/-- The report on a simulation. -/
def report (a : SimulateArguments) (file : Except String String) :
    Except Failure SimulationReport := do
  if a.threads = 0 then throw { cause := .text "--threads must be at least 1" }
  let settings ← settings a file
  let d ← plainly (Dialect.ofText a.dialect)
  let g ← plainly (Generator.configure settings d)
  let db ← during "Failed to create the counter table" (g.freshDatabase d)
  plainly (Simulation.run g db (Simulation.workerByWorker a.threads a.allocations))

end SimulateArguments

namespace Command

/-- The file that a command reads. -/
def file? : Command → Option String
  | script _ => none
  | simulate a => a.config

/-- Lines of text. -/
def printed (lines : List String) : String := String.join (lines.map (· ++ "\n"))

/-- What a command prints, and how it fails. -/
def run (file : Except String String) : Command → CommandResult
  | .script a =>
    match a.script with
    | .ok statements => { output := printed (statements.map (· ++ ";")) }
    | .error f => { failure := some f }
  | .simulate a =>
    match a.report file with
    | .ok report =>
      { output := printed report.lines
        failure :=
          if report.duplicates = 0 then none
          else some { cause := .text s!"{report.duplicates} duplicate identifiers allocated" } }
    | .error f => { failure := some f }

end Command

end CounterTable
