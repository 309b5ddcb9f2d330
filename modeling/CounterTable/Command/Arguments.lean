import CounterTable.Blocks.Optimizer

/-!
# Command line arguments

A command line names a command and gives it parameters. Parameters may stand in any order, each at
most once, as `--name value` or `--name=value`; switches have no value. What begins with a hyphen is
no value, except a negative number where one is expected, or where `=` stands before it.

* `Parameter`, `readParameters`: the parameters of a command;
* `ScriptArguments`, `SimulateArguments`, `Command`: the commands;
* `Command.ofArguments`: the command of a command line.
-/

namespace CounterTable

open CounterTable.Text

/-- Why a command line is not run. -/
inductive Usage where
  /-- Help is asked for. -/
  | help
  | invalid
deriving DecidableEq, Repr

/-- What a parameter does to the arguments of its command. -/
inductive ParameterEffect (α : Type) where
  | switch (set : α → α)
  /-- Takes a value, which may be a negative number and may be refused. -/
  | value (negative : Bool) (set : String → α → Option α)

/-- A parameter of a command. -/
structure Parameter (α : Type) where
  name : String
  effect : ParameterEffect α

/-- The name of a long argument, and the value attached to it. -/
def longArgument? (arg : String) : Option (String × Option String) :=
  match arg.toList with
  | '-' :: '-' :: cs =>
    let name := String.ofList (cs.takeWhile (· != '='))
    match cs.dropWhile (· != '=') with
    | [] => some (name, none)
    | _ :: value => some (name, some (String.ofList value))
  | _ => none

/-- Whether an argument can be the value of the parameter before it. -/
def isValueArgument (negative : Bool) (arg : String) : Bool :=
  match arg.toList with
  | '-' :: c :: cs => negative && (readInt? ('-' :: c :: cs)).isSome
  | _ => true

variable {α : Type}

/-- Reads the parameters of a command, in at most so many steps; `seen` are the names of those read
so far. -/
def readParametersWithin (ps : List (Parameter α)) :
    Nat → List String → α → List String → Except Usage (α × List String)
  | _, seen, a, [] => .ok (a, seen)
  | 0, _, _, _ :: _ => .error .invalid
  | steps + 1, seen, a, arg :: rest =>
    if arg = "--" then if rest = [] then .ok (a, seen) else .error .invalid
    else
      match longArgument? arg with
      | none => .error (if arg.startsWith "-h" then .help else .invalid)
      | some ("help", attached) => .error (if attached.isNone then .help else .invalid)
      | some (name, attached) =>
        match ps.find? (·.name == name) with
        | none => .error .invalid
        | some p =>
          if name ∈ seen then .error .invalid
          else
            match p.effect, attached, rest with
            | .switch set, none, rest => readParametersWithin ps steps (name :: seen) (set a) rest
            | .switch _, some _, _ => .error .invalid
            | .value _ set, some v, rest =>
              match set v a with
              | some a => readParametersWithin ps steps (name :: seen) a rest
              | none => .error .invalid
            | .value _ _, none, [] => .error .invalid
            | .value negative set, none, v :: rest =>
              if isValueArgument negative v then
                match set v a with
                | some a => readParametersWithin ps steps (name :: seen) a rest
                | none => .error .invalid
              else .error .invalid

/-- Reads the parameters of a command over its default arguments; the given one is required. -/
def readParameters (ps : List (Parameter α)) (required : Option String) (default : α)
    (args : List String) : Except Usage α := do
  let (a, seen) ← readParametersWithin ps args.length [] default args
  match required with
  | none => return a
  | some name => if name ∈ seen then return a else throw .invalid

/-- A count that a text spells, with an optional plus sign. -/
def readCount? (text : String) : Option Nat :=
  let digits := match text.toList with
    | '+' :: cs => cs
    | cs => cs
  (readNat? digits).bind fun n => if n < UInt64.size then some n else none

/-- Arguments of the command that prints a script for a counter table. -/
structure ScriptArguments where
  table : String := ""
  column : String := "next_val"
  initial : Int64 := 1
  dialect : String := "generic"
  drop : Bool := false
deriving DecidableEq, Repr

namespace ScriptArguments

/-- The parameters, with their names. -/
def parameters : List (Parameter ScriptArguments) :=
  [⟨"table", .value false fun v a => some { a with table := v }⟩,
    ⟨"column", .value false fun v a => some { a with column := v }⟩,
    ⟨"initial", .value true fun v a => (readWord? v.toList).map ({ a with initial := · })⟩,
    ⟨"dialect", .value false fun v a => some { a with dialect := v }⟩,
    ⟨"drop", .switch fun a => { a with drop := true }⟩]

end ScriptArguments

/-- Arguments of the command that simulates workers. -/
structure SimulateArguments where
  threads : Nat := 4
  /-- The calls of each worker. -/
  allocations : Nat := 100
  increment : Int64 := 1
  optimizer : Option OptimizerKind := none
  initial : Int64 := 1
  table : String := "id_sequence"
  dialect : String := "generic"
  /-- A file with the settings, which replace those given here. -/
  config : Option String := none
deriving DecidableEq, Repr

namespace SimulateArguments

/-- The parameters, with their names. -/
def parameters : List (Parameter SimulateArguments) :=
  [⟨"threads", .value false fun v a => (readCount? v).map ({ a with threads := · })⟩,
    ⟨"allocations", .value false fun v a => (readCount? v).map ({ a with allocations := · })⟩,
    ⟨"increment", .value false fun v a => (readWord? v.toList).map ({ a with increment := · })⟩,
    ⟨"optimizer", .value false fun v a =>
      (OptimizerKind.ofText v).toOption.map ({ a with optimizer := some · })⟩,
    ⟨"initial", .value true fun v a => (readWord? v.toList).map ({ a with initial := · })⟩,
    ⟨"table", .value false fun v a => some { a with table := v }⟩,
    ⟨"dialect", .value false fun v a => some { a with dialect := v }⟩,
    ⟨"config", .value false fun v a => if v = "" then none else some { a with config := some v }⟩]

end SimulateArguments

/-- The commands. -/
inductive Command where
  /-- Prints the script that creates or drops a counter table. -/
  | script (args : ScriptArguments)
  /-- Draws from a fresh database with several workers. -/
  | simulate (args : SimulateArguments)
deriving DecidableEq, Repr

namespace Command

/-- The command of a command line. -/
def ofArguments : List String → Except Usage Command
  | [] => .error .help
  | ["--"] => .error .help
  | "help" :: names =>
    .error (if names = [] ∨ names ∈ [["ddl"], ["simulate"], ["help"]] then .help else .invalid)
  | "ddl" :: args =>
    (readParameters ScriptArguments.parameters (some "table") {} args).map .script
  | "simulate" :: args =>
    (readParameters SimulateArguments.parameters none {} args).map .simulate
  | arg :: _ => .error (if arg = "--help" ∨ arg.startsWith "-h" then .help else .invalid)

end Command

end CounterTable
