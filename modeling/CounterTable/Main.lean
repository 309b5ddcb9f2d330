import CounterTable.Command.Run

/-!
# The command line program

Reads the file that a command needs, runs the command, and prints what comes of it.
-/

namespace CounterTable

/-- The help of the program. -/
def helpText : String :=
  "Tools for counter tables\n\n" ++
  "Usage: countertable <COMMAND>\n\n" ++
  "Commands:\n" ++
  "  ddl       Print the script creating (or dropping) a counter table\n" ++
  "  simulate  Allocate concurrently against a fresh in-memory database\n" ++
  "  help      Print this message\n\n" ++
  "Options of ddl:\n" ++
  "  --table <TABLE>      Table name, possibly qualified\n" ++
  "  --column <COLUMN>    Value column [default: next_val]\n" ++
  "  --initial <INITIAL>  Initial value [default: 1]\n" ++
  "  --dialect <DIALECT>  [default: generic]\n" ++
  "  --drop               Drop the table instead\n\n" ++
  "Options of simulate:\n" ++
  "  --threads <N>        Workers [default: 4]\n" ++
  "  --allocations <N>    Allocations per worker [default: 100]\n" ++
  "  --increment <N>      Identifiers per block [default: 1]\n" ++
  "  --optimizer <NAME>   none, hilo or pooled\n" ++
  "  --initial <N>        Initial value [default: 1]\n" ++
  "  --table <TABLE>      [default: id_sequence]\n" ++
  "  --dialect <DIALECT>  [default: generic]\n" ++
  "  --config <FILE>      Settings in JSON, which replace those above\n"

/-- A failure with what lies behind it, as it is shown. -/
def Failure.text (f : Failure) : String :=
  match f.chain with
  | [] => ""
  | [outer] => s!"Error: {outer}"
  | outer :: causes =>
    s!"Error: {outer}\n\nCaused by:\n" ++ String.intercalate "\n" (causes.map ("    " ++ ·))

/-- The text of a file, or why it cannot be read. -/
def readFile (path : Option String) : IO (Except String String) := do
  match path with
  | none => return .error ""
  | some path =>
    try
      return .ok (← IO.FS.readFile path)
    catch
      | .noFileOrDirectory .. => return .error "No such file or directory (os error 2)"
      | e => return .error (toString e)

/-- Runs the command of a command line. -/
def runProgram (args : List String) : IO UInt32 := do
  match Command.ofArguments args with
  | .error .help =>
    IO.print helpText
    return if args = [] then 2 else 0
  | .error .invalid =>
    IO.eprintln "error: invalid arguments\n\nFor more information, try '--help'."
    return 2
  | .ok command =>
    let result := command.run (← readFile command.file?)
    IO.print result.output
    match result.failure with
    | none => return 0
    | some f =>
      IO.eprintln f.text
      return 1

end CounterTable

/-- The program. -/
def main (args : List String) : IO UInt32 := CounterTable.runProgram args
