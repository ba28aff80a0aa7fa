import ApiResolution.Command.Arguments

/-!
The command line: reads the files that a command names, runs it and prints what it gives.
-/

open ApiResolution

/-- The text of a file, or why it cannot be read. -/
def readText (path : String) : IO FileText := do
  match ← (IO.FS.readFile path).toBaseIO with
  | .ok text => return .ok text
  | .error (.noFileOrDirectory ..) => return .error Command.missingFile
  | .error e => return .error (toString e)

/-- Reads the files of a command. -/
def readInput (a : Arguments) (path : String) : IO CommandInput := do
  let config ← match a.config with
    | none => pure none
    | some file => do pure (some (file, ← readText file))
  return { documentPath := path, document := ← readText path, config, assignments := a.assignments }

/-- Prints what went wrong. -/
def complain (f : CommandFailure) : IO UInt32 := do
  IO.eprintln ("Error: " ++ f.message?.getD "the input cannot be read")
  return 1

/-- Writes a text to a file, or prints it. -/
def deliver (output : Option String) (text : String) : IO UInt32 := do
  match output with
  | some path => IO.FS.writeFile path text
  | none => IO.println text
  return 0

/-- Runs a command. -/
def runCommand (command : String) (a : Arguments) (path : String) : IO UInt32 := do
  let input ← readInput a path
  match command with
  | "resolve" =>
    match Command.resolve input a.format a.refuseDiagnostics with
    | .ok text => deliver a.output text
    | .error f => complain f
  | _ =>
    match Command.models { input with config := none } with
    | .ok lines => deliver none ("\n".intercalate lines)
    | .error f => complain f

def main (words : List String) : IO UInt32 := do
  match words with
  | command :: rest =>
    match (["resolve", "models"].contains command), Arguments.read? {} rest with
    | true, some a =>
      match a.input with
      | some path => runCommand command a path
      | none => do IO.eprintln Arguments.usage; return 2
    | _, _ => do IO.eprintln Arguments.usage; return 2
  | [] => do IO.eprintln Arguments.usage; return 2
