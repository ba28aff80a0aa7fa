import ApiResolution.Command

/-!
The words after the name of the program: a command and its options, each option followed by its
value.
-/

namespace ApiResolution

/-- The words of a run, sorted out. -/
structure Arguments where
  /-- The document. -/
  input : Option String := none
  config : Option String := none
  assignments : List String := []
  format : OutputFormat := .json
  /-- The file to write; the standard output when there is none. -/
  output : Option String := none
  refuseDiagnostics : Bool := false

namespace Arguments

/-- How the program is called. -/
def usage : String :=
  "usage: resolve --input FILE [--config FILE] [-p KEY=VALUE]... [--format json|yaml]\n" ++
  "               [--output FILE] [--deny-diagnostics]\n" ++
  "       models --input FILE [-p KEY=VALUE]..."

/-- The format of a word. -/
def format? : String → Option OutputFormat
  | "json" => some .json
  | "yaml" => some .yaml
  | _ => none

/-- Takes up the options among words, from left to right; nothing for words that are none. -/
def read? (a : Arguments) : List String → Option Arguments
  | [] => some a
  | [word] => if word = "--deny-diagnostics" then some { a with refuseDiagnostics := true } else none
  | word :: value :: rest =>
    if word = "--deny-diagnostics" then read? { a with refuseDiagnostics := true } (value :: rest)
    else if word = "--input" ∨ word = "-i" then read? { a with input := some value } rest
    else if word = "--config" ∨ word = "-c" then read? { a with config := some value } rest
    else if word = "--output" ∨ word = "-o" then read? { a with output := some value } rest
    else if word = "--property" ∨ word = "-p" then
      read? { a with assignments := a.assignments ++ [value] } rest
    else if word = "--format" then
      match format? value with
      | some format => read? { a with format } rest
      | none => none
    else none

end Arguments
end ApiResolution
