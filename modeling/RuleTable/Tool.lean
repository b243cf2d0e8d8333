import RuleTable.Text.Basic

/-!
The two command-line tools, how they read their command lines, and the texts that they show about
themselves: one prints the registration code of a grammar file, the other its dump.

Both tools take one path, a flag for more log output that may be repeated, and the two flags that
only show a text. Arguments are read from left to right, and the first that settles the run does so:
a text that is asked for, or a fault. The count of the repeated flag stops at 255.
-/
namespace RuleTable

inductive Argument
  | verbose
  | help
  | version
  | path (path : Text)
  | unknown (argument : Text)
deriving DecidableEq

namespace Argument

def ofShort : Char → Argument
  | 'v' => .verbose
  | 'h' => .help
  | 'V' => .version
  | c => .unknown ['-', c]

def ofLong (name : Text) : Argument :=
  if name = "verbose".toList then .verbose
  else if name = "help".toList then .help
  else if name = "version".toList then .version
  else .unknown ("--" ++ name)

/-- One word may hold several short flags. A dash alone is a path. -/
def ofWord : Text → List Argument
  | '-' :: '-' :: name => [ofLong name]
  | '-' :: c :: rest => (c :: rest).map ofShort
  | word => [.path word]

/-- Two dashes alone end the flags. -/
def ofWords : List Text → List Argument
  | [] => []
  | word :: rest => if word = ['-', '-'] then rest.map .path else ofWord word ++ ofWords rest

end Argument

inductive UsageError
  | unexpected (argument : Text)
  | emptyPath
  | missingPath
deriving DecidableEq

inductive Invocation
  | help
  | version
  | run (path : Text) (verbosity : Nat)
deriving DecidableEq

namespace Invocation

def mostVerbose : Nat := 255

def ofArguments (path : Option Text) (verbosity : Nat) :
    List Argument → Except UsageError Invocation
  | [] =>
    match path with
    | some path => .ok (.run path verbosity)
    | none => .error .missingPath
  | .verbose :: rest => ofArguments path (min (verbosity + 1) mostVerbose) rest
  | .help :: _ => .ok .help
  | .version :: _ => .ok .version
  | .unknown argument :: _ => .error (.unexpected argument)
  | .path argument :: rest =>
    if path.isSome then .error (.unexpected argument)
    else if argument.isEmpty then .error .emptyPath
    else ofArguments (some argument) verbosity rest

def ofWords (words : List Text) : Except UsageError Invocation :=
  ofArguments none 0 (Argument.ofWords words)

end Invocation

inductive Tool
  | generator
  | dumper
deriving DecidableEq

namespace Tool

def name : Tool → Text
  | .generator => "rulegen"
  | .dumper => "rulegen-dump"

def versionText : Text := "rulegen 0.1.0\n"

def usageLine (t : Tool) : Text := "Usage: " ++ t.name ++ " [OPTIONS] <GRAMMAR>\n"

def summary : Tool → Text
  | .generator =>
    "Transpile line-based grammar rule definitions into parser-table registration code"
  | .dumper => "Print the parsed lines of a grammar definition as JSON"

def pathHelp : Tool → Text
  | .generator => "Grammar definition file with one rule per line"
  | .dumper => ""

def verboseHelp : Tool → Text
  | .generator => "Increase log output on stderr (-v, -vv, -vvv)"
  | .dumper => ""

def helpText (t : Tool) : Text :=
  t.summary ++ "\n\n" ++ t.usageLine ++ "\nArguments:\n  <GRAMMAR>  " ++ t.pathHelp ++
    "\n\nOptions:\n  -v, --verbose...  " ++ t.verboseHelp ++
    "\n  -h, --help        Print help\n  -V, --version     Print version\n"

def usageMessage (t : Tool) (e : UsageError) : Text :=
  "error: " ++
    (match e with
      | .unexpected argument => "unexpected argument '" ++ argument ++ "' found"
      | .emptyPath => "a value is required for '<GRAMMAR>' but none was supplied"
      | .missingPath =>
        "the following required arguments were not provided:\n  <GRAMMAR>") ++
    "\n\n" ++ t.usageLine ++ "\nFor more information, try '--help'."

end Tool

end RuleTable
