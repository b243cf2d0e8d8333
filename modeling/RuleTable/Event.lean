import RuleTable.Line

/-!
The events that a run reports, one constructor a cause, each with its level and the facts that its
record shows. Reading a line reports what became of it: nothing for a line that is only a comment,
one warning for a line that is passed through, and for a rule one event, preceded by a warning if
its markers are mixed.
-/
namespace RuleTable

/-- Severity levels, from errors down to traces. -/
inductive Level
  | error
  | warn
  | info
  | debug
  | trace
deriving DecidableEq

namespace Level

/-- The number of a level in filters, where zero is for no events at all. -/
def rank : Level → Nat
  | .error => 1
  | .warn => 2
  | .info => 3
  | .debug => 4
  | .trace => 5

/-- A ceiling admits its own level and the more severe ones. -/
def admits (ceiling level : Level) : Bool := level.rank ≤ ceiling.rank

/-- The spelling in filters. -/
def name : Level → Text
  | .error => "error"
  | .warn => "warn"
  | .info => "info"
  | .debug => "debug"
  | .trace => "trace"

/-- The spelling in log records. -/
def tag : Level → Text
  | .error => "ERROR"
  | .warn => "WARN"
  | .info => "INFO"
  | .debug => "DEBUG"
  | .trace => "TRACE"

def all : List Level := [.error, .warn, .info, .debug, .trace]

/-- Each verbosity flag on the command line raises the ceiling by one, from warnings up. -/
def ofVerbosity : Nat → Level
  | 0 => .warn
  | 1 => .info
  | 2 => .debug
  | _ => .trace

end Level

inductive Event
  | notDefinition (line : Nat) (raw : Text)
  | missingPart (line : Nat) (raw : Text)
  | noOperands (line : Nat) (label : Text)
  | mixedMarkers (line : Nat) (label : Text) (used : Frequency)
  | parsedRule (line : Nat) (label : Text) (kind : Kind) (frequency : Frequency) (operands : Nat)
  | replacedBytes (path : Text)
  | parsedGrammar (path : Text) (lines rules : Nat)
  | generatedCode (lines statements : Nat)
  | aborting (path : Text)
deriving DecidableEq

/-- A value of a field: a quoted text is shown as a string literal, any other as it is. -/
inductive FieldValue
  | number (n : Nat)
  | text (t : Text)
  | quoted (t : Text)
deriving DecidableEq

namespace Event

def level : Event → Level
  | .notDefinition .. | .missingPart .. | .noOperands .. | .mixedMarkers .. => .warn
  | .parsedRule .. => .debug
  | .replacedBytes .. => .warn
  | .parsedGrammar .. | .generatedCode .. => .info
  | .aborting .. => .error

/-- The module path that log filters know an event by. -/
def origin : Event → Text
  | .generatedCode .. => "rulegen::backends::rust::codegen"
  | .aborting .. => "rulegen"
  | _ => "rulegen::parser::rules"

def message : Event → Text
  | .notDefinition _ raw => "Not a rule definition, passing through: " ++ raw
  | .missingPart _ raw => "Rule is missing its label or body, passing through: " ++ raw
  | .noOperands _ label => "Rule '" ++ label ++ "' has no operands, passing through"
  | .mixedMarkers _ label used =>
    "Rule '" ++ label ++ "' mixes repetition markers, using " ++ used.name
  | .parsedRule .. => "Parsed rule"
  | .replacedBytes _ => "Grammar is not valid UTF-8, invalid bytes were replaced"
  | .parsedGrammar .. => "Parsed grammar definition"
  | .generatedCode .. => "Generated registration code"
  | .aborting _ => "Aborting"

def fields : Event → List (Text × FieldValue)
  | .notDefinition line _ | .missingPart line _ | .noOperands line _ | .mixedMarkers line _ _ =>
    [("line", .number line)]
  | .parsedRule line label kind frequency operands =>
    [("line", .number line), ("label", .quoted label), ("kind", .text kind.tag),
      ("frequency", .text frequency.name), ("operands", .number operands)]
  | .replacedBytes path => [("path", .text path)]
  | .parsedGrammar path lines rules =>
    [("path", .text path), ("lines", .number lines), ("rules", .number rules)]
  | .generatedCode lines statements =>
    [("lines", .number lines), ("statements", .number statements)]
  | .aborting path => [("grammar", .text path)]

/-- The names that log filters know the parts of an event by. The message is one of the parts. -/
def fieldNames (e : Event) : List Text := "message" :: e.fields.map Prod.fst

end Event

def Definition.events (number : Nat) (d : Definition) : List Event :=
  (if d.rule.mixedMarkers then [.mixedMarkers number d.label d.rule.frequency] else []) ++
    [.parsedRule number d.label d.rule.kind d.rule.frequency d.rule.operands.length]

def Reading.events (number : Nat) (raw : Text) : Reading → List Event
  | .blank => []
  | .notDefinition => [.notDefinition number raw]
  | .missingPart => [.missingPart number raw]
  | .noOperands label => [.noOperands number label]
  | .defines d => d.events number

/-- What reading `raw` as the line of this number reports. -/
def Line.events (number : Nat) (raw : Text) : List Event := (Line.reading raw).events number raw

end RuleTable
