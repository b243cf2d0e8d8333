import RuleTable.Registration
import RuleTable.Sink

/-!
From a file of grammar to registration code in a sink. All code is generated before the first byte
is written, so an unreadable file or a repeated token leaves the sink as it was.
-/
namespace RuleTable

inductive TranspileError
  | load (e : LoadError)
  | repeatedToken (e : RepeatedToken)
  | sink (e : SinkError)
deriving DecidableEq

def TranspileError.message : TranspileError → Text
  | .load e => e.message
  | .repeatedToken e => e.message
  | .sink e => "Could not write generated code: " ++ e.message

/-- Writes all bytes and then flushes, or stops at the first failure. -/
def Sink.deliver (s : Sink) (bytes : Bytes) : Except SinkError Unit × Sink :=
  match s.writeAll bytes with
  | (.ok (), s) => s.flush
  | (.error e, s) => (.error e, s)

def Generator.writeTo (g : Generator) (lines : Grammar) (s : Sink) :
    Except TranspileError Unit × Sink :=
  match g.code lines with
  | .error e => (.error (.repeatedToken e), s)
  | .ok code =>
    let (result, s) := s.deliver (Utf8.encode code)
    (result.mapError .sink, s)

/-- The code of a grammar file, indented by a tab. -/
def transpile (read : FileReader) (path : Text) (s : Sink) :
    Traced (Except TranspileError Unit × Sink) :=
  let g : Generator := {}
  let loaded := Grammar.load read path
  match loaded.result with
  | .error e => ⟨(.error (.load e), s), loaded.events⟩
  | .ok lines => ⟨g.writeTo lines s, loaded.events ++ g.codeEvents lines⟩

end RuleTable
