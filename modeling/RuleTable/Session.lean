import RuleTable.Transpile

/-!
Sessions: how a program uses what is defined here that does so more than once. A session keeps a
generator, a list of lines and a sink, and works on them step by step: it reads lines, copies them,
drops and compares them, and asks for the code of those it has or writes it. No step ends it,
whatever its result, and a step that names a line which is not there changes nothing.
-/
namespace RuleTable

structure Session where
  generator : Generator := {}
  lines : Grammar := []
  sink : Sink := {}

inductive Step
  | indentation (value : Text)
  | parseText (text : Text)
  | parseLine (number : Nat) (raw : Text)
  | copyLine (index : Nat)
  | removeLine (index : Nat)
  | reverse
  | clear
  | compare (first second : Nat)
  | fragments (index : Nat)
  | code
  | replaceSink (sink : Sink)
  | write

/-- In which respects two lines agree. -/
structure Agreement where
  line : Bool
  rule : Bool
  definition : Bool

def Agreement.between (a b : Line) : Agreement :=
  ⟨a = b, a.rule = b.rule, a.definition = b.definition⟩

inductive StepResult
  | done
  | count (lines : Nat)
  | countAndLine (lines : Nat) (line : Line)
  | agreement (a : Agreement)
  | fragments (result : Except RepeatedToken (List Text))
  | code (result : Except RepeatedToken Text)
  | written (result : Except TranspileError Unit) (sink : Sink)
  | noSuchLine

namespace Session

/-- Replaces the lines and reports how many there are now. -/
def withLines (s : Session) (lines : Grammar) : StepResult × Session :=
  (.count lines.length, { s with lines := lines })

def step (s : Session) : Step → StepResult × Session
  | .indentation value => (.done, { s with generator := ⟨value⟩ })
  | .parseText text => s.withLines (s.lines ++ Grammar.parse text)
  | .parseLine number raw =>
    let line := Line.parse number raw
    (.countAndLine (s.lines.length + 1) line, { s with lines := s.lines ++ [line] })
  | .copyLine index =>
    match s.lines[index]? with
    | some line => s.withLines (s.lines ++ [line])
    | none => (.noSuchLine, s)
  | .removeLine index =>
    match s.lines[index]? with
    | some line =>
      let lines := s.lines.eraseIdx index
      (.countAndLine lines.length line, { s with lines := lines })
    | none => (.noSuchLine, s)
  | .reverse => s.withLines s.lines.reverse
  | .clear => s.withLines []
  | .compare first second =>
    match s.lines[first]?, s.lines[second]? with
    | some a, some b => (.agreement (.between a b), s)
    | _, _ => (.noSuchLine, s)
  | .fragments index =>
    match s.lines[index]? with
    | some line => (.fragments (s.generator.fragments line), s)
    | none => (.noSuchLine, s)
  | .code => (.code (s.generator.code s.lines), s)
  | .replaceSink sink => (.done, { s with sink := sink })
  | .write =>
    let (result, sink) := s.generator.writeTo s.lines s.sink
    (.written result sink, { s with sink := sink })

/-- What a step reports, from the session before it. -/
def stepEvents (s : Session) : Step → List Event
  | .parseText text => Grammar.parseEvents text
  | .parseLine number raw => Line.events number raw
  | .code | .write => s.generator.codeEvents s.lines
  | _ => []

/-- The result of each step in order. -/
def run (s : Session) : List Step → List StepResult
  | [] => []
  | step :: rest => (s.step step).1 :: run (s.step step).2 rest

def runEvents (s : Session) : List Step → List Event
  | [] => []
  | step :: rest => s.stepEvents step ++ runEvents (s.step step).2 rest

end Session

end RuleTable
