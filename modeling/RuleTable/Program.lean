import RuleTable.Dump
import RuleTable.Log.Filter
import RuleTable.Log.Record
import RuleTable.Tool
import RuleTable.Transpile

/-!
A run of a tool. What the tool makes of its file is a report, which knows nothing of log filters;
the filter then picks the events that are shown. So logging changes neither the exit status nor
what is printed, and a failure is told even if all events are off.
-/
namespace RuleTable

/-- What a tool made of its file: all events, and the message of the failure if it failed. -/
structure Report where
  stdout : Bytes
  events : List Event
  failure : Option Text

inductive Notice
  | logged (e : Event)
  | plain (t : Text)
deriving DecidableEq

structure Outcome where
  status : Nat
  stdout : Bytes
  notices : List Notice
deriving DecidableEq

namespace Notice

def render (stamp : Text) : Notice → Text
  | .logged e => e.record stamp
  | .plain t => t

end Notice

/-- The notices as lines of text, with one stamp for all records. -/
def Outcome.stderr (stamp : Text) (o : Outcome) : Text :=
  o.notices.flatMap (fun notice => notice.render stamp ++ "\n")

/-- The events that the filter admits, then the message of the failure. -/
def Report.outcome (r : Report) (f : Filter) : Outcome where
  status := if r.failure.isSome then 1 else 0
  stdout := r.stdout
  notices := (r.events.filter f.admits).map .logged ++ r.failure.toList.map .plain

namespace Tool

def report (t : Tool) (read : FileReader) (path : Text) : Report :=
  match t with
  | .generator =>
    let done := transpile read path {}
    match done.result with
    | (.ok (), sink) => ⟨sink.written, done.events, none⟩
    | (.error e, sink) => ⟨sink.written, done.events ++ [.aborting path], some e.message⟩
  | .dumper =>
    let loaded := Grammar.load read path
    match loaded.result with
    | .ok lines => ⟨Utf8.encode (lines.dump ++ "\n"), loaded.events, none⟩
    | .error e => ⟨[], loaded.events, some e.message⟩

/-- A whole run, from the words of the command line and the variable that may hold a filter. A
filter that cannot be read ends the run before the file is looked at. -/
def run (t : Tool) (words : List Text) (setting : Option Text) (read : FileReader) : Outcome :=
  match Invocation.ofWords words with
  | .error e => ⟨2, [], [.plain (t.usageMessage e)]⟩
  | .ok .help => ⟨0, Utf8.encode t.helpText, []⟩
  | .ok .version => ⟨0, Utf8.encode versionText, []⟩
  | .ok (.run path verbosity) =>
    match Filter.choose setting verbosity with
    | .error e => ⟨1, [], [.plain ("Invalid log filter: " ++ e.message)]⟩
    | .ok filter => (t.report read path).outcome filter

end Tool

end RuleTable
