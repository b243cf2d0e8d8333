import RuleTable.Directory
import RuleTable.Event

/-!
A grammar definition is read line by line. Blank lines are left out and still counted, so a line
has the number that an editor shows for it. The same numbered lines give both what was read and
the events that reading reports.

Files come from any function that reads a path, so the same definitions serve a directory kept in
memory and the one that a program runs in.
-/
namespace RuleTable

open Text

abbrev Grammar := List Line

namespace Grammar

/-- The lines that are not blank, each with its number from one on. -/
def numberedLines (s : Text) : List (Nat × Text) :=
  ((lines s).zipIdx 1).filterMap (fun (raw, number) =>
    if isBlank raw then none else some (number, raw))

def parse (s : Text) : Grammar :=
  (numberedLines s).map (fun (number, raw) => Line.parse number raw)

def parseEvents (s : Text) : List Event :=
  (numberedLines s).flatMap (fun (number, raw) => Line.events number raw)

def rules (g : Grammar) : List Rule := g.filterMap Line.rule

def definitions (g : Grammar) : List Definition := g.filterMap Line.definition

def ofBytes (bytes : Bytes) : Grammar := parse (Utf8.decode bytes)

/-- What reading the bytes of the file `path` reports. Replaced bytes are reported once and before
any line, the counts at the end. -/
def ofBytesEvents (path : Text) (bytes : Bytes) : List Event :=
  (if Utf8.isWellFormed bytes then [] else [.replacedBytes path]) ++
    parseEvents (Utf8.decode bytes) ++
    [.parsedGrammar path (ofBytes bytes).length (ofBytes bytes).rules.length]

end Grammar

/-- A result and what was reported on the way. -/
structure Traced (α : Type) where
  result : α
  events : List Event

abbrev FileReader := Text → Except ReadError Bytes

/-- A grammar file that cannot be read. -/
structure LoadError where
  path : Text
  cause : ReadError
deriving DecidableEq

def LoadError.message (e : LoadError) : Text :=
  "ParsingError in " ++ e.path ++ ": Could not read grammar: " ++ e.cause.message

def Grammar.load (read : FileReader) (path : Text) : Traced (Except LoadError Grammar) :=
  match read path with
  | .error cause => ⟨.error ⟨path, cause⟩, []⟩
  | .ok bytes => ⟨.ok (ofBytes bytes), ofBytesEvents path bytes⟩

end RuleTable
