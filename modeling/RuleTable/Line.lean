import RuleTable.Rule

/-!
A line of a grammar definition is `label: body // comment`. The part before the comment is read in
one of five ways, and only one of them defines a rule; reading never fails, and a line that
defines nothing is kept as it stands.
-/
namespace RuleTable

open Text

structure Definition where
  label : Text
  rule : Rule
deriving DecidableEq

/-- What the part of a line before its comment says. -/
inductive Reading
  | blank
  | notDefinition
  | missingPart
  | noOperands (label : Text)
  | defines (d : Definition)
deriving DecidableEq

/-- A definition has exactly one colon, and text on both sides of it. -/
def Reading.ofText (s : Text) : Reading :=
  match s.splitOn ':' with
  | [left, right] =>
    let label := trim left
    let body := trim right
    if label.isEmpty || body.isEmpty then .missingPart
    else
      match Rule.ofBody? body with
      | some rule => .defines ⟨label, rule⟩
      | none => .noOperands label
  | _ => if isBlank s then .blank else .notDefinition

def Reading.definition? : Reading → Option Definition
  | .defines d => some d
  | _ => none

structure Line where
  number : Nat
  text : Text
  /-- Everything from the first `//` on. -/
  comment : Option Text
  definition : Option Definition
deriving DecidableEq

namespace Line

def label (l : Line) : Option Text := l.definition.map Definition.label

def rule (l : Line) : Option Rule := l.definition.map Definition.rule

/-- How the part of `raw` before its comment reads. -/
def reading (raw : Text) : Reading := Reading.ofText (cutDoubled '/' raw).1

def parse (number : Nat) (raw : Text) : Line where
  number := number
  text := raw
  comment := (cutDoubled '/' raw).2
  definition := (reading raw).definition?

end Line

end RuleTable
