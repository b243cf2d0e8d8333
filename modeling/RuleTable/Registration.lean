import RuleTable.Grammar

/-!
Registration code. Every line of a grammar becomes two lines of code: a comment that repeats it,
and the statement that registers its rule, if it defines one, with its own comment behind. Labels
and operands are pasted between quotes as they are. A token that repeats has no registration, and
one such token anywhere means that nothing is generated.
-/
namespace RuleTable

/-- A token rule with a repetition, which the parser table cannot hold. -/
structure RepeatedToken where
  label : Text
  line : Nat
  frequency : Frequency
deriving DecidableEq

def RepeatedToken.message (e : RepeatedToken) : Text :=
  "Unexpected frequency " ++ e.frequency.name ++ " for token rule '" ++ e.label ++
    "' on line " ++ Text.decimal e.line

namespace Rule

def operandList (r : Rule) : Text :=
  List.intercalate ", " (r.operands.map (fun operand => "\"" ++ operand ++ "\""))

/-- The call that builds the table entry of a rule, if it has one. -/
def call? (r : Rule) : Option Text :=
  match r.kind, r.frequency.marker? with
  | .token, none => some ("create_label_match(vec![" ++ r.operandList ++ "])")
  | .token, some _ => none
  | .conjunction, none => some ("create_and_rule_once( vec![" ++ r.operandList ++ "])")
  | .conjunction, some marker =>
    some ("create_and_rule(" ++ marker ++ ", vec![" ++ r.operandList ++ "])")
  | .disjunction, none => some ("create_or_rule_once( vec![" ++ r.operandList ++ "])")
  | .disjunction, some marker =>
    some ("create_or_rule(" ++ marker ++ ", vec![" ++ r.operandList ++ "])")

end Rule

def Definition.statement? (d : Definition) : Option Text :=
  d.rule.call?.map (fun call => "result.insert(\"" ++ d.label ++ "\", " ++ call ++ ");")

structure Generator where
  /-- What stands before every generated comment and statement. -/
  indentation : Text := ['\t']

namespace Generator

/-- The statement of a line as a list of at most one piece. -/
def statement (g : Generator) (l : Line) : Except RepeatedToken (List Text) :=
  match l.definition with
  | none => .ok []
  | some d =>
    match d.statement? with
    | some code => .ok [g.indentation ++ code]
    | none => .error ⟨d.label, l.number, d.rule.frequency⟩

/-- The pieces of the code for one line: its echo, its statement, its comment, a newline. -/
def fragments (g : Generator) (l : Line) : Except RepeatedToken (List Text) :=
  (g.statement l).map (fun statement =>
    (g.indentation ++ "// " ++ l.text ++ "\n") :: statement ++ l.comment.toList ++ [['\n']])

/-- The code for all lines, or the first token that repeats. -/
def code (g : Generator) (lines : Grammar) : Except RepeatedToken Text :=
  (lines.mapM g.fragments).map (fun pieces => pieces.flatten.flatten)

/-- Generated code is reported; a refusal is not. -/
def codeEvents (g : Generator) (lines : Grammar) : List Event :=
  match g.code lines with
  | .ok _ => [.generatedCode lines.length lines.definitions.length]
  | .error _ => []

end Generator

end RuleTable
