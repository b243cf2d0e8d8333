import RuleTable.Text.Basic

/-!
Rules of the parser table, and how the body of a definition is read as one. A token is atomic, a
conjunction wants all its operands in sequence, a disjunction any one of them, and each may repeat.
-/
namespace RuleTable

open Text

/-- How often a rule has to match. -/
inductive Frequency
  | one
  | oneOrMore
  | zeroOrOne
  | zeroOrMore
deriving DecidableEq

namespace Frequency

/-- A marker may stand anywhere in a body: `*` goes before `?`, and `?` before `+`, if there are
several. -/
def ofBody (body : Text) : Frequency :=
  if '*' ∈ body then .zeroOrMore
  else if '?' ∈ body then .zeroOrOne
  else if '+' ∈ body then .oneOrMore
  else .one

/-- The spelling in messages. -/
def name : Frequency → Text
  | .one => "one"
  | .oneOrMore => "one_or_more"
  | .zeroOrOne => "zero_or_one"
  | .zeroOrMore => "zero_or_more"

/-- The spelling in data. -/
def tag : Frequency → Text
  | .one => "One"
  | .oneOrMore => "OneOrMore"
  | .zeroOrOne => "ZeroOrOne"
  | .zeroOrMore => "ZeroOrMore"

/-- The argument of a repeated rule in generated code; a rule that matches once has none. -/
def marker? : Frequency → Option Text
  | .one => none
  | .oneOrMore => some "RuleRepeats::OneOrMore"
  | .zeroOrOne => some "RuleRepeats::ZeroOrOne"
  | .zeroOrMore => some "RuleRepeats::ZeroOrMore"

end Frequency

inductive Kind
  | token
  | conjunction
  | disjunction
deriving DecidableEq

def Kind.tag : Kind → Text
  | .token => "Token"
  | .conjunction => "Conjunction"
  | .disjunction => "Disjunction"

structure Rule where
  kind : Kind
  frequency : Frequency
  operands : List Text
  /-- The body had two different repetition markers, of which one took effect. -/
  mixedMarkers : Bool
deriving DecidableEq

/-- Tokens are atomic, so one that repeats cannot be registered. -/
def Rule.isRepeatedToken (r : Rule) : Bool := r.kind = .token ∧ r.frequency ≠ .one

/-! ### Bodies

Parentheses, repetition markers and spaces are taken out of a body first, so a mark such as `||` may
come together from two characters with a space between them. What is left is split at `||` if that
occurs, else at `&&`; empty pieces are dropped, and a body without any other piece is no rule.
-/

def repetitionMarkers : List Char := ['*', '?', '+']

def isDecoration (c : Char) : Bool := c ∈ '(' :: ')' :: ' ' :: repetitionMarkers

def bareBody (body : Text) : Text := body.filter (fun c => !isDecoration c)

def hasMixedMarkers (body : Text) : Bool :=
  1 < (repetitionMarkers.filter (fun m => m ∈ body)).length

/-- Only a disjunction uses `||`; without it a leading `_` makes a token. -/
def Kind.ofBare (bare : Text) : Kind :=
  if hasDoubled '|' bare then .disjunction
  else if bare.head? = some '_' then .token
  else .conjunction

def Kind.separator : Kind → Char
  | .disjunction => '|'
  | .token | .conjunction => '&'

def Rule.ofBody? (body : Text) : Option Rule :=
  let bare := bareBody body
  let kind := Kind.ofBare bare
  let operands := (splitDoubled kind.separator bare).filter (fun piece => !piece.isEmpty)
  if operands.isEmpty then none
  else some ⟨kind, Frequency.ofBody body, operands, hasMixedMarkers body⟩

end RuleTable
