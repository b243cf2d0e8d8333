import RuleTable.Event
import RuleTable.Log.Pattern
import RuleTable.Utf8

/-!
Log filters. A filter is a comma list of directives. Of the directives that apply to an event the
most specific one decides, and of two that are equally specific the later; an event that none
applies to is off. So a list without directives admits nothing.

A directive sets the level for the events whose origin begins with its target and which have its
field, if it names one: `target[{field}]=level`, of which each part may be missing. A level alone is
for every event, and without a level all events are let through. With a span's name before the
brace, or a value for the field, a directive is about spans, and no event here is in one.

A directive is read with the blanks around it left out of account, but positions are counted from
its first character and the parts are cut from the text with its blanks. So a blank in front moves
every part, and a blank behind belongs to the last part.
-/
namespace RuleTable

open Text

inductive FilterError
  | malformed
  | unknownLevel
  | pattern (fault : Pattern.Fault)
deriving DecidableEq

def FilterError.message : FilterError → Text
  | .malformed => "invalid filter directive"
  | .unknownLevel =>
    "error parsing level filter: expected one of \"off\", \"error\", \"warn\", \"info\", " ++
      "\"debug\", \"trace\", or a number 0-5"
  | .pattern fault => "invalid field filter: " ++ fault.message

structure Directive where
  /-- Where an origin has to begin; every origin begins with nothing. -/
  target : Text := []
  /-- The name of a field that an event has to have. -/
  field : Option Text := none
  /-- The ceiling, or none if the directive switches events off. -/
  ceiling : Option Level := some .trace
  forSpans : Bool := false
deriving DecidableEq

namespace Directive

/-- A ceiling by its name in any case, or by a number from zero for off to five for trace. -/
def ceiling? (s : Text) : Option (Option Level) :=
  match ordinal? s with
  | some n => if n = 0 then some none else (Level.all.find? (fun l => l.rank = n)).map some
  | none =>
    let name := s.map Char.toLower
    if name = "off".toList then some none
    else (Level.all.find? (fun l => l.name = name)).map some

/-- The part of a directive that the reading has come to, with the byte at which it begins. -/
inductive Stage
  | start
  | word
  | span (first : Nat)
  | field (first : Nat)
  | fieldDone
  | bracketDone
  | level (first : Nat)

/-- The text between two bytes. -/
def cut (s : Text) (first last : Nat) : Text :=
  Utf8.decode (((Utf8.encode s).take last).drop first)

def mayStart (c : Char) : Bool := isAlphanumeric c || c ∈ ['-', ':', '_']

/-- A field by its name, or with a value: a number or a pattern. -/
def withField (d : Directive) (part : Text) : Except FilterError Directive :=
  match part.splitOn '=' with
  | name :: value :: _ =>
    match if isNumeral value then none else Pattern.fault? value with
    | some fault => .error (.pattern fault)
    | none => .ok { d with field := some name, forSpans := true }
  | _ => .ok { d with field := some part }

/-- Goes on by the character `c`, which begins at byte `i` of the directive; parts are cut from
`text`. -/
def step (text : Text) (i : Nat) (c : Char) :
    Stage × Directive → Except FilterError (Stage × Directive)
  | (.start, d) =>
    if c = '[' then .ok (.span (i + 1), d)
    else if mayStart c then .ok (.word, d)
    else .error .malformed
  | (.word, d) =>
    if c = '=' then .ok (.level (i + 1), { d with target := cut text 0 i })
    else if c = '[' then .ok (.span (i + 1), { d with target := cut text 0 i })
    else .ok (.word, d)
  | (.span first, d) =>
    if c = ']' then .ok (.bracketDone, { d with forSpans := true })
    else if c = '{' then .ok (.field (i + 1), { d with forSpans := first < i })
    else .ok (.span first, d)
  | (.field first, d) =>
    if c = '}' then
      if first < i then (d.withField (cut text first i)).map (fun d => (.fieldDone, d))
      else .error .malformed
    else .ok (.field first, d)
  | (.fieldDone, d) => if c = ']' then .ok (.bracketDone, d) else .error .malformed
  | (.bracketDone, d) => if c = '=' then .ok (.level (i + 1), d) else .error .malformed
  | (.level first, d) => .ok (.level first, d)

def run (text : Text) (i : Nat) (reading : Stage × Directive) :
    Text → Except FilterError (Stage × Directive)
  | [] => .ok reading
  | c :: rest => do run text (i + c.utf8Size) (← step text i c reading) rest

/-- What the end of the text makes of the reading. A single word is a level or else a target. -/
def finish (text : Text) : Stage × Directive → Except FilterError Directive
  | (.word, d) =>
    match ceiling? text with
    | some ceiling => .ok { d with ceiling }
    | none => .ok { d with target := text }
  | (.bracketDone, d) => .ok d
  | (.level first, d) =>
    let level := cut text first (Utf8.encode text).length
    if level.isEmpty then .ok d
    else
      match ceiling? level with
      | some ceiling => .ok { d with ceiling }
      | none => .error .unknownLevel
  | _ => .error .malformed

def ofText (text : Text) : Except FilterError Directive := do
  finish text (← run text 0 (.start, {}) (trim text))

def applies (d : Directive) (e : Event) : Bool :=
  !d.forSpans && d.target.isPrefixOf e.origin &&
    d.field.all (fun name => e.fieldNames.contains name)

/-- At most as specific as another directive for the same event: by the length of the target, then
by the field, of which having none comes first and others in the order of their names. -/
def atMost (d other : Directive) : Bool :=
  d.target.length < other.target.length ||
    d.target.length = other.target.length &&
      match d.field, other.field with
      | none, _ => true
      | some _, none => false
      | some name, some otherName => !otherName.lex name (fun c d => c.toNat < d.toNat)

end Directive

abbrev Filter := List Directive

namespace Filter

/-- Empty pieces between commas are left out. -/
def ofText (s : Text) : Except FilterError Filter :=
  ((s.splitOn ',').filter (fun piece => !piece.isEmpty)).mapM Directive.ofText

def ofVerbosity (n : Nat) : Filter := [{ ceiling := some (Level.ofVerbosity n) }]

/-- A variable that says anything stands for the verbosity. -/
def choose (setting : Option Text) (verbosity : Nat) : Except FilterError Filter :=
  match setting with
  | none | some [] => .ok (ofVerbosity verbosity)
  | some directives => ofText directives

/-- The later of two directives unless the earlier one is more specific. -/
def moreSpecific (earlier : Option Directive) (later : Directive) : Option Directive :=
  match earlier with
  | none => some later
  | some d => if d.atMost later then some later else some d

def deciding (f : Filter) (e : Event) : Option Directive :=
  (f.filter (fun d => d.applies e)).foldl moreSpecific none

def admits (f : Filter) (e : Event) : Bool :=
  match (f.deciding e).bind Directive.ceiling with
  | some ceiling => ceiling.admits e.level
  | none => false

end Filter

end RuleTable
