import RuleTable.Log.Pattern.Bracket
import RuleTable.Text.Alphanumeric

/-!
Patterns for the values of fields. Log filters take a pattern only if an automaton can be built
for it, and that is all that is asked here: which texts are well-formed patterns that need no tables
of scripts and are not too high. A pattern is read from left to right; the modes hold to the end of
the group that they are set in, and a repetition needs something to repeat.
-/
namespace RuleTable.Pattern

open Text

inductive Fault
  | unbuildable
  /-- A word boundary that depends on the letters of all scripts. -/
  | wordBoundary
deriving DecidableEq

def Fault.message : Fault → Text
  | .unbuildable => "error building NFA"
  | .wordBoundary =>
    "unsupported regex feature for DFAs: cannot build DFAs for regexes with Unicode word " ++
      "boundaries; switch to ASCII word boundaries, or heuristically enable Unicode word " ++
      "boundaries or use a different regex engine"

/-- A group that is open, or the pattern as a whole. -/
structure Group where
  modes : Modes := {}
  /-- The heights of the branches that are complete. -/
  branches : List Nat := []
  /-- The heights of the parts of the branch that is being read, the latest first. -/
  parts : List Nat := []
  /-- Whether the latest part can be repeated. -/
  operand : Bool := false

namespace Group

def height (g : Group) : Nat := rowHeight (rowHeight g.parts :: g.branches)

def add (g : Group) (height : Nat) : Group :=
  { g with parts := height :: g.parts, operand := true }

def branch (g : Group) : Group :=
  { g with branches := rowHeight g.parts :: g.branches, parts := [], operand := false }

def repeat? (g : Group) : Option Group :=
  match g.operand, g.parts with
  | true, height :: parts => some { g with parts := (height + 1) :: parts }
  | _, _ => none

/-- Flags are a part that cannot be repeated. -/
def setModes (g : Group) (modes : Modes) : Group :=
  { g with modes, parts := 0 :: g.parts, operand := false }

end Group

/-- A pattern that has been read in part. -/
structure Scan where
  group : Group := {}
  /-- The groups around this one, from the inside out. -/
  outer : List Group := []
  names : List Text := []
  boundary : Bool := false

def isGroupName : Text → Bool
  | [] => false
  | c :: rest =>
    (c = '_' || isAlphabetic c) &&
      rest.all (fun c => c ∈ ['_', '.', '[', ']'] || isAlphanumeric c)

/-- Letters of modes, at most once each; those after a dash are switched off. -/
def areFlags (flags : Text) : Bool :=
  flags.all (fun c => c ∈ ['-', 'i', 'm', 's', 'u', 'x', 'R', 'U']) && flags.Nodup &&
    flags.getLast? != some '-'

def Modes.switch (m : Modes) (flags : Text) : Modes :=
  let after (flag : Char) (now : Bool) : Bool :=
    if flag ∈ flags.takeWhile (fun c => c != '-') then true else now && flag ∉ flags
  ⟨after 'i' m.ignoreCase, after 'u' m.allScripts, after 'x' m.verbose⟩

namespace Scan

def modes (s : Scan) : Modes := s.group.modes

def add (s : Scan) (height : Nat) : Scan := { s with group := s.group.add height }

def enter (s : Scan) (modes : Modes) : Scan :=
  { s with group := { modes }, outer := s.group :: s.outer }

def leave? (s : Scan) : Option Scan :=
  match s.outer with
  | [] => none
  | next :: outer => some { s with group := next.add (s.group.height + 1), outer }

def nameGroup? (s : Scan) (t : Text) : Option (Scan × Text) :=
  let name := t.takeWhile (fun c => c != '>')
  match t.dropWhile (fun c => c != '>') with
  | [] => none
  | _ :: rest =>
    if isGroupName name && !s.names.contains name then
      some ({ s with names := name :: s.names }.enter s.modes, rest)
    else none

/-- Flags for a group of their own, or for the rest of the group that they stand in. -/
def setFlags? (s : Scan) (t : Text) : Option (Scan × Text) :=
  let flags := t.takeWhile (fun c => c != ':' && c != ')')
  if !areFlags flags then none
  else
    match t.dropWhile (fun c => c != ':' && c != ')') with
    | ':' :: rest => some (s.enter (s.modes.switch flags), rest)
    | ')' :: rest =>
      if flags.isEmpty then none
      else some ({ s with group := s.group.setModes (s.modes.switch flags) }, rest)
    | _ => none

def open? (s : Scan) (t : Text) : Option (Scan × Text) :=
  match s.modes.skip t with
  | '?' :: 'P' :: '<' :: rest | '?' :: '<' :: rest => s.nameGroup? rest
  | '?' :: rest => s.setFlags? rest
  | rest => some (s.enter s.modes, rest)

def atom? (s : Scan) : Atom → Option Scan
  | .literal _ => if s.modes.foldsAll then none else some (s.add 0)
  | .shorthand | .anchor => some (s.add 0)
  | .boundary => some { s.add 0 with boundary := s.boundary || s.modes.allScripts }

/-- A repetition, with the question mark that makes it a lazy one. -/
def repeat? (s : Scan) (rest : Text) : Option (Scan × Text) :=
  s.group.repeat?.map
    (fun group => ({ s with group }, if rest.head? = some '?' then rest.tail else rest))

/-- One part of a pattern, which begins with `c`. Counted repetitions are never well-formed here,
for a value ends at the first closing brace. -/
def part? (s : Scan) (c : Char) (rest : Text) : Option (Scan × Text) :=
  match c with
  | '(' => s.open? rest
  | ')' => s.leave?.map (fun s => (s, rest))
  | '|' => some ({ s with group := s.group.branch }, rest)
  | '*' | '+' | '?' => s.repeat? rest
  | '{' => none
  | '[' => (bracket? s.modes rest).map (fun (height, rest) => (s.add height, rest))
  | '.' => if s.modes.allScripts then some (s.add 0, rest) else none
  | '^' | '$' => some (s.add 0, rest)
  | '\\' => do
    let (atom, rest) ← escape? s.modes rest
    let s ← s.atom? atom
    some (s, rest)
  | c => (s.atom? (.literal c)).map (fun s => (s, rest))

/-- The whole pattern as one group, once all the groups in it are closed. -/
def run? : Nat → Scan → Text → Option Scan
  | 0, _, _ => none
  | fuel + 1, s, t =>
    match s.modes.skip t with
    | [] => if s.outer.isEmpty then some s else none
    | c :: rest => (s.part? c rest).bind (fun (s, rest) => run? fuel s rest)

end Scan

/-- Why no automaton can be built for the pattern, if so. -/
def fault? (pattern : Text) : Option Fault :=
  match Scan.run? (pattern.length + 1) {} pattern with
  | none => some .unbuildable
  | some s =>
    if highest < s.group.height then some .unbuildable
    else if s.boundary then some .wordBoundary
    else none

end RuleTable.Pattern
