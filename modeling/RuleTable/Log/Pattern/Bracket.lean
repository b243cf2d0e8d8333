import RuleTable.Log.Pattern.Escape

/-!
Classes of characters in brackets: single members, ranges whose ends are in order, named classes,
and classes inside of classes, joined by the operators `&&`, `--` and `~~`. A closing bracket that
stands first is a member, and so are dashes in front. While the classes are those of ASCII a member
has to be in ASCII, and no class can be turned round, for what is left would not be.

A pattern is a tree, and trees that are too high are not built. Its leaves are characters, places
and flags; a repetition, a group and a class in brackets stand one above what they hold, and so does
a row: parts one after the other, branches, or members of a class. A row of one part is that part
and adds nothing.
-/
namespace RuleTable.Pattern

open Text

/-- The height of the highest pattern that is built. -/
def highest : Nat := 250

/-- The height of a row whose parts have these heights. -/
def rowHeight : List Nat → Nat
  | [] => 0
  | [height] => height
  | heights => heights.foldl Nat.max 0 + 1

def classNames : List Text :=
  ["alnum", "alpha", "ascii", "blank", "cntrl", "digit", "graph", "lower", "print", "punct",
    "space", "upper", "word", "xdigit"].map String.toList

/-- A named class such as `:alpha:]`, and whether it is turned round, with what follows it. -/
def namedClass? : Text → Option (Bool × Text)
  | ':' :: rest =>
    let inverted := rest.head? = some '^'
    let rest := if inverted then rest.tail else rest
    match rest.dropWhile (fun c => c != ':') with
    | ':' :: ']' :: after =>
      if classNames.contains (rest.takeWhile (fun c => c != ':')) then some (inverted, after)
      else none
    | _ => none
  | _ => none

/-- A class whose closing bracket has not been read yet. -/
structure OpenClass where
  /-- The height of the operands before the last operator, if there was one. -/
  operands : Option Nat := none
  /-- The heights of the members since then. -/
  members : List Nat := []

namespace OpenClass

def height (c : OpenClass) : Nat :=
  match c.operands with
  | none => rowHeight c.members
  | some left => Nat.max left (rowHeight c.members) + 1

def add (c : OpenClass) (height : Nat) : OpenClass := { c with members := height :: c.members }

/-- Operators group to the left. -/
def operate (c : OpenClass) : OpenClass := { operands := some c.height }

end OpenClass

/-- Takes in the dashes that stand in front. -/
def frontDashes (m : Modes) (inComment : Bool) (c : OpenClass) : Text → OpenClass × Text
  | [] => (c, [])
  | d :: rest =>
    if inComment then frontDashes m (d != '\n') c rest
    else if d = '-' then frontDashes m false (c.add 0) rest
    else if m.verbose && d = '#' then frontDashes m true c rest
    else if m.verbose && isBlankChar d then frontDashes m false c rest
    else (c, d :: rest)

/-- The class that an opening bracket begins, with the members that are such only in front, and what
follows them. -/
def openClass? (m : Modes) (s : Text) : Option (OpenClass × Text) :=
  let inverted := (m.skip s).head? = some '^'
  let rest := if inverted then m.skip (m.skip s).tail else m.skip s
  let front := if rest.head? = some ']' then ((({} : OpenClass).add 0), rest.tail)
    else frontDashes m false {} rest
  if (inverted && !m.allScripts) || (m.foldsAll && !front.1.members.isEmpty) then none
  else some front

def isMember (m : Modes) : Atom → Bool
  | .literal c => !m.foldsAll && (m.allScripts || c.toNat < 0x80)
  | .shorthand => true
  | .anchor | .boundary => false

def isRange : Atom → Atom → Bool
  | .literal first, .literal last => first ≤ last
  | _, _ => false

def classAtom? (m : Modes) : Text → Option (Atom × Text)
  | [] => none
  | '\\' :: rest => escape? m rest
  | c :: rest => some (.literal c, rest)

/-- What follows one member or range. A dash before a bracket or a dash makes no range. -/
def member? (m : Modes) (s : Text) : Option Text := do
  let (first, rest) ← classAtom? m s
  if !isMember m first then none
  else
    match m.skip rest with
    | '-' :: after =>
      if (m.peek? after).any (fun c => c = ']' || c = '-') then some ('-' :: after)
      else
        let (last, rest) ← classAtom? m (m.skip after)
        if isMember m last && isRange first last then some rest else none
    | rest => some rest

/-- The height of the outermost class, and what follows its closing bracket. The classes around the
one that is being read are given from the inside out. -/
def members? (m : Modes) : Nat → OpenClass → List OpenClass → Text → Option (Nat × Text)
  | 0, _, _, _ => none
  | fuel + 1, c, outer, s =>
    match m.skip s with
    | ']' :: rest =>
      match outer with
      | [] => some (c.height + 1, rest)
      | next :: outer => members? m fuel (next.add (c.height + 1)) outer rest
    | '&' :: '&' :: rest | '-' :: '-' :: rest | '~' :: '~' :: rest =>
      members? m fuel c.operate outer rest
    | '[' :: rest =>
      match namedClass? rest with
      | some (inverted, after) =>
        if (inverted && !m.allScripts) || m.foldsAll then none
        else members? m fuel (c.add 0) outer after
      | none =>
        (openClass? m rest).bind (fun (inner, rest) => members? m fuel inner (c :: outer) rest)
    | rest => (member? m rest).bind (fun rest => members? m fuel (c.add 0) outer rest)

/-- The height of the class that the opening bracket before `s` begins, and what follows it. Each
turn takes at least one character. -/
def bracket? (m : Modes) (s : Text) : Option (Nat × Text) :=
  (openClass? m s).bind (fun (c, rest) => members? m (s.length + 1) c [] rest)

end RuleTable.Pattern
