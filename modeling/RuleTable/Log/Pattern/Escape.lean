import RuleTable.Text.Basic

/-!
Modes of a pattern, and the escapes that a backslash opens. An escape stands for one character, for
a shorthand class, or for a place between characters. No tables of scripts are at hand: a shorthand
class can be built for ASCII only, so it is refused while the classes are those of all scripts.
-/
namespace RuleTable.Pattern

open Text

structure Modes where
  ignoreCase : Bool := false
  /-- Whether letters and boundaries are those of all scripts, and not of ASCII. -/
  allScripts : Bool := true
  /-- Whether blanks and comments between the parts of a pattern are left out. -/
  verbose : Bool := false

/-- Whether case is ignored for the letters of all scripts, for which there are no tables. -/
def Modes.foldsAll (m : Modes) : Bool := m.ignoreCase && m.allScripts

def skipBlanks (inComment : Bool) : Text → Text
  | [] => []
  | c :: rest =>
    if inComment then skipBlanks (c != '\n') rest
    else if c = '#' then skipBlanks true rest
    else if isBlankChar c then skipBlanks false rest
    else c :: rest

def Modes.skip (m : Modes) (s : Text) : Text := if m.verbose then skipBlanks false s else s

/-- The character that a look ahead takes for the next. It passes over blanks and over the mark that
opens a comment, but not over the comment. -/
def Modes.peek? (m : Modes) (s : Text) : Option Char :=
  if m.verbose then
    match trimStart s with
    | '#' :: comment => (trimStart comment).head?
    | rest => rest.head?
  else s.head?

inductive Atom
  | literal (c : Char)
  | shorthand
  | anchor
  | boundary

def hexDigit? (c : Char) : Option Nat :=
  if c.isDigit then some (c.toNat - '0'.toNat)
  else if 'a' ≤ c.toLower ∧ c.toLower ≤ 'f' then some (c.toLower.toNat - 'a'.toNat + 10)
  else none

/-- A code point of this many digits. -/
def codePoint? (m : Modes) : Nat → Nat → Text → Option (Nat × Text)
  | 0, code, s => some (code, s)
  | width + 1, code, s =>
    match m.skip s with
    | [] => none
    | c :: rest => (hexDigit? c).bind (fun d => codePoint? m width (16 * code + d) rest)

def codeWidth? : Char → Option Nat
  | 'x' => some 2
  | 'u' => some 4
  | 'U' => some 8
  | _ => none

/-- The escapes of one character. A character of ASCII that is no letter and no digit stands for
itself. -/
def Atom.ofEscape? (m : Modes) (c : Char) : Option Atom :=
  match c with
  | 'a' => some (.literal '\x07')
  | 'f' => some (.literal '\x0c')
  | 'n' => some (.literal '\n')
  | 'r' => some (.literal '\r')
  | 't' => some (.literal '\t')
  | 'v' => some (.literal '\x0b')
  | 'A' | 'z' => some .anchor
  | 'b' | 'B' | '<' | '>' => some .boundary
  | 'd' | 's' | 'w' => if m.allScripts then none else some .shorthand
  | _ => if c.toNat < 0x80 && !c.isAlphanum then some (.literal c) else none

/-- What follows a backslash. A byte from 80 up is no character by itself. -/
def escape? (m : Modes) : Text → Option (Atom × Text)
  | [] => none
  | c :: rest =>
    match codeWidth? c with
    | none => (Atom.ofEscape? m c).map (fun atom => (atom, rest))
    | some width =>
      match codePoint? m width 0 rest with
      | none => none
      | some (code, rest) =>
        if !code.isValidChar || (c = 'x' && !m.allScripts && 0x80 ≤ code) then none
        else some (.literal (Char.ofNat code), rest)

end RuleTable.Pattern
