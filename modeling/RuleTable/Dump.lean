import RuleTable.Grammar

/-!
The dump of a grammar: one JSON object a line, every field in a fixed order, absent ones as null.
A line has a label exactly if it has a rule, since both come from its definition.

The layout is indented. Each item and each member stands on a line of its own, two spaces deeper
than its brackets, and brackets around nothing stay together. In strings only the quote, the
backslash and the characters below U+0020 are escaped.
-/
namespace RuleTable

/-- JSON values, as far as natural numbers go. Members of an object keep their order. -/
inductive Json
  | null
  | bool (b : Bool)
  | number (n : Nat)
  | string (s : Text)
  | array (items : List Json)
  | object (members : List (Text × Json))

namespace Json

def ofOption {α : Type} (encode : α → Json) : Option α → Json
  | none => .null
  | some a => encode a

def escape (c : Char) : Text :=
  if c = '"' then "\\\""
  else if c = '\\' then "\\\\"
  else if c = '\n' then "\\n"
  else if c = '\r' then "\\r"
  else if c = '\t' then "\\t"
  else if c = '\x08' then "\\b"
  else if c = '\x0c' then "\\f"
  else if c.toNat < 0x20 then
    "\\u00" ++ [Nat.digitChar (c.toNat / 16), Nat.digitChar (c.toNat % 16)]
  else [c]

def quote (s : Text) : Text := "\"" ++ s.flatMap escape ++ "\""

def newline (depth : Nat) : Text := '\n' :: List.replicate (2 * depth) ' '

/-- Items between two brackets that stand at this depth. -/
def enclose (depth : Nat) (left right : Char) (items : List Text) : Text :=
  if items.isEmpty then [left, right]
  else
    left :: List.intercalate "," (items.map (newline (depth + 1) ++ ·)) ++ newline depth ++ [right]

mutual

def layout (depth : Nat) : Json → Text
  | .null => "null"
  | .bool true => "true"
  | .bool false => "false"
  | .number n => Text.decimal n
  | .string s => quote s
  | .array items => enclose depth '[' ']' (layoutItems (depth + 1) items)
  | .object members => enclose depth '\x7b' '\x7d' (layoutMembers (depth + 1) members)

def layoutItems (depth : Nat) : List Json → List Text
  | [] => []
  | item :: rest => layout depth item :: layoutItems depth rest

def layoutMembers (depth : Nat) : List (Text × Json) → List Text
  | [] => []
  | (key, value) :: rest =>
    (quote key ++ ": " ++ layout depth value) :: layoutMembers depth rest

end

def print (v : Json) : Text := layout 0 v

end Json

def Rule.toJson (r : Rule) : Json :=
  .object [("kind", .string r.kind.tag), ("frequency", .string r.frequency.tag),
    ("operands", .array (r.operands.map .string)), ("mixed_markers", .bool r.mixedMarkers)]

def Line.toJson (l : Line) : Json :=
  .object [("line_number", .number l.number), ("original", .string l.text),
    ("trailing_comment", .ofOption .string l.comment), ("label", .ofOption .string l.label),
    ("rule", .ofOption Rule.toJson l.rule)]

def Grammar.toJson (g : Grammar) : Json := .array (g.map Line.toJson)

def Grammar.dump (g : Grammar) : Text := g.toJson.print

end RuleTable
