import RuleTable.Event
import RuleTable.Text.Quoted

/-!
Log records. A record is one line of text: the time, the level, the message, and the fields in
order. Characters of a message that could steer a terminal are spelled out; line breaks and tabs
stay as they are.

The time is the date and the time of day in universal time, with six decimals. Dates are those of
the Gregorian calendar, counted in eras of 400 years whose years begin in March, so that a leap day
is the last day of its year.
-/
namespace RuleTable

open Text

namespace Stamp

structure Date where
  year : Int
  month : Nat
  day : Nat
deriving DecidableEq

/-- The date so many days after the first of January 1970. -/
def Date.ofDays (days : Int) : Date :=
  let shifted := days + 719468
  let era := shifted / 146097
  let dayOfEra := (shifted % 146097).toNat
  let yearOfEra :=
    (dayOfEra - dayOfEra / 1460 + dayOfEra / 36524 - dayOfEra / 146096) / 365
  let dayOfYear := dayOfEra - (365 * yearOfEra + yearOfEra / 4 - yearOfEra / 100)
  let fromMarch := (5 * dayOfYear + 2) / 153
  let month := if fromMarch < 10 then fromMarch + 3 else fromMarch - 9
  { year := era * 400 + yearOfEra + (if month ≤ 2 then 1 else 0)
    month := month
    day := dayOfYear - (153 * fromMarch + 2) / 5 + 1 }

/-- A number with zeros before it, up to a width. -/
def padded (width n : Nat) : Text :=
  let digits := Text.decimal n
  List.replicate (width - digits.length) '0' ++ digits

/-- The stamp of a moment, in seconds and billionths of a second since the start of 1970. -/
def ofUnix (seconds : Int) (nanos : Nat) : Text :=
  let date := Date.ofDays (seconds / 86400)
  let second := (seconds % 86400).toNat
  padded 4 date.year.toNat ++ "-" ++ padded 2 date.month ++ "-" ++ padded 2 date.day ++ "T" ++
    padded 2 (second / 3600) ++ ":" ++ padded 2 (second / 60 % 60) ++ ":" ++
    padded 2 (second % 60) ++ "." ++ padded 6 (nanos / 1000) ++ "Z"

end Stamp

def FieldValue.render : FieldValue → Text
  | .number n => decimal n
  | .text t => t
  | .quoted t => Text.quoted t

/-- The level in capitals, at the right of five columns. -/
def Level.column (l : Level) : Text := List.replicate (5 - l.tag.length) ' ' ++ l.tag

namespace Event

/-- Escape, bell, backspace, form feed and delete, and the controls from 80 to 9F. -/
def guardTerminal (c : Char) : Text :=
  if c ∈ ['\x07', '\x08', '\x0c', '\x1b', '\x7f'] then
    "\\x" ++ [Nat.digitChar (c.toNat / 16), Nat.digitChar (c.toNat % 16)]
  else if 0x80 ≤ c.toNat ∧ c.toNat ≤ 0x9F then
    "\\u\x7b" ++ Nat.toDigits 16 c.toNat ++ "\x7d"
  else [c]

/-- The record of an event at the time `stamp`, without the newline that ends it. -/
def record (stamp : Text) (e : Event) : Text :=
  List.intercalate " " ([stamp, e.level.column, e.message.flatMap guardTerminal] ++
    e.fields.map (fun (name, v) => name ++ "=" ++ v.render))

end Event

end RuleTable
