import RuleTable.Text.Basic

/-!
UTF-8 between texts and bytes. The decoder takes one byte at a time and never fails: where the
bytes cannot be read, it gives one replacement character for each longest piece that some
well-formed sequence starts with, or for the single byte if there is none. So an ASCII byte is
always read as itself, whatever stands before it.
-/
namespace RuleTable

abbrev Bytes := List UInt8

namespace Utf8

def encode (s : Text) : Bytes := s.flatMap String.utf8EncodeChar

/-- A character of several bytes of which some have been read, with the bounds on the next one. -/
structure Unfinished where
  bits : Nat
  missing : Nat
  least : Nat
  greatest : Nat
  /-- No ASCII byte goes on with a character. -/
  not_ascii : 0x80 ≤ least

inductive Lead
  | whole (c : Char)
  | opening (u : Unfinished)
  | illFormed

/-- What a byte means between two characters. The bounds on the byte after it keep out overlong
forms, surrogates and code points past 10FFFF. -/
def lead (b : UInt8) : Lead :=
  let n := b.toNat
  if n < 0x80 then .whole (Char.ofNat n)
  else if n < 0xC2 then .illFormed
  else if n < 0xE0 then .opening ⟨n - 0xC0, 1, 0x80, 0xBF, Nat.le_refl _⟩
  else if n < 0xF0 then
    .opening ⟨n - 0xE0, 2, if n = 0xE0 then 0xA0 else 0x80, if n = 0xED then 0x9F else 0xBF,
      by split <;> decide⟩
  else if n < 0xF5 then
    .opening ⟨n - 0xF0, 3, if n = 0xF0 then 0x90 else 0x80, if n = 0xF4 then 0x8F else 0xBF,
      by split <;> decide⟩
  else .illFormed

/-- What has been read so far, the latest first; `none` stands for an ill-formed piece. -/
structure Decoder where
  seen : List (Option Char)
  unfinished : Option Unfinished

namespace Decoder

def start : Decoder := ⟨[], none⟩

def begin (seen : List (Option Char)) (b : UInt8) : Decoder :=
  match lead b with
  | .whole c => ⟨some c :: seen, none⟩
  | .opening u => ⟨seen, some u⟩
  | .illFormed => ⟨none :: seen, none⟩

/-- A byte outside the bounds ends the unfinished piece and is then read afresh. -/
def feed (d : Decoder) (b : UInt8) : Decoder :=
  match d.unfinished with
  | none => begin d.seen b
  | some u =>
    if u.least ≤ b.toNat ∧ b.toNat ≤ u.greatest then
      let bits := u.bits * 64 + (b.toNat - 0x80)
      if u.missing = 1 then ⟨some (Char.ofNat bits) :: d.seen, none⟩
      else ⟨d.seen, some ⟨bits, u.missing - 1, 0x80, 0xBF, Nat.le_refl _⟩⟩
    else begin (none :: d.seen) b

def finish (d : Decoder) : List (Option Char) :=
  (if d.unfinished.isSome then none :: d.seen else d.seen).reverse

/-- An ASCII byte is read as itself and leaves nothing unfinished. -/
theorem feed_ascii (d : Decoder) (b : UInt8) (h : b.toNat < 0x80) :
    d.feed b = ⟨some (Char.ofNat b.toNat) :: d.finish.reverse, none⟩ := by
  obtain ⟨seen, unfinished⟩ := d
  cases unfinished with
  | none => simp [feed, begin, lead, h, finish]
  | some u =>
    have hleast : ¬u.least ≤ b.toNat := by
      have := u.not_ascii
      omega
    simp [feed, begin, lead, h, finish, hleast]

end Decoder

/-- The characters of the bytes in order, with `none` for each ill-formed piece. -/
def scan (bytes : Bytes) : List (Option Char) := (bytes.foldl Decoder.feed Decoder.start).finish

def isWellFormed (bytes : Bytes) : Bool := (scan bytes).all Option.isSome

def replacement : Char := '\uFFFD'

def decode (bytes : Bytes) : Text := (scan bytes).map (fun c => c.getD replacement)

end Utf8

end RuleTable
