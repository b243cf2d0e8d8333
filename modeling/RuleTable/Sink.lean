import RuleTable.Utf8

/-!
A sink takes bytes and keeps them. It may have a limit on what it holds, may take only so many
bytes at a time, and may fail to write or to flush. Writing all of some bytes repeats single
writes until nothing is left, and stops at the first that fails or takes nothing. Writes that are
interrupted, which would be tried again, are left out: every fault here is one that lasts.
-/
namespace RuleTable

structure Sink where
  limit : Option Nat := none
  /-- The most bytes that one write takes. -/
  chunk : Option Nat := none
  /-- What a write reports when there is no room; without it such a write takes nothing. -/
  writeFault : Option Text := none
  flushFault : Option Text := none
  written : Bytes := []
  flushes : Nat := 0

inductive SinkError
  | stalled
  | reported (reason : Text)
deriving DecidableEq

def SinkError.message : SinkError → Text
  | .stalled => "failed to write whole buffer"
  | .reported reason => reason

namespace Sink

/-- The smaller of a number and a bound that may be missing. -/
def capped (bound : Option Nat) (n : Nat) : Nat :=
  match bound with
  | none => n
  | some most => min n most

/-- How many of `left` bytes a single write takes while `held` bytes are held. -/
def accepts (s : Sink) (held left : Nat) : Except SinkError Nat :=
  match s.limit.map (· - held), s.writeFault with
  | some 0, some reason => .error (.reported reason)
  | room, _ => .ok (capped s.chunk (capped room left))

/-- Repeated writes of the bytes that are left, with how many bytes are held in the end. What is
taken depends on the number of bytes alone. -/
def fill (s : Sink) (held left : Nat) : Except SinkError Unit × Nat :=
  if left = 0 then (.ok (), held)
  else
    match s.accepts held left with
    | .error e => (.error e, held)
    | .ok 0 => (.error .stalled, held)
    | .ok (n + 1) => fill s (held + (n + 1)) (left - (n + 1))
termination_by left
decreasing_by omega

def writeAll (s : Sink) (bytes : Bytes) : Except SinkError Unit × Sink :=
  let (result, held) := s.fill s.written.length bytes.length
  (result, { s with written := s.written ++ bytes.take (held - s.written.length) })

def flush (s : Sink) : Except SinkError Unit × Sink :=
  match s.flushFault with
  | some reason => (.error (.reported reason), s)
  | none => (.ok (), { s with flushes := s.flushes + 1 })

end Sink

end RuleTable
