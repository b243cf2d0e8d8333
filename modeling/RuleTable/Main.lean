import RuleTable.Log.Record
import RuleTable.Program

/-!
The command line. The name of the executable chooses the tool. Only the world outside is met here:
arguments, one environment variable, one file, the clock, and the two output streams.
-/
namespace RuleTable

/-- The system's number of a failure may come negated; its text may start in lower case. -/
def numberedError (code : UInt32) (text : String) : ReadError :=
  .ofCode code.toInt32.toInt.natAbs text.capitalize

def readErrorOf (e : IO.Error) : ReadError :=
  match e with
  | .noFileOrDirectory _ code text | .interrupted _ code text => numberedError code text
  | .alreadyExists _ code text | .invalidArgument _ code text | .permissionDenied _ code text
  | .resourceExhausted _ code text | .inappropriateType _ code text | .noSuchThing _ code text =>
    numberedError code text
  | .otherError code text | .resourceBusy code text | .resourceVanished code text
  | .unsupportedOperation code text | .hardwareFault code text
  | .unsatisfiedConstraints code text | .illegalOperation code text | .protocolError code text
  | .timeExpired code text => numberedError code text
  | .unexpectedEof => .other 0 "unexpected end of file"
  | .userError text => .other 0 text

def readFile (path : Text) : IO (Except ReadError Bytes) := do
  if '\x00' ∈ path then return .error .nulInPath
  try
    let content ← IO.FS.readBinFile (String.ofList path)
    return .ok content.data.toList
  catch e => return .error (readErrorOf e)

/-- The time now, as the file system gives it to a new file. -/
def currentStamp : IO Text := do
  try
    IO.FS.withTempFile fun _ path => do
      let now := (← path.metadata).modified
      return Stamp.ofUnix now.sec now.nsec.toNat
  catch _ => return Stamp.ofUnix 0 0

def chosenTool : IO Tool := do
  return if (← IO.appPath).fileName = some "rulegen-dump" then .dumper else .generator

end RuleTable

open RuleTable in
def main (args : List String) : IO UInt32 := do
  let tool ← chosenTool
  let words := args.map String.toList
  let filter := (← IO.getEnv "RUST_LOG").map String.toList
  let content ←
    match Invocation.ofWords words with
    | .ok (.run path _) => readFile path
    | _ => pure (.error .notFound)
  let outcome := tool.run words filter (fun _ => content)
  let stdout ← IO.getStdout
  stdout.write ⟨outcome.stdout.toArray⟩
  stdout.flush
  unless outcome.notices.isEmpty do
    (← IO.getStderr).putStr (String.ofList (outcome.stderr (← currentStamp)))
  return UInt32.ofNat outcome.status
