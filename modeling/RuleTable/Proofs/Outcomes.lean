import RuleTable.Program
import RuleTable.Proofs.Concatenation
import RuleTable.Proofs.DumpReading
import RuleTable.Proofs.Encoding

/-!
How a run of a tool ends. What a tool makes of its file is either a text or the message of a
failure, and a run prints the one with status 0 or nothing with status 1 and the other as the last
of what it reports, whatever the log filter shows. The two tools fail on different files, but what
the generator refuses can be seen in the dump.
-/
namespace RuleTable.Outcomes

open Concatenation Delivery DumpReading Generation JsonReading JsonText

section Run

variable {words : List Text} {path : Text} {verbosity : Nat} {setting : Option Text}

end Run

/-! ### What the generator refuses -/

end RuleTable.Outcomes
