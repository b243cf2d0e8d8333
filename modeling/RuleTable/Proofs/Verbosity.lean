import RuleTable.Proofs.Outcomes

/-!
The flags for more log output. Wherever they stand and however they are grouped, they do nothing
but add up, to 255 at most. What a run makes of its file is made before events are filtered, so
neither they nor a valid filter change the status or the output. A filter that is set makes them
count for nothing, and without one they raise the level up to which events are shown.
-/
namespace RuleTable.Verbosity

open Invocation Outcomes

variable {words words' : List Text} {word path : Text} {start : Option Text} {verbosity n m : Nat}
  {args args' : List Argument}

/-! ### Flags among the words -/

/-- The same invocation with `n` more flags. -/
def raise (n : Nat) : Invocation → Invocation
  | .run path verbosity => .run path (min (verbosity + n) mostVerbose)
  | .help => .help
  | .version => .version

theorem raise_raise (n m : Nat) (i : Invocation) : raise n (raise m i) = raise (n + m) i := by
  cases i with
  | run path verbosity =>
    have hsum : min (min (verbosity + m) 255 + n) 255 = min (verbosity + (n + m)) 255 := by omega
    exact congrArg (Invocation.run path) hsum
  | help => rfl
  | version => rfl

/-- Arguments that come to the same as others with `n` more flags. -/
def Adds (n : Nat) (args args' : List Argument) : Prop :=
  ∀ start verbosity, verbosity ≤ mostVerbose →
    ofArguments start verbosity args = (ofArguments start verbosity args').map (raise n)

/-- A count that starts higher ends higher by as much. -/
theorem ofArguments_add (args : List Argument) (start : Option Text) (n : Nat)
    (h : verbosity ≤ mostVerbose) :
    ofArguments start (min (verbosity + n) mostVerbose) args =
      (ofArguments start verbosity args).map (raise n) := by
  fun_induction ofArguments start verbosity args with
  | case1 verbosity path => rfl
  | case2 verbosity => rfl
  | case3 start verbosity rest ih =>
    have hnext : min (min (verbosity + n) 255 + 1) 255 = min (min (verbosity + 1) 255 + n) 255 := by
      omega
    have hbound : min (verbosity + 1) mostVerbose ≤ mostVerbose := Nat.min_le_right _ _
    rw [← ih hbound]
    exact congrArg (ofArguments start · rest) hnext
  | case4 => rfl
  | case5 => rfl
  | case6 => rfl
  | case7 start verbosity argument rest hstart =>
    rw [ofArguments, if_pos hstart]
    rfl
  | case8 start verbosity argument rest hstart hempty =>
    rw [ofArguments, if_neg hstart, if_pos hempty]
    rfl
  | case9 start verbosity argument rest hstart hempty ih =>
    rw [ofArguments, if_neg hstart, if_neg hempty]
    exact ih h

theorem Adds.verbose (h : Adds n args args') : Adds (n + 1) (.verbose :: args) args' := by
  intro start verbosity hbound
  rw [ofArguments, h start _ (Nat.min_le_right _ _), ofArguments_add args' start 1 hbound]
  cases ofArguments start verbosity args' with
  | error e => rfl
  | ok i => exact congrArg Except.ok (raise_raise n 1 i)

theorem Adds.replicate (h : Adds n args args') (m : Nat) :
    Adds (m + n) (List.replicate m .verbose ++ args) args' := by
  induction m with
  | zero =>
    rw [Nat.zero_add]
    exact h
  | succ m ih =>
    rw [Nat.add_right_comm]
    exact ih.verbose

/-- The filter that flags choose is the one that the name of their level spells. -/
theorem ofText_name (n : Nat) :
    Filter.ofText (Level.ofVerbosity n).name = .ok (Filter.ofVerbosity n) := by
  unfold Filter.ofVerbosity
  cases Level.ofVerbosity n <;> rfl

/-! ### Two runs -/

/-- The events that a run shows. -/
def logged (o : Outcome) : List Event :=
  o.notices.filterMap (fun
    | .logged e => some e
    | .plain _ => none)

end RuleTable.Verbosity
