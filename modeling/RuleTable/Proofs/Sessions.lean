import RuleTable.Proofs.Delivery
import RuleTable.Proofs.Layout
import RuleTable.Session

/-!
What steps do to a session one after the other. Its lines are lines that were read, in whatever
order they stand by then, and its writes are a row of calls on its sink, whatever is done between
them. So a sink that is not replaced only grows, and the code of a session has the layout that the
code of a text has.
-/
namespace RuleTable.Sessions

open Generation Layout Delivery

/-- The session after all steps. -/
def after (s : Session) : List Step → Session
  | [] => s
  | step :: rest => after (s.step step).2 rest

theorem after_append (s : Session) (steps more : List Step) :
    after s (steps ++ more) = after (after s steps) more := by
  induction steps generalizing s with
  | nil => rfl
  | cons step rest ih => exact ih (s.step step).2

/-- The results of further steps are those of a session that starts where the steps before end. -/
theorem run_append (s : Session) (steps more : List Step) :
    s.run (steps ++ more) = s.run steps ++ (after s steps).run more := by
  induction steps generalizing s with
  | nil => rfl
  | cons step rest ih => exact congrArg ((s.step step).1 :: ·) (ih (s.step step).2)

theorem runEvents_append (s : Session) (steps more : List Step) :
    s.runEvents (steps ++ more) = s.runEvents steps ++ (after s steps).runEvents more := by
  induction steps generalizing s with
  | nil => rfl
  | cons step rest ih =>
    have hrest := ih (s.step step).2
    rw [List.cons_append, Session.runEvents, Session.runEvents, hrest, List.append_assoc]
    rfl

theorem length_run (s : Session) (steps : List Step) : (s.run steps).length = steps.length := by
  induction steps generalizing s with
  | nil => rfl
  | cons step rest ih => exact congrArg (· + 1) (ih (s.step step).2)

/-- A step that names a line which is not there leaves the session as it is and reports nothing. -/
theorem step_of_noSuchLine {s : Session} {step : Step} (h : (s.step step).1 = .noSuchLine) :
    (s.step step).2 = s ∧ s.stepEvents step = [] := by
  cases step with
  | copyLine index | removeLine index | fragments index =>
    unfold Session.step at h ⊢
    dsimp only at h ⊢
    cases hline : s.lines[index]? with
    | none => exact ⟨rfl, rfl⟩
    | some line =>
      rw [hline] at h
      cases h
  | compare first second =>
    unfold Session.step at h ⊢
    dsimp only at h ⊢
    split <;> exact ⟨rfl, rfl⟩
  | indentation | parseText | parseLine | reverse | clear | code | replaceSink | write => cases h

/-! ### Lines -/

/-- What each step makes of the lines. An index without a line copies and drops nothing. -/
theorem lines_step (s : Session) (step : Step) :
    (s.step step).2.lines =
      match step with
      | .parseText text => s.lines ++ Grammar.parse text
      | .parseLine number raw => s.lines ++ [Line.parse number raw]
      | .copyLine index => s.lines ++ s.lines[index]?.toList
      | .removeLine index => s.lines.eraseIdx index
      | .reverse => s.lines.reverse
      | .clear => []
      | _ => s.lines := by
  cases step with
  | copyLine index =>
    unfold Session.step
    dsimp only
    cases s.lines[index]? with
    | none => exact (List.append_nil _).symm
    | some line => rfl
  | removeLine index =>
    unfold Session.step
    dsimp only
    cases hline : s.lines[index]? with
    | none => exact (List.eraseIdx_of_length_le (List.getElem?_eq_none_iff.mp hline)).symm
    | some line => rfl
  | compare | fragments =>
    unfold Session.step
    dsimp only
    split <;> rfl
  | indentation | parseText | parseLine | reverse | clear | code | replaceSink | write => rfl

theorem mem_lines_step {s : Session} {step : Step} {l : Line} (h : l ∈ (s.step step).2.lines) :
    l ∈ s.lines ∨ (∃ text, step = .parseText text ∧ l ∈ Grammar.parse text) ∨
      ∃ number raw, step = .parseLine number raw ∧ l = Line.parse number raw := by
  rw [lines_step] at h
  cases step with
  | parseText text =>
    rcases List.mem_append.mp h with hold | hread
    · exact .inl hold
    · exact .inr (.inl ⟨text, rfl, hread⟩)
  | parseLine number raw =>
    rcases List.mem_append.mp h with hold | hread
    · exact .inl hold
    · exact .inr (.inr ⟨number, raw, rfl, List.mem_singleton.mp hread⟩)
  | copyLine index =>
    rcases List.mem_append.mp h with hold | hcopy
    · exact .inl hold
    · exact .inl (List.mem_of_getElem? (Option.mem_toList.mp hcopy))
  | removeLine index => exact .inl (List.mem_of_mem_eraseIdx h)
  | reverse => exact .inl (List.mem_reverse.mp h)
  | clear => cases h
  | indentation | compare | fragments | code | replaceSink | write => exact .inl h

/-- Every line of a session was there from the start or was read in one of its steps. -/
theorem mem_lines_after {s : Session} {steps : List Step} {l : Line}
    (h : l ∈ (after s steps).lines) :
    l ∈ s.lines ∨ (∃ text, .parseText text ∈ steps ∧ l ∈ Grammar.parse text) ∨
      ∃ number raw, .parseLine number raw ∈ steps ∧ l = Line.parse number raw := by
  induction steps generalizing s with
  | nil => exact .inl h
  | cons step rest ih =>
    rcases ih h with hold | ⟨text, hin, hread⟩ | ⟨number, raw, hin, hread⟩
    · rcases mem_lines_step hold with hold | ⟨text, rfl, hread⟩ | ⟨number, raw, rfl, hread⟩
      · exact .inl hold
      · exact .inr (.inl ⟨text, List.mem_cons_self, hread⟩)
      · exact .inr (.inr ⟨number, raw, List.mem_cons_self, hread⟩)
    · exact .inr (.inl ⟨text, List.mem_cons_of_mem _ hin, hread⟩)
    · exact .inr (.inr ⟨number, raw, List.mem_cons_of_mem _ hin, hread⟩)

/-- The code of a session is two lines for each line that it holds. Only a line that is read by
itself could bring a newline with it. -/
theorem splitOn_code {s : Session} {steps : List Step} {code : Text}
    (hlines : ∀ l ∈ s.lines, OneLine l)
    (hraw : ∀ number raw, .parseLine number raw ∈ steps → '\n' ∉ raw)
    (hindent : '\n' ∉ (after s steps).generator.indentation)
    (h : (after s steps).generator.code (after s steps).lines = .ok code) :
    code.splitOn '\n' =
      codeLines (after s steps).generator (after s steps).lines ++ [[]] := by
  obtain ⟨-, rfl⟩ := (code_eq_ok_iff _ _ _).mp h
  apply splitOn_flatMap_rendering _ hindent
  intro l hl
  rcases mem_lines_after hl with hold | ⟨text, -, hread⟩ | ⟨number, raw, hin, rfl⟩
  · exact hlines l hold
  · exact oneLine_of_mem_parse hread
  · exact oneLine_parse (hraw number raw hin)

/-! ### The sink -/

/-- The call that a step makes, if it writes. -/
def call? (s : Session) : Step → Option Call
  | .write => some (.generate s.generator s.lines)
  | _ => none

def calls (s : Session) : List Step → List Call
  | [] => []
  | step :: rest => (call? s step).toList ++ calls (s.step step).2 rest

/-- How a write went. -/
def written? : StepResult → Option (Except TranspileError Unit)
  | .written result _ => some result
  | _ => none

theorem performAll_step {s : Session} {step : Step} (h : ∀ sink, step ≠ .replaceSink sink) :
    Call.performAll s.sink (call? s step).toList =
      ((written? (s.step step).1).toList, (s.step step).2.sink) := by
  cases step with
  | replaceSink sink => exact absurd rfl (h sink)
  | copyLine | removeLine | compare | fragments =>
    unfold Session.step
    dsimp only
    split <;> rfl
  | indentation | parseText | parseLine | reverse | clear | code | write => rfl

/-- The writes of a session are a row of calls on its sink. -/
theorem performAll_calls {steps : List Step} (h : ∀ sink, .replaceSink sink ∉ steps)
    (s : Session) : Call.performAll s.sink (calls s steps) =
      ((s.run steps).filterMap written?, (after s steps).sink) := by
  induction steps generalizing s with
  | nil => rfl
  | cons step rest ih =>
    have hstep : ∀ sink, step ≠ .replaceSink sink := by
      rintro sink rfl
      exact h sink List.mem_cons_self
    have hrest := ih (fun sink hin => h sink (List.mem_cons_of_mem _ hin)) (s.step step).2
    have hresults : (s.run (step :: rest)).filterMap written? =
        (written? (s.step step).1).toList ++ ((s.step step).2.run rest).filterMap written? := by
      rw [Session.run, List.filterMap_cons]
      cases written? (s.step step).1 <;> rfl
    unfold calls
    rw [performAll_append, performAll_step hstep, hrest, hresults]
    rfl

/-- A sink that is not replaced gets the pieces of the writes in order, and one flush for each that
succeeds, whatever is done between them. -/
theorem sink_after {steps : List Step} (h : ∀ sink, .replaceSink sink ∉ steps) (s : Session) :
    ∃ pieces, List.Forall₂ (fun done piece => Contributes done.1 done.2 piece)
        ((calls s steps).zip ((s.run steps).filterMap written?)) pieces ∧
      Extended s.sink (after s steps).sink pieces
        (((s.run steps).filterMap written?).countP Except.isOk) := by
  obtain ⟨-, pieces, hpieces, hextended⟩ := performAll_extended (calls s steps) s.sink
  rw [performAll_calls h] at hpieces hextended
  exact ⟨pieces, hpieces, hextended⟩

end RuleTable.Sessions
