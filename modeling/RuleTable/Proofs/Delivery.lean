import Mathlib.Data.List.Forall2
import RuleTable.Proofs.Generation
import RuleTable.Proofs.Writing
import RuleTable.Transpile

/-!
What a call that generates code does to its sink, and what a row of calls does to a sink that they
share. Code that cannot be generated leaves the sink as it is; other code gets into it up to the
first failure, and only a call that succeeds flushes. So the sink holds what each call could
deliver, in order, whatever the limit, the size of single writes and the faults.
-/
namespace RuleTable.Delivery

open Generation Writing

/-- A call that delivers code to a sink: of lines that were read before, or of a file. -/
inductive Call
  | generate (g : Generator) (lines : Grammar)
  | transpile (read : FileReader) (path : Text)

namespace Call

/-- The code that the call has to deliver, or why there is none. -/
def code : Call → Except TranspileError Text
  | .generate g lines => (g.code lines).mapError .repeatedToken
  | .transpile read path =>
    match read path with
    | .error cause => .error (.load ⟨path, cause⟩)
    | .ok bytes => (({} : Generator).code (Grammar.ofBytes bytes)).mapError .repeatedToken

def perform (s : Sink) : Call → Except TranspileError Unit × Sink
  | .generate g lines => g.writeTo lines s
  | .transpile read path => (RuleTable.transpile read path s).result

/-- The calls one after the other on the sink that the call before leaves. -/
def performAll (s : Sink) : List Call → List (Except TranspileError Unit) × Sink
  | [] => ([], s)
  | call :: calls =>
    let first := call.perform s
    let rest := performAll first.2 calls
    (first.1 :: rest.1, rest.2)

end Call

theorem writeTo_eq (g : Generator) (lines : Grammar) (s : Sink) :
    g.writeTo lines s =
      match (g.code lines).mapError TranspileError.repeatedToken with
      | .error e => (.error e, s)
      | .ok code =>
        ((s.deliver (Utf8.encode code)).1.mapError .sink, (s.deliver (Utf8.encode code)).2) := by
  unfold Generator.writeTo
  cases g.code lines with
  | error e => rfl
  | ok code => rfl

/-- A call delivers its code if there is any. -/
theorem perform_eq (call : Call) (s : Sink) :
    call.perform s =
      match call.code with
      | .error e => (.error e, s)
      | .ok code =>
        ((s.deliver (Utf8.encode code)).1.mapError .sink, (s.deliver (Utf8.encode code)).2) := by
  cases call with
  | generate g lines => exact writeTo_eq g lines s
  | transpile read path =>
    unfold Call.perform Call.code transpile Grammar.load
    dsimp only
    cases read path with
    | error cause => rfl
    | ok bytes =>
      dsimp only
      exact writeTo_eq {} (Grammar.ofBytes bytes) s

/-- What a call that has these bytes to deliver makes of a sink. -/
structure Delivered (s : Sink) (bytes : Bytes) (result : Except TranspileError Unit) (s' : Sink) :
    Prop where
  written_eq : s'.written = s.written ++ bytes.take (taken s s.written.length bytes.length)
  ok_iff : result = .ok () ↔
    taken s s.written.length bytes.length = bytes.length ∧ s.flushFault = none
  sink_error : result ≠ .ok () → ∃ e, result = .error (.sink e)
  flushes_of_ok : result = .ok () → s'.flushes = s.flushes + 1
  flushes_of_not_ok : result ≠ .ok () → s'.flushes = s.flushes
  settings_eq : s' = { s with written := s'.written, flushes := s'.flushes }
  /-- The writes can be cut up in many ways, and all of them end in the same sink. -/
  writes : (∃ results stopped s₁, Writes s bytes results stopped s₁) ∧
    ∀ results stopped s₁, Writes s bytes results stopped s₁ →
      s₁.written = s'.written ∧ (results = [] ↔ bytes = []) ∧
        (stopped = .ok () ↔ taken s s.written.length bytes.length = bytes.length)

theorem deliver_eq (s : Sink) (bytes : Bytes) :
    s.deliver bytes =
      if taken s s.written.length bytes.length = bytes.length then (filled s bytes).flush
      else (.error (fault s (filled s bytes).written.length), filled s bytes) := by
  unfold Sink.deliver
  rw [writeAll_eq]
  by_cases hall : taken s s.written.length bytes.length = bytes.length
  · rw [if_pos hall, if_pos hall]
  · rw [if_neg hall, if_neg hall]

theorem flush_filled (s : Sink) (bytes : Bytes) :
    (filled s bytes).flush =
      match s.flushFault with
      | some reason => (.error (.reported reason), filled s bytes)
      | none => (.ok (), { filled s bytes with flushes := s.flushes + 1 }) := rfl

theorem writes_agree {s s₁ : Sink} {bytes : Bytes} {results : List (Except SinkError Nat)}
    {stopped : Except SinkError Unit} (h : Writes s bytes results stopped s₁) :
    s₁.written = (filled s bytes).written ∧ (results = [] ↔ bytes = []) ∧
      (stopped = .ok () ↔ taken s s.written.length bytes.length = bytes.length) := by
  obtain ⟨hsink, hstopped⟩ := h.eq_filled
  exact ⟨congrArg Sink.written hsink, results_eq_nil_iff h, hstopped⟩

/-- Success is delivery up to the flush. -/
theorem delivered_ok {s : Sink} {bytes : Bytes}
    (hall : taken s s.written.length bytes.length = bytes.length) (hflush : s.flushFault = none) :
    Delivered s bytes (.ok ()) { filled s bytes with flushes := s.flushes + 1 } where
  written_eq := rfl
  ok_iff := ⟨fun _ => ⟨hall, hflush⟩, fun _ => rfl⟩
  sink_error := fun h => absurd rfl h
  flushes_of_ok := fun _ => rfl
  flushes_of_not_ok := fun h => absurd rfl h
  settings_eq := rfl
  writes := ⟨exists_writes s bytes, fun _ _ _ => writes_agree⟩

/-- Failure leaves behind what was taken before it. -/
theorem delivered_error {s : Sink} {bytes : Bytes} (e : SinkError)
    (h : ¬(taken s s.written.length bytes.length = bytes.length ∧ s.flushFault = none)) :
    Delivered s bytes (.error (.sink e)) (filled s bytes) where
  written_eq := rfl
  ok_iff := ⟨(fun hok => by cases hok), fun hall => absurd hall h⟩
  sink_error := fun _ => ⟨e, rfl⟩
  flushes_of_ok := fun hok => by cases hok
  flushes_of_not_ok := fun _ => rfl
  settings_eq := rfl
  writes := ⟨exists_writes s bytes, fun _ _ _ => writes_agree⟩

theorem delivered_deliver (s : Sink) (bytes : Bytes) :
    Delivered s bytes ((s.deliver bytes).1.mapError .sink) (s.deliver bytes).2 := by
  rw [deliver_eq]
  by_cases hall : taken s s.written.length bytes.length = bytes.length
  · rw [if_pos hall, flush_filled]
    cases hflush : s.flushFault with
    | none => exact delivered_ok hall hflush
    | some reason =>
      apply delivered_error
      intro h
      obtain ⟨-, hnone⟩ := h
      rw [hflush] at hnone
      cases hnone
  · rw [if_neg hall]
    apply delivered_error
    intro h
    obtain ⟨htaken, -⟩ := h
    exact hall htaken

theorem perform_of_error {call : Call} {e : TranspileError} (h : call.code = .error e) (s : Sink) :
    call.perform s = (.error e, s) := by
  rw [perform_eq, h]

theorem perform_of_ok {call : Call} {code : Text} (h : call.code = .ok code) (s : Sink) :
    Delivered s (Utf8.encode code) (call.perform s).1 (call.perform s).2 := by
  rw [perform_eq, h]
  exact delivered_deliver s (Utf8.encode code)

theorem mapError_eq_ok_iff {ε δ α : Type} {f : ε → δ} {x : Except ε α} {a : α} :
    x.mapError f = .ok a ↔ x = .ok a := by
  cases x <;> simp [Except.mapError]

/-- A file has code exactly if it can be read and its lines have. -/
theorem code_transpile_eq_ok_iff {read : FileReader} {path code : Text} :
    (Call.transpile read path).code = .ok code ↔ ∃ bytes, read path = .ok bytes ∧
      ({} : Generator).code (Grammar.ofBytes bytes) = .ok code := by
  unfold Call.code
  dsimp only
  cases read path with
  | error cause => simp
  | ok bytes =>
    refine mapError_eq_ok_iff.trans ⟨fun hok => ⟨bytes, rfl, hok⟩, ?_⟩
    rintro ⟨_, ⟨⟩, hok⟩
    exact hok

/-- What a call adds to its sink, beside its result. -/
def Contributes (call : Call) (result : Except TranspileError Unit) (piece : Bytes) : Prop :=
  match call.code with
  | .error e => result = .error e ∧ piece = []
  | .ok code => piece <+: Utf8.encode code ∧
    (result = .ok () ∧ piece = Utf8.encode code ∨ ∃ e, result = .error (.sink e))

/-- One call adds a piece, keeps the settings and the limit, and flushes once if it succeeds. -/
structure Extended (s s' : Sink) (pieces : List Bytes) (succeeded : Nat) : Prop where
  written_eq : s'.written = s.written ++ pieces.flatten
  flushes_eq : s'.flushes = s.flushes + succeeded
  settings_eq : s' = { s with written := s'.written, flushes := s'.flushes }
  within_limit : ∀ most, s.limit = some most → s.written.length ≤ most → s'.written.length ≤ most

theorem Extended.refl (s : Sink) (pieces : List Bytes) (h : pieces.flatten = []) :
    Extended s s pieces 0 where
  written_eq := by rw [h, List.append_nil]
  flushes_eq := rfl
  settings_eq := rfl
  within_limit := fun _ _ hheld => hheld

theorem Extended.trans {s s' s'' : Sink} {pieces pieces' : List Bytes} {m n : Nat}
    (h : Extended s s' pieces m) (h' : Extended s' s'' pieces' n) :
    Extended s s'' (pieces ++ pieces') (m + n) where
  written_eq := by
    rw [h'.written_eq, h.written_eq, List.flatten_append, List.append_assoc]
  flushes_eq := by
    rw [h'.flushes_eq, h.flushes_eq, Nat.add_assoc]
  settings_eq := by
    rw [h'.settings_eq, h.settings_eq]
  within_limit := by
    intro most hlimit hheld
    have hlimit' : s'.limit = some most := by rw [h.settings_eq]; exact hlimit
    exact h'.within_limit most hlimit' (h.within_limit most hlimit hheld)

theorem extended_of_delivered {s s' : Sink} {bytes : Bytes} {result : Except TranspileError Unit}
    (h : Delivered s bytes result s') :
    Extended s s' [bytes.take (taken s s.written.length bytes.length)]
      (if result.isOk then 1 else 0) where
  written_eq := by rw [h.written_eq, List.flatten_singleton]
  flushes_eq := by
    cases result with
    | ok value => exact h.flushes_of_ok rfl
    | error e => exact h.flushes_of_not_ok (fun hok => by cases hok)
  settings_eq := h.settings_eq
  within_limit := by
    intro most hlimit hheld
    rw [h.written_eq, List.length_append, List.length_take]
    unfold taken
    rw [hlimit]
    split
    · omega
    · dsimp only
      omega

/-- A single call, as the step of a row of calls. -/
theorem perform_step (call : Call) (s : Sink) :
    ∃ piece, Contributes call (call.perform s).1 piece ∧
      Extended s (call.perform s).2 [piece] (if (call.perform s).1.isOk then 1 else 0) := by
  cases hcode : call.code with
  | error e =>
    rw [perform_of_error hcode]
    refine ⟨[], ?_, ?_⟩
    · unfold Contributes
      rw [hcode]
      exact ⟨rfl, rfl⟩
    · exact Extended.refl s [[]] rfl
  | ok code =>
    have hdelivered := perform_of_ok hcode s
    refine ⟨_, ?_, extended_of_delivered hdelivered⟩
    unfold Contributes
    rw [hcode]
    refine ⟨List.take_prefix _ _, ?_⟩
    by_cases hok : (call.perform s).1 = .ok ()
    · refine Or.inl ⟨hok, ?_⟩
      rw [(hdelivered.ok_iff.mp hok).1, List.take_length]
    · exact Or.inr (hdelivered.sink_error hok)

theorem performAll_append (s : Sink) (calls more : List Call) :
    Call.performAll s (calls ++ more) =
      ((Call.performAll s calls).1 ++ (Call.performAll (Call.performAll s calls).2 more).1,
        (Call.performAll (Call.performAll s calls).2 more).2) := by
  induction calls generalizing s with
  | nil => rfl
  | cons call calls ih =>
    rw [List.cons_append, Call.performAll, Call.performAll, ih]
    rfl

/-- The calls of a row add their pieces in order. -/
theorem performAll_extended (calls : List Call) (s : Sink) :
    (Call.performAll s calls).1.length = calls.length ∧
    ∃ pieces, List.Forall₂ (fun done piece => Contributes done.1 done.2 piece)
        (calls.zip (Call.performAll s calls).1) pieces ∧
      Extended s (Call.performAll s calls).2 pieces
        ((Call.performAll s calls).1.countP Except.isOk) := by
  induction calls generalizing s with
  | nil => exact ⟨rfl, [], .nil, Extended.refl s [] rfl⟩
  | cons call calls ih =>
    obtain ⟨piece, hpiece, hstep⟩ := perform_step call s
    obtain ⟨hlength, pieces, hpieces, hrest⟩ := ih (call.perform s).2
    unfold Call.performAll
    dsimp only
    refine ⟨by rw [List.length_cons, List.length_cons, hlength], piece :: pieces, ?_, ?_⟩
    · rw [List.zip_cons_cons]
      exact .cons hpiece hpieces
    · have htrans := hstep.trans hrest
      rw [List.countP_cons, Nat.add_comm]
      exact htrans

/-- A call without code leaves the sink as it is, which a single line without code is enough for;
any other call delivers its code as far as the sink takes it. After any calls on one sink it holds
what each of them delivered, in order, and has been flushed once for each that succeeded. -/
theorem calls_contract :
    (∀ (call : Call) (s : Sink) e, call.code = .error e → call.perform s = (.error e, s)) ∧
    (∀ (g : Generator) before l after e s,
      (∀ earlier ∈ before, ∃ pieces, g.fragments earlier = .ok pieces) →
      g.fragments l = .error e →
      (Call.generate g (before ++ l :: after)).perform s = (.error (.repeatedToken e), s)) ∧
    (∀ (call : Call) (s : Sink) code, call.code = .ok code →
      Delivered s (Utf8.encode code) (call.perform s).1 (call.perform s).2) ∧
    ∀ (calls : List Call) (s : Sink),
      (Call.performAll s calls).1.length = calls.length ∧
      ∃ pieces, List.Forall₂ (fun done piece => Contributes done.1 done.2 piece)
          (calls.zip (Call.performAll s calls).1) pieces ∧
        Extended s (Call.performAll s calls).2 pieces
          ((Call.performAll s calls).1.countP Except.isOk) := by
  refine ⟨?_, ?_, ?_, performAll_extended⟩
  · intro call s e h
    exact perform_of_error h s
  · intro g before l after e s hbefore hl
    have hcode := (code_eq_error_iff_fragments g (before ++ l :: after) e).mpr
      ⟨before, l, after, rfl, hl, hbefore⟩
    apply perform_of_error
    rw [Call.code, hcode]
    rfl
  · intro call s code h
    exact perform_of_ok h s

end RuleTable.Delivery
