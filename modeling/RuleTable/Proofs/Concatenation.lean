import RuleTable.Directory
import RuleTable.Proofs.Decoding
import RuleTable.Proofs.Delivery
import RuleTable.Proofs.LineNumbering

/-!
Two files one after the other. If the first is empty or ends in a newline, then its last line is
closed, and nothing of it reaches the second: neither a character cut short at the end nor an open
line. So the lines of both together are those of the one and those of the other further down, and
the same holds of their code and of the first token that repeats.
-/
namespace RuleTable.Concatenation

open Delivery Generation LineNumbering Splitting Writing

variable {a b : Bytes}

theorem closed_decode (h : Closed 0x0A a) : Closed '\n' (Utf8.decode a) := by
  rcases h.eq_append with rfl | ⟨before, rfl⟩
  · exact Or.inl rfl
  · rw [Decoding.decode_newline]
    exact Or.inr List.getLast?_concat

/-- The lines of the second file are those it has on its own, further down. -/
theorem ofBytes_append (h : Closed 0x0A a) (b : Bytes) :
    Grammar.ofBytes (a ++ b) =
      Grammar.ofBytes a ++ (Grammar.ofBytes b).map (later (a.count 0x0A)) := by
  unfold Grammar.ofBytes
  rw [Decoding.decode_append h, parse_append (closed_decode h), Decoding.count_newline_decode]

/-- The same refusal further down. -/
def refusedLater (k : Nat) (e : RepeatedToken) : RepeatedToken := { e with line := e.line + k }

theorem refusal?_later (k : Nat) (l : Line) :
    refusal? (later k l) = (refusal? l).map (refusedLater k) := by
  unfold refusal? later
  dsimp only
  cases l.definition with
  | none => rfl
  | some d =>
    rw [Option.bind_some, Option.bind_some]
    by_cases htoken : d.rule.isRepeatedToken = true
    · rw [if_pos htoken, if_pos htoken]
      rfl
    · rw [if_neg htoken, if_neg htoken]
      rfl

theorem findSome?_refusal_later (k : Nat) (lines : Grammar) :
    (lines.map (later k)).findSome? refusal? =
      (lines.findSome? refusal?).map (refusedLater k) := by
  induction lines with
  | nil => rfl
  | cons l lines ih =>
    rw [List.map_cons, List.findSome?_cons, List.findSome?_cons, refusal?_later]
    cases refusal? l with
    | none => exact ih
    | some e => rfl

/-- The code of a line does not tell where the line stands. -/
theorem flatMap_rendering_later (g : Generator) (k : Nat) (lines : Grammar) :
    (lines.map (later k)).flatMap (rendering g) = lines.flatMap (rendering g) := by
  rw [List.flatMap_map]
  rfl

theorem code_append_of_error {g : Generator} {lines : Grammar} {e : RepeatedToken}
    (h : g.code lines = .error e) (rest : Grammar) : g.code (lines ++ rest) = .error e := by
  rw [code_eq_error_iff] at h ⊢
  rw [List.findSome?_append, h, Option.some_or]

theorem code_append_of_ok {g : Generator} {lines : Grammar} {code : Text}
    (h : g.code lines = .ok code) (k : Nat) (rest : Grammar) :
    g.code (lines ++ rest.map (later k)) =
      ((g.code rest).mapError (refusedLater k)).map (code ++ ·) := by
  rw [code_eq_ok_iff] at h
  obtain ⟨hnone, rfl⟩ := h
  rw [code_eq, code_eq g rest, List.findSome?_append, hnone, Option.none_or,
    findSome?_refusal_later, List.flatMap_append, flatMap_rendering_later]
  cases rest.findSome? refusal? with
  | none => rfl
  | some e => rfl

/-- A sink that takes all bytes and can be flushed, however little it takes at a time. -/
structure Unlimited (s : Sink) : Prop where
  limit : s.limit = none
  chunk : s.chunk ≠ some 0
  flushFault : s.flushFault = none

theorem unlimited_default : Unlimited {} := ⟨rfl, by decide, rfl⟩

/-- The sink after a call that delivered all of some bytes. -/
def received (s : Sink) (bytes : Bytes) : Sink :=
  { s with written := s.written ++ bytes, flushes := s.flushes + 1 }

theorem deliver_of_unlimited {s : Sink} (h : Unlimited s) (bytes : Bytes) :
    s.deliver bytes = (.ok (), received s bytes) := by
  have hall : taken s s.written.length bytes.length = bytes.length := by
    unfold taken
    rw [if_neg h.chunk, h.limit]
  have hfilled : filled s bytes = { s with written := s.written ++ bytes } := by
    unfold filled
    rw [hall, List.take_length]
  rw [deliver_eq, if_pos hall, flush_filled, h.flushFault, hfilled]
  rfl

/-- A file that can be read delivers its code to such a sink, or is refused. -/
theorem transpile_of_unlimited {read : FileReader} {path : Text} {bytes : Bytes} {s : Sink}
    (hread : read path = .ok bytes) (h : Unlimited s) :
    (transpile read path s).result =
      match ({} : Generator).code (Grammar.ofBytes bytes) with
      | .error e => (.error (.repeatedToken e), s)
      | .ok code => (.ok (), received s (Utf8.encode code)) := by
  have hperform := perform_eq (.transpile read path) s
  unfold Call.perform Call.code at hperform
  dsimp only at hperform
  rw [hperform, hread]
  dsimp only
  cases ({} : Generator).code (Grammar.ofBytes bytes) with
  | error e => rfl
  | ok code =>
    dsimp only [Except.mapError]
    rw [deliver_of_unlimited h]

theorem transpile_eq_ok_iff {read : FileReader} {path : Text} {bytes : Bytes} {s s' : Sink}
    (hread : read path = .ok bytes) (h : Unlimited s) :
    (transpile read path s).result = (.ok (), s') ↔
      ∃ code, ({} : Generator).code (Grammar.ofBytes bytes) = .ok code ∧
        s' = received s (Utf8.encode code) := by
  rw [transpile_of_unlimited hread h]
  cases ({} : Generator).code (Grammar.ofBytes bytes) with
  | error e => simp
  | ok code => simp [eq_comm]

theorem transpile_eq_error_iff {read : FileReader} {path : Text} {bytes : Bytes} {s s' : Sink}
    {e : TranspileError} (hread : read path = .ok bytes) (h : Unlimited s) :
    (transpile read path s).result = (.error e, s') ↔
      ∃ refused, ({} : Generator).code (Grammar.ofBytes bytes) = .error refused ∧
        e = .repeatedToken refused ∧ s' = s := by
  rw [transpile_of_unlimited hread h]
  cases ({} : Generator).code (Grammar.ofBytes bytes) with
  | error e' => simp [eq_comm]
  | ok code => simp

theorem load_of_read {read : FileReader} {path : Text} {bytes : Bytes}
    (hread : read path = .ok bytes) :
    (Grammar.load read path).result = .ok (Grammar.ofBytes bytes) := by
  unfold Grammar.load
  rw [hread]

/-- The lines of two files together are those of both, and so is the code if both have some. The
first file that is refused decides otherwise, and then nothing is written. -/
theorem transpile_append {read : FileReader} {first second both : Text}
    (hfirst : read first = .ok a) (hsecond : read second = .ok b)
    (hboth : read both = .ok (a ++ b)) (hclosed : Closed 0x0A a) :
    (∃ lines rest, (Grammar.load read first).result = .ok lines ∧
      (Grammar.load read second).result = .ok rest ∧
      (Grammar.load read both).result = .ok (lines ++ rest.map (later (a.count 0x0A)))) ∧
    ∀ s₁ s₂ s : Sink, Unlimited s₁ → Unlimited s₂ → Unlimited s →
      (∀ s₁' s₂', (transpile read first s₁).result = (.ok (), s₁') →
        (transpile read second s₂).result = (.ok (), s₂') →
        ∃ output₁ output₂, s₁'.written = s₁.written ++ output₁ ∧
          s₂'.written = s₂.written ++ output₂ ∧
          (transpile read both s).result = (.ok (), received s (output₁ ++ output₂))) ∧
      (∀ e s₁', (transpile read first s₁).result = (.error e, s₁') →
        (transpile read both s).result = (.error e, s)) ∧
      ∀ s₁' e s₂', (transpile read first s₁).result = (.ok (), s₁') →
        (transpile read second s₂).result = (.error e, s₂') →
        ∃ refused, e = .repeatedToken refused ∧
          (transpile read both s).result =
            (.error (.repeatedToken (refusedLater (a.count 0x0A) refused)), s) := by
  refine ⟨⟨_, _, load_of_read hfirst, load_of_read hsecond, ?_⟩, ?_⟩
  · rw [load_of_read hboth, ofBytes_append hclosed]
  intro s₁ s₂ s h₁ h₂ h
  refine ⟨?_, ?_, ?_⟩
  · intro s₁' s₂' hok₁ hok₂
    obtain ⟨code₁, hcode₁, rfl⟩ := (transpile_eq_ok_iff hfirst h₁).mp hok₁
    obtain ⟨code₂, hcode₂, rfl⟩ := (transpile_eq_ok_iff hsecond h₂).mp hok₂
    refine ⟨_, _, rfl, rfl, (transpile_eq_ok_iff hboth h).mpr ⟨code₁ ++ code₂, ?_, ?_⟩⟩
    · rw [ofBytes_append hclosed, code_append_of_ok hcode₁, hcode₂]
      rfl
    · unfold Utf8.encode
      rw [List.flatMap_append]
  · intro e s₁' herror
    obtain ⟨refused, hcode, rfl, -⟩ := (transpile_eq_error_iff hfirst h₁).mp herror
    apply (transpile_eq_error_iff hboth h).mpr
    refine ⟨refused, ?_, rfl, rfl⟩
    rw [ofBytes_append hclosed]
    exact code_append_of_error hcode _
  · intro s₁' e s₂' hok herror
    obtain ⟨code, hcode, -⟩ := (transpile_eq_ok_iff hfirst h₁).mp hok
    obtain ⟨refused, hrefused, rfl, -⟩ := (transpile_eq_error_iff hsecond h₂).mp herror
    refine ⟨refused, rfl, (transpile_eq_error_iff hboth h).mpr ⟨_, ?_, rfl, rfl⟩⟩
    rw [ofBytes_append hclosed, code_append_of_ok hcode, hrefused]
    rfl

/-- Two files and both together. The first ends in a character cut short and a newline, the second
defines a token that repeats. -/
def cutShort : Directory :=
  .ofFiles [(['a'], [0x41, 0x3A, 0x42, 0xE2, 0x82, 0x0A]), (['b'], [0x43, 0x3A, 0x5F, 0x2B]),
    (['c'], [0x41, 0x3A, 0x42, 0xE2, 0x82, 0x0A, 0x43, 0x3A, 0x5F, 0x2B])]

theorem transpile_append_cutShort :
    (transpile cutShort.read ['c'] {}).result =
      (.error (.repeatedToken ⟨['C'], 2, .oneOrMore⟩), {}) := by
  have hfirst : cutShort.read ['a'] = .ok [0x41, 0x3A, 0x42, 0xE2, 0x82, 0x0A] := rfl
  have hsecond : cutShort.read ['b'] = .ok [0x43, 0x3A, 0x5F, 0x2B] := rfl
  have hboth : cutShort.read ['c'] =
      .ok ([0x41, 0x3A, 0x42, 0xE2, 0x82, 0x0A] ++ [0x43, 0x3A, 0x5F, 0x2B]) := rfl
  have hunlimited : Unlimited {} := ⟨rfl, by decide, rfl⟩
  have hcode : ∃ s, (transpile cutShort.read ['a'] {}).result = (.ok (), s) :=
    ⟨_, (transpile_eq_ok_iff hfirst hunlimited).mpr ⟨_, rfl, rfl⟩⟩
  have hrefused : (transpile cutShort.read ['b'] {}).result =
      (.error (.repeatedToken ⟨['C'], 1, .oneOrMore⟩), {}) := rfl
  obtain ⟨s, hcode⟩ := hcode
  obtain ⟨refused, hsame, hresult⟩ := ((transpile_append hfirst hsecond hboth (Or.inr rfl)).2 {} {}
    {} hunlimited hunlimited hunlimited).2.2 _ _ _ hcode hrefused
  cases hsame
  exact hresult

end RuleTable.Concatenation
