import Mathlib.Tactic.ByContra
import RuleTable.Sink

/-!
How much of some bytes a sink takes. The loop of single writes is followed write by write and its
end is known in advance: all that fits under the limit if a write takes anything at all, and
nothing otherwise. So how the bytes are cut up is of no account.
-/
namespace RuleTable.Writing

open Sink

/-- How many of `left` bytes a sink takes in the end while it holds `held`. -/
def taken (s : Sink) (held left : Nat) : Nat :=
  if s.chunk = some 0 then 0
  else
    match s.limit with
    | none => left
    | some most => min left (most - held)

/-- What a sink that has stopped with `held` bytes reports. -/
def fault (s : Sink) (held : Nat) : SinkError :=
  match s.limit.map (· - held), s.writeFault with
  | some 0, some reason => .reported reason
  | _, _ => .stalled

theorem taken_le (s : Sink) (held left : Nat) : taken s held left ≤ left := by
  unfold taken
  split
  · exact Nat.zero_le left
  · split
    · exact Nat.le_refl left
    · exact Nat.min_le_left ..

/-- What is taken can be taken in two parts. -/
theorem taken_add {s : Sink} {held left n : Nat} (h : n ≤ taken s held left) :
    taken s held left = n + taken s (held + n) (left - n) := by
  unfold taken at h ⊢
  by_cases hchunk : s.chunk = some 0
  · rw [if_pos hchunk] at h
    rw [if_pos hchunk, if_pos hchunk]
    omega
  · rw [if_neg hchunk] at h
    rw [if_neg hchunk, if_neg hchunk]
    cases hlimit : s.limit with
    | none =>
      rw [hlimit] at h
      dsimp only at h ⊢
      omega
    | some most =>
      rw [hlimit] at h
      dsimp only at h ⊢
      omega

theorem capped_zero (bound : Option Nat) : capped bound 0 = 0 := by
  cases bound with
  | none => rfl
  | some most => exact Nat.zero_min most

/-- A sink that will take nothing fails or takes nothing at once. -/
theorem accepts_of_taken_eq_zero {s : Sink} {held left : Nat} (hleft : left ≠ 0)
    (h : taken s held left = 0) :
    s.accepts held left = .error (fault s held) ∨
      s.accepts held left = .ok 0 ∧ fault s held = .stalled := by
  obtain ⟨limit, chunk, writeFault, flushFault, written, flushes⟩ := s
  unfold taken at h
  unfold accepts fault
  dsimp only at h ⊢
  have hnothing : ∀ n, chunk = some 0 → capped chunk n = 0 := by
    intro n hzero
    subst hzero
    exact Nat.min_zero n
  cases limit with
  | none =>
    have hchunk : chunk = some 0 := by
      by_contra hchunk
      rw [if_neg hchunk] at h
      exact hleft h
    exact Or.inr ⟨congrArg Except.ok (hnothing _ hchunk), rfl⟩
  | some most =>
    rw [Option.map_some]
    cases hroom : most - held with
    | zero =>
      cases writeFault with
      | none =>
        have hnone : capped (some 0) left = 0 := Nat.min_zero left
        refine Or.inr ⟨?_, rfl⟩
        change Except.ok (capped chunk (capped (some 0) left)) = _
        rw [hnone, capped_zero]
      | some reason => exact Or.inl rfl
    | succ room =>
      have hchunk : chunk = some 0 := by
        by_contra hchunk
        rw [if_neg hchunk] at h
        dsimp only at h
        omega
      exact Or.inr ⟨congrArg Except.ok (hnothing _ hchunk), rfl⟩

/-- Otherwise a write takes something of what will be taken. -/
theorem accepts_of_taken_ne_zero {s : Sink} {held left : Nat} (h : taken s held left ≠ 0) :
    ∃ n, s.accepts held left = .ok (n + 1) ∧ n + 1 ≤ taken s held left := by
  obtain ⟨limit, chunk, writeFault, flushFault, written, flushes⟩ := s
  unfold taken at h ⊢
  unfold accepts
  dsimp only at h ⊢
  have hchunk : ¬chunk = some 0 := by
    intro hchunk
    rw [if_pos hchunk] at h
    exact h rfl
  rw [if_neg hchunk] at h
  rw [if_neg hchunk]
  have hsome : ∀ n, n ≠ 0 → ∃ m, capped chunk n = m + 1 ∧ m + 1 ≤ n := by
    intro n hn
    cases chunk with
    | none => exact ⟨n - 1, by simp only [capped]; omega, by omega⟩
    | some most =>
      have hmost : most ≠ 0 := fun hzero => hchunk (by rw [hzero])
      exact ⟨min n most - 1, by simp only [capped]; omega, by omega⟩
  cases limit with
  | none =>
    obtain ⟨m, hm, hle⟩ := hsome left h
    exact ⟨m, congrArg Except.ok hm, hle⟩
  | some most =>
    obtain ⟨m, hm, hle⟩ := hsome (min left (most - held)) h
    obtain ⟨room, hroom⟩ : ∃ room, most - held = room + 1 := by
      dsimp only at h
      exact ⟨most - held - 1, by omega⟩
    rw [Option.map_some, hroom]
    rw [hroom] at hm
    exact ⟨m, congrArg Except.ok hm, hle⟩

/-- The loop takes all that it can and succeeds if that is everything. -/
theorem fill_eq (s : Sink) (held left : Nat) :
    s.fill held left =
      (if taken s held left = left then .ok () else .error (fault s (held + taken s held left)),
        held + taken s held left) := by
  induction left using Nat.strongRecOn generalizing held with
  | ind left ih =>
    rw [fill]
    by_cases hleft : left = 0
    · have htaken := taken_le s held left
      have hzero : taken s held left = 0 := by omega
      rw [if_pos hleft, hzero, if_pos hleft.symm, Nat.add_zero]
    · rw [if_neg hleft]
      by_cases hzero : taken s held left = 0
      · have hall : ¬taken s held left = left := by omega
        rw [if_neg hall, hzero, Nat.add_zero]
        rcases accepts_of_taken_eq_zero hleft hzero with haccepts | ⟨haccepts, hfault⟩
        · rw [haccepts]
        · rw [haccepts, hfault]
      · obtain ⟨n, haccepts, hle⟩ := accepts_of_taken_ne_zero hzero
        have htaken := taken_add hle
        have hmost := taken_le s held left
        rw [haccepts]
        dsimp only
        have hall : taken s (held + (n + 1)) (left - (n + 1)) = left - (n + 1) ↔
            taken s held left = left := by omega
        rw [ih (left - (n + 1)) (by omega)]
        simp only [hall]
        rw [htaken]
        simp only [Nat.add_assoc]

/-- What a sink holds after it was offered some bytes. -/
def filled (s : Sink) (bytes : Bytes) : Sink :=
  { s with written := s.written ++ bytes.take (taken s s.written.length bytes.length) }

theorem writeAll_eq (s : Sink) (bytes : Bytes) :
    s.writeAll bytes =
      (if taken s s.written.length bytes.length = bytes.length then .ok ()
        else .error (fault s (filled s bytes).written.length), filled s bytes) := by
  have hlength : (filled s bytes).written.length =
      s.written.length + taken s s.written.length bytes.length := by
    have hle := taken_le s s.written.length bytes.length
    simp only [filled, List.length_append, List.length_take]
    omega
  have htake : s.written.length + taken s s.written.length bytes.length - s.written.length =
      taken s s.written.length bytes.length := by omega
  unfold writeAll
  rw [fill_eq, hlength]
  dsimp only
  rw [htake]
  rfl

/-- What a single write may do. It takes as much as the sink accepts or any part of it, and nothing
only if the sink accepts nothing. -/
inductive Write (s : Sink) (bytes : Bytes) : Except SinkError Nat → Sink → Prop
  | fails {e : SinkError} (h : s.accepts s.written.length bytes.length = .error e) :
      Write s bytes (.error e) s
  | takes {n most : Nat} (h : s.accepts s.written.length bytes.length = .ok most) (hle : n ≤ most)
      (hnothing : n = 0 → most = 0) :
      Write s bytes (.ok n) { s with written := s.written ++ bytes.take n }

/-- The loop write by write: the results of the single writes in order, then its own result. It
writes only while bytes are left. -/
inductive Writes : Sink → Bytes → List (Except SinkError Nat) → Except SinkError Unit → Sink → Prop
  | done (s : Sink) : Writes s [] [] (.ok ()) s
  | failed {s s' : Sink} {bytes : Bytes} {e : SinkError} (hleft : bytes ≠ [])
      (h : Write s bytes (.error e) s') : Writes s bytes [.error e] (.error e) s'
  | stalled {s s' : Sink} {bytes : Bytes} (hleft : bytes ≠ [])
      (h : Write s bytes (.ok 0) s') : Writes s bytes [.ok 0] (.error .stalled) s'
  | more {s s' s'' : Sink} {bytes : Bytes} {n : Nat} {results : List (Except SinkError Nat)}
      {result : Except SinkError Unit} (hleft : bytes ≠ [])
      (h : Write s bytes (.ok (n + 1)) s')
      (hrest : Writes s' (bytes.drop (n + 1)) results result s'') :
      Writes s bytes (.ok (n + 1) :: results) result s''

theorem results_eq_nil_iff {s s' : Sink} {bytes : Bytes} {results : List (Except SinkError Nat)}
    {result : Except SinkError Unit} (h : Writes s bytes results result s') :
    results = [] ↔ bytes = [] := by
  cases h with
  | done => simp
  | failed hleft => simp [hleft]
  | stalled hleft => simp [hleft]
  | more hleft => simp [hleft]

theorem writeAll_nil (s : Sink) : s.writeAll [] = (.ok (), s) := by
  have hzero : taken s s.written.length 0 = 0 := Nat.le_zero.mp (taken_le s s.written.length 0)
  rw [writeAll_eq, filled, List.length_nil, hzero, if_pos rfl, List.take_nil, List.append_nil]

theorem writeAll_of_taken_eq_zero {s : Sink} {bytes : Bytes} (hleft : bytes ≠ [])
    (h : taken s s.written.length bytes.length = 0) :
    s.writeAll bytes = (.error (fault s s.written.length), s) := by
  have hall : ¬0 = bytes.length := by
    intro hlength
    exact hleft (List.length_eq_zero_iff.mp hlength.symm)
  rw [writeAll_eq, filled, h, if_neg hall, List.take_zero, List.append_nil]

/-- What one write does while bytes are left: it stops a sink that will take nothing, or takes a
part of what will be taken. -/
theorem write_cases {s s' : Sink} {bytes : Bytes} {result : Except SinkError Nat}
    (hleft : bytes ≠ []) (h : Write s bytes result s') :
    (taken s s.written.length bytes.length = 0 ∧ s' = s ∧
      (result = .error (fault s s.written.length) ∨
        result = .ok 0 ∧ fault s s.written.length = .stalled)) ∨
    ∃ n, result = .ok (n + 1) ∧ s' = { s with written := s.written ++ bytes.take (n + 1) } ∧
      n + 1 ≤ taken s s.written.length bytes.length := by
  have hlength : bytes.length ≠ 0 := fun hzero => hleft (List.length_eq_zero_iff.mp hzero)
  by_cases hzero : taken s s.written.length bytes.length = 0
  · refine Or.inl ⟨hzero, ?_⟩
    have haccepts := accepts_of_taken_eq_zero hlength hzero
    cases h with
    | fails herror =>
      rw [herror] at haccepts
      rcases haccepts with hfault | ⟨hnone, -⟩
      · cases hfault
        exact ⟨rfl, Or.inl rfl⟩
      · cases hnone
    | takes hmost hle hnothing =>
      rw [hmost] at haccepts
      rcases haccepts with hfault | ⟨hnone, hfault⟩
      · cases hfault
      · cases hnone
        obtain rfl := Nat.le_zero.mp hle
        rw [List.take_zero, List.append_nil]
        exact ⟨rfl, Or.inr ⟨rfl, hfault⟩⟩
  · obtain ⟨most, haccepts, hall⟩ := accepts_of_taken_ne_zero hzero
    cases h with
    | fails herror =>
      rw [herror] at haccepts
      cases haccepts
    | @takes n most' hmost hle hnothing =>
      rw [hmost] at haccepts
      cases haccepts
      obtain ⟨m, rfl⟩ : ∃ m, n = m + 1 := ⟨n - 1, by omega⟩
      exact Or.inr ⟨m, rfl, rfl, by omega⟩

theorem exists_write (s : Sink) (bytes : Bytes) : ∃ result s', Write s bytes result s' := by
  cases haccepts : s.accepts s.written.length bytes.length with
  | error e => exact ⟨_, _, .fails haccepts⟩
  | ok most => exact ⟨_, _, .takes haccepts (Nat.le_refl most) id⟩

/-- After a write that takes something the loop goes on with the rest. -/
theorem writeAll_drop {s : Sink} {bytes : Bytes} {n : Nat}
    (h : n ≤ taken s s.written.length bytes.length) :
    ({ s with written := s.written ++ bytes.take n } : Sink).writeAll (bytes.drop n) =
      s.writeAll bytes := by
  have hle : n ≤ bytes.length := Nat.le_trans h (taken_le ..)
  have htaken := taken_add h
  have hheld : (s.written ++ bytes.take n).length = s.written.length + n := by
    rw [List.length_append, List.length_take, Nat.min_eq_left hle]
  have hfilled : filled { s with written := s.written ++ bytes.take n } (bytes.drop n) =
      filled s bytes := by
    unfold filled
    rw [htaken]
    dsimp only
    rw [hheld, List.length_drop, List.append_assoc, ← List.take_add]
    rfl
  have hall : taken { s with written := s.written ++ bytes.take n }
      (s.written ++ bytes.take n).length (bytes.drop n).length = (bytes.drop n).length ↔
      taken s s.written.length bytes.length = bytes.length := by
    rw [htaken, hheld, List.length_drop]
    change taken s _ _ = _ ↔ _
    omega
  rw [writeAll_eq, writeAll_eq, hfilled]
  simp only [hall]
  rfl

/-- The loop can be run write by write. -/
theorem exists_writes (s : Sink) (bytes : Bytes) :
    ∃ results result s', Writes s bytes results result s' := by
  generalize hlength : bytes.length = left
  induction left using Nat.strongRecOn generalizing s bytes with
  | ind left ih =>
    by_cases hleft : bytes = []
    · subst hleft
      exact ⟨[], _, _, .done s⟩
    · obtain ⟨result, s', hwrite⟩ := exists_write s bytes
      rcases write_cases hleft hwrite with ⟨-, -, hresult | ⟨hresult, -⟩⟩ | ⟨n, hresult, -, hle⟩
      · subst hresult
        exact ⟨_, _, _, .failed hleft hwrite⟩
      · subst hresult
        exact ⟨_, _, _, .stalled hleft hwrite⟩
      · subst hresult
        have hmost := taken_le s s.written.length bytes.length
        obtain ⟨results, result, s'', hrest⟩ := ih (left - (n + 1)) (by omega) s'
          (bytes.drop (n + 1)) (by rw [List.length_drop, hlength])
        exact ⟨_, _, _, .more hleft hwrite hrest⟩

/-- However the bytes are cut up, the loop ends as `writeAll` does. -/
theorem Writes.eq_writeAll {s s' : Sink} {bytes : Bytes} {results : List (Except SinkError Nat)}
    {result : Except SinkError Unit} (h : Writes s bytes results result s') :
    s.writeAll bytes = (result, s') := by
  induction h with
  | done s => exact writeAll_nil s
  | failed hleft hwrite =>
    rcases write_cases hleft hwrite with ⟨hzero, rfl, hresult | ⟨hresult, -⟩⟩ | ⟨n, hresult, -⟩
    · cases hresult
      exact writeAll_of_taken_eq_zero hleft hzero
    · cases hresult
    · cases hresult
  | stalled hleft hwrite =>
    rcases write_cases hleft hwrite with ⟨hzero, rfl, hresult | ⟨-, hfault⟩⟩ | ⟨n, hresult, -⟩
    · cases hresult
    · rw [writeAll_of_taken_eq_zero hleft hzero, hfault]
    · cases hresult
  | more hleft hwrite hrest ih =>
    rcases write_cases hleft hwrite with ⟨-, -, hresult | ⟨hresult, -⟩⟩ | ⟨n, hresult, rfl, hle⟩
    · cases hresult
    · cases hresult
    · cases hresult
      exact (writeAll_drop hle).symm.trans ih

theorem Writes.eq_filled {s s' : Sink} {bytes : Bytes} {results : List (Except SinkError Nat)}
    {result : Except SinkError Unit} (h : Writes s bytes results result s') :
    s' = filled s bytes ∧
      (result = .ok () ↔ taken s s.written.length bytes.length = bytes.length) := by
  have hwriteAll := h.eq_writeAll
  rw [writeAll_eq] at hwriteAll
  obtain ⟨hresult, hsink⟩ := Prod.mk.inj hwriteAll
  refine ⟨hsink.symm, ?_⟩
  rw [← hresult]
  by_cases hall : taken s s.written.length bytes.length = bytes.length
  · rw [if_pos hall]
    exact ⟨fun _ => hall, fun _ => rfl⟩
  · rw [if_neg hall]
    exact ⟨(fun hok => by cases hok), fun htaken => absurd htaken hall⟩

end RuleTable.Writing
