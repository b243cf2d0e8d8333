import Mathlib.Algebra.Group.Nat.Defs
import RuleTable.Proofs.Splitting
import RuleTable.Utf8

/-!
Decoding is local at ASCII bytes. What a decoder has seen does not matter to what it will see, and
an ASCII byte leaves nothing unfinished, so bytes can be decoded in parts that are cut behind it.
A character of several bytes is never ASCII: decoding neither destroys nor invents an ASCII
character.
-/
namespace RuleTable.Decoding

open Utf8 Decoder Splitting

/-- The decoder as if it had seen `before` earlier. -/
def after (before : List (Option Char)) (d : Decoder) : Decoder :=
  ⟨d.seen ++ before, d.unfinished⟩

theorem begin_append (seen before : List (Option Char)) (b : UInt8) :
    begin (seen ++ before) b = after before (begin seen b) := by
  unfold begin
  cases lead b <;> rfl

theorem feed_after (before : List (Option Char)) (d : Decoder) (b : UInt8) :
    (after before d).feed b = after before (d.feed b) := by
  obtain ⟨seen, unfinished⟩ := d
  cases unfinished with
  | none => exact begin_append seen before b
  | some u =>
    unfold feed after
    dsimp only
    by_cases hbounds : u.least ≤ b.toNat ∧ b.toNat ≤ u.greatest
    · rw [if_pos hbounds, if_pos hbounds]
      by_cases hlast : u.missing = 1
      · rw [if_pos hlast, if_pos hlast]
        rfl
      · rw [if_neg hlast, if_neg hlast]
    · rw [if_neg hbounds, if_neg hbounds]
      exact begin_append (none :: seen) before b

theorem foldl_feed_after (before : List (Option Char)) (bytes : Bytes) (d : Decoder) :
    bytes.foldl feed (after before d) = after before (bytes.foldl feed d) := by
  induction bytes generalizing d with
  | nil => rfl
  | cons b bytes ih =>
    rw [List.foldl_cons, List.foldl_cons, feed_after]
    exact ih (d.feed b)

theorem finish_after (before : List (Option Char)) (d : Decoder) :
    (after before d).finish = before.reverse ++ d.finish := by
  unfold finish after
  dsimp only
  by_cases hopen : d.unfinished.isSome = true
  · simp [hopen]
  · simp [hopen]

/-- Bytes behind which nothing is unfinished are decoded on their own. -/
theorem scan_append {a : Bytes} (h : (a.foldl feed start).unfinished = none) (b : Bytes) :
    scan (a ++ b) = scan a ++ scan b := by
  unfold scan
  rw [List.foldl_append]
  generalize a.foldl feed start = d at h ⊢
  obtain ⟨seen, unfinished⟩ := d
  have hnone : unfinished = none := h
  subst hnone
  have hstart : (⟨seen, none⟩ : Decoder) = after seen start := rfl
  rw [hstart, foldl_feed_after, finish_after, finish_after]
  show _ = seen.reverse ++ [] ++ _
  rw [List.append_nil]

theorem foldl_feed_newline (bytes : Bytes) :
    (bytes ++ [0x0A]).foldl feed start = ⟨some '\n' :: (scan bytes).reverse, none⟩ := by
  rw [List.foldl_append, List.foldl_cons, List.foldl_nil, feed_ascii _ _ (by decide)]
  rfl

theorem decode_append {a : Bytes} (h : Closed 0x0A a) (b : Bytes) :
    decode (a ++ b) = decode a ++ decode b := by
  have hscan : scan (a ++ b) = scan a ++ scan b := by
    apply scan_append
    rcases h.eq_append with rfl | ⟨bytes, rfl⟩
    · rfl
    · rw [foldl_feed_newline]
  unfold decode
  rw [hscan, List.map_append]

theorem decode_newline (bytes : Bytes) : decode (bytes ++ [0x0A]) = decode bytes ++ ['\n'] := by
  have hscan : scan (bytes ++ [0x0A]) = scan bytes ++ [some '\n'] := by
    unfold scan
    rw [foldl_feed_newline]
    simp [finish, scan]
  unfold decode
  rw [hscan, List.map_append]
  rfl

/-- What an unfinished character can still become: the code points from `low` to `high`. -/
def low (u : Unfinished) : Nat := (u.bits * 64 + (u.least - 0x80)) * 64 ^ (u.missing - 1)

def high (u : Unfinished) : Nat :=
  (u.bits * 64 + (u.greatest - 0x80) + 1) * 64 ^ (u.missing - 1) - 1

/-- An unfinished character becomes one that is not ASCII, whatever bytes follow within bounds. -/
structure Sound (u : Unfinished) : Prop where
  missing_pos : 0 < u.missing
  not_ascii : 0x80 ≤ low u
  scalar : high u < 0xD800 ∨ 0xDFFF < low u ∧ high u < 0x110000

theorem sound_of_lead {b : UInt8} {u : Unfinished} (h : lead b = .opening u) : Sound u := by
  unfold lead at h
  dsimp only at h
  split at h
  · cases h
  split at h
  · cases h
  split at h
  · next htwo =>
    rw [← Lead.opening.inj h]
    refine ⟨Nat.succ_pos _, ?_, ?_⟩ <;> dsimp only [low, high] <;> omega
  split at h
  · next hthree =>
    rw [← Lead.opening.inj h]
    refine ⟨Nat.succ_pos _, ?_, ?_⟩
    · dsimp only [low]
      split <;> omega
    · dsimp only [low, high]
      split <;> split <;> omega
  split at h
  · next hfour =>
    rw [← Lead.opening.inj h]
    refine ⟨Nat.succ_pos _, ?_, ?_⟩
    · dsimp only [low]
      split <;> omega
    · dsimp only [low, high]
      split <;> split <;> omega
  · cases h

/-- A narrower range still holds no surrogate and nothing past the last code point. -/
theorem Sound.scalar_within {u : Unfinished} (h : Sound u) {m n : Nat} (hlow : low u ≤ m)
    (hhigh : n ≤ high u) : n < 0xD800 ∨ 0xDFFF < m ∧ n < 0x110000 := by
  rcases h.scalar with hbefore | ⟨hbehind, hbelow⟩
  · exact Or.inl (Nat.lt_of_le_of_lt hhigh hbefore)
  · exact Or.inr ⟨Nat.lt_of_lt_of_le hbehind hlow, Nat.lt_of_le_of_lt hhigh hbelow⟩

/-- One more byte within bounds leaves an unfinished character with fewer choices. -/
theorem Sound.step {u : Unfinished} (h : Sound u) {n : Nat} (hleast : u.least ≤ n)
    (hgreatest : n ≤ u.greatest) (hmore : u.missing ≠ 1) :
    Sound ⟨u.bits * 64 + (n - 0x80), u.missing - 1, 0x80, 0xBF, Nat.le_refl _⟩ := by
  have hmissing : 2 ≤ u.missing := by
    have := h.missing_pos
    omega
  obtain ⟨more, hmore⟩ : ∃ more, u.missing = more + 2 := ⟨u.missing - 2, by omega⟩
  have hlow : low u ≤ low ⟨u.bits * 64 + (n - 0x80), u.missing - 1, 0x80, 0xBF, Nat.le_refl _⟩ := by
    dsimp only [low]
    rw [hmore, show more + 2 - 1 = more + 1 by omega, show more + 1 - 1 = more by omega,
      Nat.pow_succ', ← Nat.mul_assoc]
    apply Nat.mul_le_mul_right
    omega
  have hhigh : high ⟨u.bits * 64 + (n - 0x80), u.missing - 1, 0x80, 0xBF, Nat.le_refl _⟩
      ≤ high u := by
    dsimp only [high]
    rw [hmore, show more + 2 - 1 = more + 1 by omega, show more + 1 - 1 = more by omega,
      Nat.pow_succ', ← Nat.mul_assoc]
    apply Nat.sub_le_sub_right
    apply Nat.mul_le_mul_right
    omega
  refine ⟨?_, ?_, ?_⟩
  · dsimp only
    omega
  · exact Nat.le_trans h.not_ascii hlow
  · exact h.scalar_within hlow hhigh

theorem toNat_ofNat {n : Nat} (h : n.isValidChar) : (Char.ofNat n).toNat = n := by
  unfold Char.ofNat
  rw [dif_pos h]
  rfl

/-- The last byte within bounds gives a character that is not ASCII. -/
theorem Sound.last {u : Unfinished} (h : Sound u) {n : Nat} (hleast : u.least ≤ n)
    (hgreatest : n ≤ u.greatest) (hlast : u.missing = 1) :
    0x80 ≤ (Char.ofNat (u.bits * 64 + (n - 0x80))).toNat := by
  have hlow : low u ≤ u.bits * 64 + (n - 0x80) := by
    dsimp only [low]
    rw [hlast, Nat.sub_self, Nat.pow_zero, Nat.mul_one]
    omega
  have hhigh : u.bits * 64 + (n - 0x80) ≤ high u := by
    dsimp only [high]
    rw [hlast, Nat.sub_self, Nat.pow_zero, Nat.mul_one]
    omega
  have hvalid : (u.bits * 64 + (n - 0x80)).isValidChar := h.scalar_within hlow hhigh
  rw [toNat_ofNat hvalid]
  exact Nat.le_trans h.not_ascii hlow

def isAscii (c : Char) : Bool := c.toNat < 0x80

/-- The ASCII characters among pieces that were read. -/
def asciiOf (pieces : List (Option Char)) : Text :=
  (pieces.map fun c => c.getD replacement).filter isAscii

/-- The bytes that are ASCII, as characters. -/
def asciiBytes (bytes : Bytes) : Text :=
  (bytes.filter fun b => b.toNat < 0x80).map fun b => Char.ofNat b.toNat

theorem asciiOf_append (before pieces : List (Option Char)) :
    asciiOf (before ++ pieces) = asciiOf before ++ asciiOf pieces := by
  unfold asciiOf
  rw [List.map_append, List.filter_append]

theorem asciiOf_none : asciiOf [none] = [] := by
  decide

theorem asciiOf_some (c : Char) : asciiOf [some c] = if isAscii c then [c] else [] :=
  List.filter_cons

theorem asciiBytes_cons (b : UInt8) (bytes : Bytes) :
    asciiBytes (b :: bytes) = asciiBytes [b] ++ asciiBytes bytes := by
  unfold asciiBytes
  rw [← List.map_append, ← List.filter_append]
  rfl

theorem asciiBytes_of_ascii {b : UInt8} (h : b.toNat < 0x80) :
    asciiBytes [b] = [Char.ofNat b.toNat] := by
  unfold asciiBytes
  rw [List.filter_cons_of_pos (by simpa using h)]
  rfl

theorem asciiBytes_of_not_ascii {b : UInt8} (h : ¬b.toNat < 0x80) : asciiBytes [b] = [] := by
  unfold asciiBytes
  rw [List.filter_cons_of_neg (by simpa using h)]
  rfl

theorem asciiOf_finish (d : Decoder) : asciiOf d.finish = asciiOf d.seen.reverse := by
  unfold finish
  by_cases hopen : d.unfinished.isSome = true
  · rw [if_pos hopen, List.reverse_cons, asciiOf_append, asciiOf_none, List.append_nil]
  · rw [if_neg hopen]

theorem lead_of_not_ascii {b : UInt8} (h : ¬b.toNat < 0x80) :
    lead b = .illFormed ∨ ∃ u, lead b = .opening u := by
  unfold lead
  dsimp only
  rw [if_neg h]
  split
  · exact Or.inl rfl
  split
  · exact Or.inr ⟨_, rfl⟩
  split
  · exact Or.inr ⟨_, rfl⟩
  split
  · exact Or.inr ⟨_, rfl⟩
  · exact Or.inl rfl

/-- Between two characters, what is seen grows by the byte if it is ASCII. -/
theorem asciiOf_begin (seen : List (Option Char)) (b : UInt8) :
    asciiOf (begin seen b).finish = asciiOf seen.reverse ++ asciiBytes [b] := by
  rw [asciiOf_finish]
  by_cases hascii : b.toNat < 0x80
  · have hwhole : begin seen b = ⟨some (Char.ofNat b.toNat) :: seen, none⟩ := by
      unfold begin lead
      dsimp only
      rw [if_pos hascii]
    have hsame : (Char.ofNat b.toNat).toNat = b.toNat := toNat_ofNat (Or.inl (by omega))
    have hkept : isAscii (Char.ofNat b.toNat) = true := by
      unfold isAscii
      rw [hsame]
      exact decide_eq_true hascii
    rw [hwhole, List.reverse_cons, asciiOf_append, asciiOf_some, if_pos hkept,
      asciiBytes_of_ascii hascii]
  · rw [asciiBytes_of_not_ascii hascii, List.append_nil]
    unfold begin
    rcases lead_of_not_ascii hascii with hlead | ⟨u, hlead⟩
    · rw [hlead, List.reverse_cons, asciiOf_append, asciiOf_none, List.append_nil]
    · rw [hlead]

/-- Nothing is unfinished, or what is cannot become ASCII. -/
def Kept (d : Decoder) : Prop := ∀ u, d.unfinished = some u → Sound u

theorem kept_begin (seen : List (Option Char)) (b : UInt8) : Kept (begin seen b) := by
  intro u hopen
  unfold begin at hopen
  cases hlead : lead b with
  | whole c =>
    rw [hlead] at hopen
    cases hopen
  | opening v =>
    rw [hlead] at hopen
    cases hopen
    exact sound_of_lead hlead
  | illFormed =>
    rw [hlead] at hopen
    cases hopen

/-- One byte: the invariant stays, and the ASCII characters grow by the byte if it is one. -/
theorem feed_kept {d : Decoder} (h : Kept d) (b : UInt8) :
    Kept (d.feed b) ∧ asciiOf (d.feed b).finish = asciiOf d.finish ++ asciiBytes [b] := by
  obtain ⟨seen, unfinished⟩ := d
  cases unfinished with
  | none => exact ⟨kept_begin seen b, asciiOf_begin seen b⟩
  | some u =>
    have hsound : Sound u := h u rfl
    have hdropped : asciiOf (none :: seen).reverse = asciiOf (finish ⟨seen, some u⟩) := rfl
    unfold feed
    dsimp only
    by_cases hbounds : u.least ≤ b.toNat ∧ b.toNat ≤ u.greatest
    · rw [if_pos hbounds]
      have hbyte : ¬b.toNat < 0x80 := by
        have := u.not_ascii
        omega
      rw [asciiBytes_of_not_ascii hbyte, List.append_nil, asciiOf_finish ⟨seen, some u⟩]
      by_cases hlast : u.missing = 1
      · rw [if_pos hlast]
        have hother : ¬isAscii (Char.ofNat (u.bits * 64 + (b.toNat - 0x80))) = true := by
          have := hsound.last hbounds.1 hbounds.2 hlast
          simpa [isAscii] using this
        constructor
        · intro v hopen
          cases hopen
        · rw [asciiOf_finish, List.reverse_cons, asciiOf_append, asciiOf_some, if_neg hother,
            List.append_nil]
      · rw [if_neg hlast]
        constructor
        · intro v hopen
          rw [← Option.some.inj hopen]
          exact hsound.step hbounds.1 hbounds.2 hlast
        · rw [asciiOf_finish]
    · rw [if_neg hbounds, ← hdropped]
      exact ⟨kept_begin (none :: seen) b, asciiOf_begin (none :: seen) b⟩

theorem foldl_feed_kept {d : Decoder} (h : Kept d) (bytes : Bytes) :
    asciiOf (bytes.foldl feed d).finish = asciiOf d.finish ++ asciiBytes bytes := by
  induction bytes generalizing d with
  | nil => exact (List.append_nil _).symm
  | cons b bytes ih =>
    obtain ⟨hkept, hascii⟩ := feed_kept h b
    rw [List.foldl_cons, ih hkept, hascii, List.append_assoc, ← asciiBytes_cons]

/-- The ASCII characters of a decoded text are the ASCII bytes. -/
theorem filter_decode (bytes : Bytes) : (decode bytes).filter isAscii = asciiBytes bytes := by
  have hstart : Kept start := by
    intro u hopen
    cases hopen
  have hrun := foldl_feed_kept hstart bytes
  have hempty : asciiOf start.finish = [] := rfl
  rw [hempty, List.nil_append] at hrun
  exact hrun

theorem count_newline_asciiBytes (bytes : Bytes) :
    (asciiBytes bytes).count '\n' = bytes.count 0x0A := by
  induction bytes with
  | nil => rfl
  | cons b bytes ih =>
    rw [asciiBytes_cons, List.count_append, ih, List.count_cons, Nat.add_comm]
    by_cases hnewline : b = 0x0A
    · subst hnewline
      rfl
    · have hbyte : (asciiBytes [b]).count '\n' = 0 := by
        by_cases hascii : b.toNat < 0x80
        · rw [asciiBytes_of_ascii hascii, List.count_eq_zero, List.mem_singleton]
          intro hread
          have hsame : (Char.ofNat b.toNat).toNat = b.toNat := toNat_ofNat (Or.inl (by omega))
          apply hnewline
          apply UInt8.toNat_inj.mp
          rw [← hsame, ← hread]
          rfl
        · rw [asciiBytes_of_not_ascii hascii]
          rfl
      rw [hbyte, if_neg (by simpa using hnewline)]

theorem count_newline_decode (bytes : Bytes) : (decode bytes).count '\n' = bytes.count 0x0A := by
  rw [← count_newline_asciiBytes, ← filter_decode]
  exact (List.count_filter (by decide)).symm

end RuleTable.Decoding
