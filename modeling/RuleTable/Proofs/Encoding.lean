import RuleTable.Proofs.Decoding

/-!
Encoding and decoding undo each other. A character of several bytes is its leading byte and then
six bits in each byte behind it, so what has been read of one settles how the encoding of every
character that it can still become begins. Bytes are well-formed exactly if they encode a text,
and that text is what is read from them.
-/
namespace RuleTable.Encoding

open Utf8 Decoder Decoding

/-- The last `k` bytes of the encoding of a character with this number, if it has more than `k`. -/
def continuation (n : Nat) : Nat → Bytes
  | 0 => []
  | k + 1 => UInt8.ofNat (n / 64 ^ k % 64 + 0x80) :: continuation n k

/-- How many bytes stand behind the leading byte of a character with this number. -/
def owed (n : Nat) : Nat :=
  if n < 0x80 then 0 else if n < 0x800 then 1 else if n < 0x10000 then 2 else 3

/-- The leading byte of a character that owes so many bytes, without its bits. -/
def marker : Nat → Nat
  | 0 => 0
  | 1 => 0xC0
  | 2 => 0xE0
  | _ => 0xF0

theorem owed_eq_one {n : Nat} (h : 0x80 ≤ n) (h' : n < 0x800) : owed n = 1 := by
  unfold owed
  rw [if_neg (by omega), if_pos h']

theorem owed_eq_two {n : Nat} (h : 0x800 ≤ n) (h' : n < 0x10000) : owed n = 2 := by
  unfold owed
  rw [if_neg (by omega), if_neg (by omega), if_pos h']

theorem owed_eq_three {n : Nat} (h : 0x10000 ≤ n) : owed n = 3 := by
  unfold owed
  rw [if_neg (by omega), if_neg (by omega), if_neg (by omega)]

/-- The number goes on from what has been read, and its next six bits are within the bounds. -/
structure Continues (u : Unfinished) (n : Nat) : Prop where
  bits_eq : n / 64 ^ u.missing = u.bits
  least_le : u.least ≤ n / 64 ^ (u.missing - 1) % 64 + 0x80
  le_greatest : n / 64 ^ (u.missing - 1) % 64 + 0x80 ≤ u.greatest

theorem encode_cons (c : Char) (s : Text) :
    encode (c :: s) = String.utf8EncodeChar c ++ encode s := List.flatMap_cons

theorem encode_append (s t : Text) : encode (s ++ t) = encode s ++ encode t :=
  List.flatMap_append

theorem utf8EncodeChar_eq (c : Char) :
    String.utf8EncodeChar c =
      UInt8.ofNat (c.toNat / 64 ^ owed c.toNat + marker (owed c.toNat)) ::
        continuation c.toNat (owed c.toNat) := by
  have hvalid : c.toNat < 0xD800 ∨ 0xDFFF < c.toNat ∧ c.toNat < 0x110000 := c.valid
  unfold String.utf8EncodeChar
  change (if c.toNat ≤ 0x7F then [UInt8.ofNat c.toNat] else
    if c.toNat ≤ 0x7FF then
      [UInt8.ofNat (c.toNat / 64 % 0x20 + 0xC0), UInt8.ofNat (c.toNat % 0x40 + 0x80)] else
    if c.toNat ≤ 0xFFFF then
      [UInt8.ofNat (c.toNat / 4096 % 0x10 + 0xE0), UInt8.ofNat (c.toNat / 64 % 0x40 + 0x80),
        UInt8.ofNat (c.toNat % 0x40 + 0x80)]
    else
      [UInt8.ofNat (c.toNat / 262144 % 0x08 + 0xF0), UInt8.ofNat (c.toNat / 4096 % 0x40 + 0x80),
        UInt8.ofNat (c.toNat / 64 % 0x40 + 0x80), UInt8.ofNat (c.toNat % 0x40 + 0x80)]) = _
  generalize c.toNat = n at hvalid ⊢
  unfold owed
  by_cases hone : n < 0x80
  · rw [if_pos (by omega), if_pos hone]
    simp [continuation, marker]
  rw [if_neg (by omega), if_neg hone]
  by_cases htwo : n < 0x800
  · rw [if_pos (by omega), if_pos htwo, Nat.mod_eq_of_lt (by omega)]
    simp [continuation, marker]
  rw [if_neg (by omega), if_neg htwo]
  by_cases hthree : n < 0x10000
  · rw [if_pos (by omega), if_pos hthree, Nat.mod_eq_of_lt (a := n / 4096) (by omega)]
    simp [continuation, marker]
  · rw [if_neg (by omega), if_neg hthree, Nat.mod_eq_of_lt (a := n / 262144) (by omega)]
    simp [continuation, marker]

theorem utf8EncodeChar_ascii {c : Char} (h : c.toNat < 0x80) :
    String.utf8EncodeChar c = [UInt8.ofNat c.toNat] := by
  have howed : owed c.toNat = 0 := if_pos h
  rw [utf8EncodeChar_eq, howed, Nat.pow_zero, Nat.div_one]
  rfl

/-- The leading byte of a number that is not ASCII begins an unfinished character. -/
theorem exists_opening {b : UInt8} {n : Nat} (hvalid : n < 0xD800 ∨ 0xDFFF < n ∧ n < 0x110000)
    (hascii : ¬n < 0x80) (hb : b.toNat = n / 64 ^ owed n + marker (owed n)) :
    ∃ u, lead b = .opening u ∧ Continues u n ∧ u.missing = owed n := by
  unfold lead
  dsimp only
  by_cases htwo : n < 0x800
  · rw [owed_eq_one (by omega) htwo] at hb ⊢
    change b.toNat = n / 64 ^ 1 + 0xC0 at hb
    rw [if_neg (by omega), if_neg (by omega), if_pos (by omega)]
    refine ⟨_, rfl, ?_, rfl⟩
    constructor <;> dsimp only <;> omega
  by_cases hthree : n < 0x10000
  · rw [owed_eq_two (by omega) hthree] at hb ⊢
    change b.toNat = n / 64 ^ 2 + 0xE0 at hb
    rw [if_neg (by omega), if_neg (by omega), if_neg (by omega), if_pos (by omega)]
    refine ⟨_, rfl, ?_, rfl⟩
    constructor <;> dsimp only
    · omega
    · split <;> omega
    · split <;> omega
  · rw [owed_eq_three (by omega)] at hb ⊢
    change b.toNat = n / 64 ^ 3 + 0xF0 at hb
    rw [if_neg (by omega), if_neg (by omega), if_neg (by omega), if_neg (by omega),
      if_pos (by omega)]
    refine ⟨_, rfl, ?_, rfl⟩
    constructor <;> dsimp only
    · omega
    · split <;> omega
    · split <;> omega

/-- A number that goes on from a leading byte is that of a character, which owes the bytes that
are missing. -/
theorem owed_of_opening {b : UInt8} {u : Unfinished} (hlead : lead b = .opening u) {n : Nat}
    (h : Continues u n) :
    n.isValidChar ∧ u.missing = owed n ∧ b.toNat = n / 64 ^ owed n + marker (owed n) := by
  obtain ⟨hbits, hleast, hgreatest⟩ := h
  unfold lead at hlead
  dsimp only at hlead
  split at hlead
  · cases hlead
  split at hlead
  · cases hlead
  split at hlead
  · have hu := Lead.opening.inj hlead
    subst hu
    dsimp only at hbits ⊢
    have howed : owed n = 1 := owed_eq_one (by omega) (by omega)
    rw [howed]
    refine ⟨Or.inl (by omega), rfl, ?_⟩
    change b.toNat = n / 64 ^ 1 + 0xC0
    omega
  split at hlead
  · have hu := Lead.opening.inj hlead
    subst hu
    dsimp only at hbits hleast hgreatest ⊢
    have hlarge : 0x800 ≤ n := by split at hleast <;> omega
    have howed : owed n = 2 := owed_eq_two hlarge (by omega)
    rw [howed]
    refine ⟨?_, rfl, ?_⟩
    · unfold Nat.isValidChar
      split at hgreatest <;> omega
    · change b.toNat = n / 64 ^ 2 + 0xE0
      omega
  split at hlead
  · have hu := Lead.opening.inj hlead
    subst hu
    dsimp only at hbits hleast hgreatest ⊢
    have hlarge : 0x10000 ≤ n := by split at hleast <;> omega
    have howed : owed n = 3 := owed_eq_three hlarge
    rw [howed]
    refine ⟨Or.inr ⟨by omega, ?_⟩, rfl, ?_⟩
    · split at hgreatest <;> omega
    · change b.toNat = n / 64 ^ 3 + 0xF0
      omega
  · cases hlead

theorem leading_byte_lt {n : Nat} (h : n < 0x110000) :
    n / 64 ^ owed n + marker (owed n) < 256 := by
  unfold owed
  split
  · simp only [marker]
    omega
  split
  · simp only [marker]
    omega
  split
  · simp only [marker]
    omega
  · simp only [marker]
    omega

/-- A character that is not ASCII goes on from its leading byte. -/
theorem exists_lead_of_char {c : Char} (h : ¬c.toNat < 0x80) :
    ∃ b u k, lead b = .opening u ∧ Continues u c.toNat ∧ u.missing = k + 1 ∧
      String.utf8EncodeChar c = b :: continuation c.toNat (k + 1) := by
  have hvalid : c.toNat < 0xD800 ∨ 0xDFFF < c.toNat ∧ c.toNat < 0x110000 := c.valid
  have hbyte : (UInt8.ofNat (c.toNat / 64 ^ owed c.toNat + marker (owed c.toNat))).toNat =
      c.toNat / 64 ^ owed c.toNat + marker (owed c.toNat) := by
    rw [UInt8.toNat_ofNat']
    exact Nat.mod_eq_of_lt (leading_byte_lt (by omega))
  obtain ⟨u, hlead, hcontinues, howed⟩ := exists_opening hvalid h hbyte
  obtain ⟨k, hk⟩ : ∃ k, owed c.toNat = k + 1 := by
    unfold owed
    rw [if_neg h]
    split
    · exact ⟨0, rfl⟩
    split
    · exact ⟨1, rfl⟩
    · exact ⟨2, rfl⟩
  refine ⟨_, u, k, hlead, hcontinues, howed.trans hk, ?_⟩
  rw [← hk]
  exact utf8EncodeChar_eq c

theorem toNat_continuation_byte (n k : Nat) :
    (UInt8.ofNat (n / 64 ^ k % 64 + 0x80)).toNat = n / 64 ^ k % 64 + 0x80 := by
  rw [UInt8.toNat_ofNat']
  omega

/-- The bits of a byte behind the leading one are put behind those that were read. -/
theorem bits_append (n k : Nat) :
    n / 64 ^ (k + 1) * 64 + n / 64 ^ k % 64 = n / 64 ^ k := by
  rw [Nat.pow_succ, ← Nat.div_div_eq_div_mul]
  omega

theorem continues_bits (n k : Nat) :
    Continues ⟨n / 64 ^ k, k, 0x80, 0xBF, Nat.le_refl _⟩ n := by
  constructor <;> dsimp only
  · omega
  · omega

/-- The next byte of a character is within the bounds and adds its bits. -/
theorem feed_continuation {u : Unfinished} {n k : Nat} (h : Continues u n)
    (hk : u.missing = k + 1) (seen : List (Option Char)) :
    feed ⟨seen, some u⟩ (UInt8.ofNat (n / 64 ^ k % 64 + 0x80)) =
      if k = 0 then ⟨some (Char.ofNat n) :: seen, none⟩
      else ⟨seen, some ⟨n / 64 ^ k, k, 0x80, 0xBF, Nat.le_refl _⟩⟩ := by
  obtain ⟨hbits, hleast, hgreatest⟩ := h
  rw [hk, Nat.add_sub_cancel] at hleast hgreatest
  rw [hk] at hbits
  unfold feed
  simp only [toNat_continuation_byte, hleast, hgreatest, and_self, if_true, ← hbits,
    Nat.add_sub_cancel, bits_append, hk, Nat.add_eq_right]
  cases k with
  | zero => simp only [Nat.pow_zero, Nat.div_one]
  | succ k => rfl

/-- The bytes behind the leading one finish the character. -/
theorem foldl_feed_continuation {u : Unfinished} {n k : Nat} (h : Continues u n)
    (hk : u.missing = k + 1) (seen : List (Option Char)) :
    (continuation n (k + 1)).foldl feed ⟨seen, some u⟩ = ⟨some (Char.ofNat n) :: seen, none⟩ := by
  induction k generalizing u with
  | zero =>
    unfold continuation
    rw [List.foldl_cons, feed_continuation h hk, if_pos rfl]
    rfl
  | succ k ih =>
    rw [continuation, List.foldl_cons, feed_continuation h hk, if_neg (Nat.succ_ne_zero k)]
    exact ih (continues_bits n (k + 1)) rfl

/-- The encoding of a character is read as the character. -/
theorem foldl_feed_char (c : Char) (seen : List (Option Char)) :
    (String.utf8EncodeChar c).foldl feed ⟨seen, none⟩ = ⟨some c :: seen, none⟩ := by
  by_cases hascii : c.toNat < 0x80
  · have hbyte : (UInt8.ofNat c.toNat).toNat = c.toNat := by
      rw [UInt8.toNat_ofNat']
      omega
    have hseen : (finish ⟨seen, none⟩).reverse = seen := List.reverse_reverse seen
    rw [utf8EncodeChar_ascii hascii, List.foldl_cons, List.foldl_nil,
      feed_ascii _ _ (by rw [hbyte]; exact hascii), hbyte, Char.ofNat_toNat, hseen]
  · obtain ⟨b, u, k, hlead, hcontinues, hk, hencode⟩ := exists_lead_of_char hascii
    have hbegin : feed ⟨seen, none⟩ b = ⟨seen, some u⟩ := by
      change begin seen b = _
      unfold begin
      rw [hlead]
    rw [hencode, List.foldl_cons, hbegin, foldl_feed_continuation hcontinues hk,
      Char.ofNat_toNat]

theorem foldl_feed_encode (s : Text) (seen : List (Option Char)) :
    (encode s).foldl feed ⟨seen, none⟩ = ⟨(s.map some).reverse ++ seen, none⟩ := by
  induction s generalizing seen with
  | nil => rfl
  | cons c s ih =>
    rw [encode_cons, List.foldl_append, foldl_feed_char, ih, List.map_cons, List.reverse_cons,
      List.append_assoc, List.singleton_append]

/-- A text that was encoded is read again, character by character. -/
theorem scan_encode (s : Text) : scan (encode s) = s.map some := by
  unfold scan start
  rw [foldl_feed_encode, List.append_nil]
  exact List.reverse_reverse _

theorem decode_encode (s : Text) : decode (encode s) = s := by
  unfold decode
  rw [scan_encode, List.map_map]
  exact List.map_id s

/-- Some bytes begin the encoding of every character that an unfinished one can still become. -/
structure Begun (before : Bytes) (u : Unfinished) : Prop where
  missing_pos : 0 < u.missing
  greatest_le : u.greatest ≤ 0xBF
  encode_eq : ∀ n, Continues u n →
    String.utf8EncodeChar (Char.ofNat n) = before ++ continuation n u.missing

theorem greatest_of_lead {b : UInt8} {u : Unfinished} (h : lead b = .opening u) :
    u.greatest ≤ 0xBF := by
  unfold lead at h
  dsimp only at h
  split at h
  · cases h
  split at h
  · cases h
  split at h
  · exact Nat.le_of_eq (congrArg Unfinished.greatest (Lead.opening.inj h).symm)
  split at h
  · rw [← Lead.opening.inj h]
    dsimp only
    split <;> omega
  split at h
  · rw [← Lead.opening.inj h]
    dsimp only
    split <;> omega
  · cases h

theorem begun_of_lead {b : UInt8} {u : Unfinished} (h : lead b = .opening u) : Begun [b] u where
  missing_pos := (sound_of_lead h).missing_pos
  greatest_le := greatest_of_lead h
  encode_eq := by
    intro n hcontinues
    obtain ⟨hvalid, howed, hb⟩ := owed_of_opening h hcontinues
    rw [utf8EncodeChar_eq, toNat_ofNat hvalid, ← hb, UInt8.ofNat_toNat, howed]
    rfl

/-- One more byte within the bounds is the next one of the encoding. -/
theorem Begun.next {before : Bytes} {u : Unfinished} (h : Begun before u) {b : UInt8} {n k : Nat}
    (hk : u.missing = k + 1) (hleast : u.least ≤ b.toNat) (hgreatest : b.toNat ≤ u.greatest)
    (hn : n / 64 ^ k = u.bits * 64 + (b.toNat - 0x80)) :
    String.utf8EncodeChar (Char.ofNat n) = before ++ [b] ++ continuation n k := by
  have hascii := u.not_ascii
  have hmost := h.greatest_le
  have hbits : n / 64 ^ (k + 1) = u.bits := by
    rw [Nat.pow_succ, ← Nat.div_div_eq_div_mul, hn]
    omega
  have hbyte : n / 64 ^ k % 64 + 0x80 = b.toNat := by
    rw [hn]
    omega
  have hcontinues : Continues u n := by
    constructor
    · rw [hk, hbits]
    · rw [hk, Nat.add_sub_cancel, hbyte]
      exact hleast
    · rw [hk, Nat.add_sub_cancel, hbyte]
      exact hgreatest
  rw [h.encode_eq n hcontinues, hk, continuation, hbyte, UInt8.ofNat_toNat, List.append_assoc,
    List.singleton_append]

/-- What the bytes behind the last whole character are. -/
def Pending (before : Bytes) : Option Unfinished → Prop
  | none => before = []
  | some u => Begun before u

/-- If all that a decoder has seen are characters, then the bytes are their encoding and what is
pending. -/
def Faithful (bytes : Bytes) (d : Decoder) : Prop :=
  ∀ s : Text, d.seen.reverse = s.map some →
    ∃ before, bytes = encode s ++ before ∧ Pending before d.unfinished

theorem whole_of_lead {b : UInt8} {c : Char} (h : lead b = .whole c) :
    String.utf8EncodeChar c = [b] := by
  by_cases hb : b.toNat < 0x80
  · unfold lead at h
    dsimp only at h
    rw [if_pos hb] at h
    obtain rfl := Lead.whole.inj h
    have hc : (Char.ofNat b.toNat).toNat = b.toNat := toNat_ofNat (Or.inl (by omega))
    rw [utf8EncodeChar_ascii (by rw [hc]; exact hb), hc, UInt8.ofNat_toNat]
  · rcases lead_of_not_ascii hb with hlead | ⟨u, hlead⟩
    · rw [hlead] at h
      cases h
    · rw [hlead] at h
      cases h

/-- The latest of the characters that were seen is the last of the text. -/
theorem eq_concat_of_seen {piece : Option Char} {seen : List (Option Char)} {s : Text}
    (h : (piece :: seen).reverse = s.map some) :
    ∃ t c, piece = some c ∧ s = t ++ [c] ∧ seen.reverse = t.map some := by
  rw [List.reverse_cons] at h
  obtain ⟨t, last, rfl, ht, hlast⟩ := List.append_eq_map_iff.mp h
  obtain ⟨c, rfl, hc⟩ := List.map_eq_singleton_iff.mp hlast
  exact ⟨t, c, hc.symm, rfl, ht.symm⟩

theorem faithful_begin {bytes : Bytes} {seen : List (Option Char)} (b : UInt8)
    (h : ∀ s : Text, seen.reverse = s.map some → bytes = encode s) :
    Faithful (bytes ++ [b]) (begin seen b) := by
  intro s hseen
  unfold begin at hseen ⊢
  cases hlead : lead b with
  | whole c =>
    rw [hlead] at hseen
    obtain ⟨t, c', hpiece, rfl, ht⟩ := eq_concat_of_seen hseen
    obtain rfl := Option.some.inj hpiece
    refine ⟨[], ?_, rfl⟩
    rw [h t ht, encode_append, encode_cons, whole_of_lead hlead, List.append_nil]
    rfl
  | opening u =>
    rw [hlead] at hseen
    exact ⟨[b], by rw [h s hseen], begun_of_lead hlead⟩
  | illFormed =>
    rw [hlead] at hseen
    obtain ⟨_, _, hpiece, -⟩ := eq_concat_of_seen hseen
    cases hpiece

/-- One byte keeps the decoder faithful to what it was fed. -/
theorem faithful_feed {bytes : Bytes} {d : Decoder} (h : Faithful bytes d) (b : UInt8) :
    Faithful (bytes ++ [b]) (d.feed b) := by
  obtain ⟨seen, unfinished⟩ := d
  cases unfinished with
  | none =>
    apply faithful_begin
    intro s hseen
    obtain ⟨before, hbytes, hpending⟩ := h s hseen
    rw [hbytes, hpending, List.append_nil]
  | some u =>
    unfold feed
    dsimp only
    by_cases hbounds : u.least ≤ b.toNat ∧ b.toNat ≤ u.greatest
    · rw [if_pos hbounds]
      obtain ⟨hleast, hgreatest⟩ := hbounds
      by_cases hlast : u.missing = 1
      · rw [if_pos hlast]
        intro s hseen
        obtain ⟨t, c, hpiece, rfl, ht⟩ := eq_concat_of_seen hseen
        obtain rfl := Option.some.inj hpiece
        obtain ⟨before, hbytes, hpending⟩ := h t ht
        have hchar := hpending.next hlast hleast hgreatest (n := _) (Nat.div_one _)
        refine ⟨[], ?_, rfl⟩
        rw [hbytes, encode_append, encode_cons, hchar]
        simp [encode, continuation]
      · rw [if_neg hlast]
        intro s hseen
        obtain ⟨before, hbytes, hpending⟩ := h s hseen
        have hmissing := hpending.missing_pos
        refine ⟨before ++ [b], by rw [hbytes, List.append_assoc], ?_, Nat.le_refl _, ?_⟩
        · dsimp only
          omega
        · intro n hcontinues
          have hk : u.missing = u.missing - 1 + 1 := by omega
          exact hpending.next hk hleast hgreatest hcontinues.bits_eq
    · rw [if_neg hbounds]
      apply faithful_begin
      intro s hseen
      obtain ⟨_, _, hpiece, -⟩ := eq_concat_of_seen hseen
      cases hpiece

theorem faithful_foldl_feed {before : Bytes} {d : Decoder} (h : Faithful before d)
    (bytes : Bytes) : Faithful (before ++ bytes) (bytes.foldl feed d) := by
  induction bytes generalizing before d with
  | nil => rwa [List.append_nil]
  | cons b bytes ih =>
    rw [List.foldl_cons, ← List.singleton_append, ← List.append_assoc]
    exact ih (faithful_feed h b)

/-- Bytes that read as characters only are the encoding of these. -/
theorem eq_encode_of_scan {bytes : Bytes} {s : Text} (h : scan bytes = s.map some) :
    bytes = encode s := by
  have hstart : Faithful [] start := by
    intro t ht
    obtain rfl := List.map_eq_nil_iff.mp ht.symm
    exact ⟨[], rfl, rfl⟩
  have hread := faithful_foldl_feed hstart bytes
  rw [List.nil_append] at hread
  unfold scan at h
  generalize bytes.foldl feed start = d at h hread
  obtain ⟨seen, unfinished⟩ := d
  cases unfinished with
  | none =>
    obtain ⟨before, hbytes, hpending⟩ := hread s h
    rw [hbytes, hpending, List.append_nil]
  | some u =>
    obtain ⟨_, _, hpiece, -⟩ := eq_concat_of_seen h
    cases hpiece

theorem isWellFormed_iff (bytes : Bytes) :
    isWellFormed bytes = true ↔ ∃ s, bytes = encode s := by
  unfold isWellFormed
  rw [List.all_eq_true]
  constructor
  · intro h
    have hchars : (scan bytes).map (fun piece => some (piece.getD replacement)) =
        (scan bytes).map id := by
      apply List.map_congr_left
      intro piece hpiece
      obtain ⟨c, rfl⟩ := Option.isSome_iff_exists.mp (h piece hpiece)
      rfl
    rw [List.map_id] at hchars
    refine ⟨decode bytes, eq_encode_of_scan ?_⟩
    unfold decode
    rw [List.map_map]
    exact hchars.symm
  · rintro ⟨s, rfl⟩ piece hpiece
    rw [scan_encode] at hpiece
    obtain ⟨c, -, rfl⟩ := List.mem_map.mp hpiece
    rfl

end RuleTable.Encoding
