import RuleTable.Proofs.Splitting
import RuleTable.Text.Basic

/-!
Doubled marks described by the texts around them, without the scanners. A mark occurs in a text if
the two characters stand in it side by side; the first one is at the end of the longest beginning
that still has none after one more character. So the part before the first mark is determined, and
so are the pieces between all marks.
-/
namespace RuleTable.Doubled

open Text

variable {d : Char} {s before rest : Text}

theorem pair_infix_cons_cons (d a b : Char) (s : Text) :
    [d, d] <:+: a :: b :: s ↔ (a = d ∧ b = d) ∨ [d, d] <:+: b :: s := by
  rw [List.infix_cons_iff, List.cons_prefix_cons, List.cons_prefix_cons]
  simp [eq_comm]

theorem not_pair_infix_short (d : Char) (s : Text) (h : ∀ a b rest, s ≠ a :: b :: rest) :
    ¬[d, d] <:+: s := by
  intro hinfix
  have hlength := hinfix.length_le
  match s with
  | [] => simp at hlength
  | [a] => simp at hlength
  | a :: b :: rest => exact h a b rest rfl

theorem hasDoubled_iff (d : Char) (s : Text) : hasDoubled d s = true ↔ [d, d] <:+: s := by
  fun_induction hasDoubled d s with
  | case1 a b s ih =>
    rw [pair_infix_cons_cons, Bool.or_eq_true, ih]
    simp
  | case2 s hshort =>
    have hno := not_pair_infix_short d s hshort
    simp [hno]

/-- The cut is before a mark, and one character more is needed to complete the first one. -/
theorem cutDoubled_some (h : cutDoubled d s = (before, some rest)) :
    s = before ++ rest ∧ [d, d] <+: rest ∧ ¬[d, d] <:+: before ++ [d] := by
  fun_induction cutDoubled d s generalizing before rest with
  | case1 a b s hab =>
    obtain ⟨rfl, rfl⟩ := hab
    obtain ⟨rfl, hrest⟩ := Prod.mk.inj h
    obtain rfl := Option.some.inj hrest
    refine ⟨rfl, by simp, ?_⟩
    exact not_pair_infix_short _ _ (by simp)
  | case2 a b s hab before' rest' hcut ih =>
    obtain ⟨rfl, rfl⟩ := Prod.mk.inj h
    obtain ⟨hs, hmark, hfirst⟩ := ih hcut
    refine ⟨by rw [hs, List.cons_append], hmark, ?_⟩
    obtain ⟨tail, rfl⟩ := hmark
    cases before' with
    | nil =>
      have hb : b = d := by simpa using congrArg List.head? hs
      rw [List.cons_append, List.nil_append, pair_infix_cons_cons]
      intro h
      rcases h with hboth | hshort
      · exact hab ⟨hboth.1, hb⟩
      · exact hfirst hshort
    | cons c before' =>
      have hb : b = c := by simpa using congrArg List.head? hs
      subst hb
      rw [List.cons_append, List.cons_append, pair_infix_cons_cons]
      intro h
      rcases h with hboth | hlater
      · exact hab hboth
      · exact hfirst hlater
  | case3 s hshort => simp at h

theorem cutDoubled_none (h : cutDoubled d s = (before, none)) :
    before = s ∧ ¬[d, d] <:+: s := by
  have hjoin := cutDoubled_append d s
  have hhas := hasDoubled_eq_isSome d s
  rw [h] at hjoin hhas
  refine ⟨by simpa using hjoin, ?_⟩
  rw [← hasDoubled_iff, hhas]
  simp

/-- Of two cuts of one text at a mark, the one with less before it makes the other too late. -/
private theorem pair_infix_of_longer {shorter longer rest' : Text}
    (hs : shorter ++ rest = shorter ++ longer ++ rest') (hlonger : longer ≠ [])
    (hmark : [d, d] <+: rest) (hmark' : [d, d] <+: rest') :
    [d, d] <:+: shorter ++ longer ++ [d] := by
  rw [List.append_assoc, List.append_cancel_left_eq] at hs
  obtain ⟨tail, rfl⟩ := hmark
  obtain ⟨tail', rfl⟩ := hmark'
  obtain ⟨first, others, rfl⟩ := List.exists_cons_of_ne_nil hlonger
  have hfirst : first = d := by simpa using (congrArg List.head? hs).symm
  subst hfirst
  cases others with
  | nil => exact ⟨shorter, [], by simp⟩
  | cons second others =>
    simp only [List.cons_append, List.cons.injEq] at hs
    have hsecond : first = second := hs.2.1
    exact ⟨shorter, others ++ [first], by simp [← hsecond]⟩

/-- Before a mark there is one text only that has no mark even with its first character. -/
theorem before_unique {before' rest' : Text} (hs : before ++ rest = before' ++ rest')
    (hmark : [d, d] <+: rest) (hmark' : [d, d] <+: rest')
    (hfirst : ¬[d, d] <:+: before ++ [d]) (hfirst' : ¬[d, d] <:+: before' ++ [d]) :
    before = before' := by
  rcases List.append_eq_append_iff.mp hs with ⟨more, rfl, hrest⟩ | ⟨more, rfl, hrest⟩
  · by_cases hmore : more = []
    · simp [hmore]
    · exact absurd (pair_infix_of_longer hs hmore hmark hmark') hfirst'
  · by_cases hmore : more = []
    · simp [hmore]
    · exact absurd (pair_infix_of_longer hs.symm hmore hmark' hmark) hfirst

theorem cutDoubled_eq_none_iff :
    cutDoubled d s = (before, none) ↔ before = s ∧ ¬[d, d] <:+: s := by
  refine ⟨cutDoubled_none, ?_⟩
  intro h
  obtain ⟨rfl, hno⟩ := h
  cases hcut : cutDoubled d before with
  | mk before' rest =>
    cases rest with
    | none => rw [(cutDoubled_none hcut).1]
    | some rest =>
      obtain ⟨hs, ⟨tail, hmark⟩, -⟩ := cutDoubled_some hcut
      exact absurd ⟨before', tail, by rw [List.append_assoc, hmark, hs]⟩ hno

theorem cutDoubled_eq_some_iff :
    cutDoubled d s = (before, some rest) ↔
      s = before ++ rest ∧ [d, d] <+: rest ∧ ¬[d, d] <:+: before ++ [d] := by
  refine ⟨cutDoubled_some, ?_⟩
  intro h
  obtain ⟨hs, hmark, hfirst⟩ := h
  cases hcut : cutDoubled d s with
  | mk before' rest' =>
    cases rest' with
    | none =>
      obtain ⟨tail, hrest⟩ := hmark
      refine absurd ⟨before, tail, ?_⟩ (cutDoubled_none hcut).2
      rw [List.append_assoc, hrest, hs]
    | some rest' =>
      obtain ⟨hs', hmark', hfirst'⟩ := cutDoubled_some hcut
      have hbefore := before_unique (hs.symm.trans hs') hmark hmark' hfirst hfirst'
      subst hbefore
      rw [List.append_cancel_left (hs.symm.trans hs')]

/-- The first mark of a text is no later than any mark in it. -/
theorem cutDoubled_isPrefix (d : Char) (s t : Text) :
    (cutDoubled d (s ++ d :: d :: t)).1 <+: s := by
  have hmark : [d, d] <+: d :: d :: t := ⟨t, rfl⟩
  cases hcut : cutDoubled d (s ++ d :: d :: t) with
  | mk before rest =>
    cases rest with
    | none =>
      have hno := (cutDoubled_none hcut).2
      exact absurd ⟨s, t, by simp⟩ hno
    | some rest =>
      obtain ⟨hs, hmark', hfirst⟩ := cutDoubled_some hcut
      rcases List.append_eq_append_iff.mp hs with ⟨more, rfl, hrest⟩ | ⟨more, rfl, hrest⟩
      · by_cases hmore : more = []
        · simp [hmore]
        · exact absurd (pair_infix_of_longer hs hmore hmark hmark') hfirst
      · exact List.prefix_append before more

theorem no_pair_of_not_mem {a b : Char} (h : a ∉ s) : ¬[a, b] <:+: s := by
  intro hpair
  exact h (hpair.subset (by simp))

/-- Two characters stand side by side in one of two texts or at their seam. -/
theorem pair_infix_append_iff {a b : Char} {s t : Text} :
    [a, b] <:+: s ++ t ↔
      [a, b] <:+: s ∨ [a, b] <:+: t ∨ (s.getLast? = some a ∧ t.head? = some b) := by
  rw [List.infix_append_iff]
  constructor
  · rintro (h | h | ⟨left, right, hpair, hleft, hright⟩)
    · exact Or.inl h
    · exact Or.inr (Or.inl h)
    · match left, hpair with
      | [], hpair =>
        obtain rfl : [a, b] = right := hpair
        exact Or.inr (Or.inl hright.isInfix)
      | [_], hpair =>
        obtain ⟨rfl, rfl⟩ := List.cons.inj hpair
        obtain ⟨start, rfl⟩ := hleft
        obtain ⟨finish, rfl⟩ := hright
        exact Or.inr (Or.inr ⟨by simp, rfl⟩)
      | [_, _], hpair =>
        simp only [List.cons_append, List.nil_append, List.cons.injEq] at hpair
        obtain ⟨rfl, rfl, -⟩ := hpair
        exact Or.inl hleft.isInfix
  · rintro (h | h | ⟨hlast, hhead⟩)
    · exact Or.inl h
    · exact Or.inr (Or.inl h)
    · obtain ⟨start, rfl⟩ := List.getLast?_eq_some_iff.mp hlast
      obtain ⟨finish, rfl⟩ := List.head?_eq_some_iff.mp hhead
      exact Or.inr (Or.inr ⟨[a], [b], rfl, ⟨start, rfl⟩, ⟨finish, rfl⟩⟩)

/-- There is one way only to cut a text at the last place where two characters meet. -/
theorem last_pair_unique {a b : Char} {before before' after after' : Text}
    (h : ¬[a, b] <:+: b :: after) (h' : ¬[a, b] <:+: b :: after')
    (heq : before ++ a :: b :: after = before' ++ a :: b :: after') :
    before = before' ∧ after = after' := by
  have hsame : ∀ {more after after' : Text}, ¬[a, b] <:+: b :: after →
      a :: b :: after = more ++ a :: b :: after' → more = [] := by
    intro more after after' h heq
    cases more with
    | nil => rfl
    | cons c more =>
      obtain ⟨-, hbehind⟩ := List.cons.inj heq
      exact absurd ⟨more, after', by rw [hbehind]; simp⟩ h
  rcases List.append_eq_append_iff.mp heq with ⟨more, rfl, hbehind⟩ | ⟨more, rfl, hbehind⟩
  · obtain rfl := hsame h hbehind
    simpa using hbehind
  · obtain rfl := hsame h' hbehind
    simpa using hbehind.symm

/-- A text has a mark once more `d` is written behind it, if it has one or ends in half of one. -/
theorem pair_infix_concat_iff :
    [d, d] <:+: s ++ [d] ↔ [d, d] <:+: s ∨ s.getLast? = some d := by
  have hshort : ¬[d, d] <:+: [d] := not_pair_infix_short d [d] (by simp)
  rw [pair_infix_append_iff]
  simp [hshort]

/-- A text with no mark, not even with the first character behind it, comes before the first mark
of every text that it begins. -/
theorem cutDoubled_append_left (h : ¬[d, d] <:+: before ++ [d]) (s : Text) :
    cutDoubled d (before ++ s) = (before ++ (cutDoubled d s).1, (cutDoubled d s).2) := by
  rw [pair_infix_concat_iff, not_or] at h
  have hseam : ∀ t : Text, ¬[d, d] <:+: t → ¬[d, d] <:+: before ++ t := by
    intro t ht
    rw [pair_infix_append_iff]
    simp [h.1, h.2, ht]
  cases hcut : cutDoubled d s with
  | mk front rest =>
    cases rest with
    | none =>
      obtain ⟨rfl, hno⟩ := cutDoubled_none hcut
      exact cutDoubled_eq_none_iff.mpr ⟨rfl, hseam _ hno⟩
    | some rest =>
      obtain ⟨rfl, hmark, hfirst⟩ := cutDoubled_some hcut
      refine cutDoubled_eq_some_iff.mpr ⟨(List.append_assoc ..).symm, hmark, ?_⟩
      rw [List.append_assoc]
      exact hseam _ hfirst

theorem splitDoubled_of_no_mark (h : ¬[d, d] <:+: s) : splitDoubled d s = [s] := by
  fun_induction splitDoubled d s with
  | case1 a b s hab =>
    rw [pair_infix_cons_cons] at h
    exact absurd (Or.inl hab) h
  | case2 a b s hab ih =>
    rw [pair_infix_cons_cons, not_or] at h
    rw [ih h.2, List.modifyHead_cons]
  | case3 => rfl

/-- The first piece ends at the first mark. -/
theorem splitDoubled_append_mark (h : ¬[d, d] <:+: before ++ [d]) (rest : Text) :
    splitDoubled d (before ++ [d, d] ++ rest) = before :: splitDoubled d rest := by
  induction before with
  | nil => exact if_pos ⟨rfl, rfl⟩
  | cons a before ih =>
    cases before with
    | nil =>
      have ha : ¬(a = d ∧ d = d) := by
        rintro ⟨rfl, -⟩
        exact h List.infix_rfl
      have hnil := ih (not_pair_infix_short d [d] (by simp))
      change splitDoubled d (a :: d :: d :: rest) = _
      rw [splitDoubled, if_neg ha]
      exact congrArg (List.modifyHead (a :: ·)) hnil
    | cons b before =>
      rw [List.cons_append, List.cons_append, pair_infix_cons_cons, not_or] at h
      have hbefore := ih h.2
      change splitDoubled d (a :: b :: (before ++ [d, d] ++ rest)) = _
      rw [splitDoubled, if_neg h.1]
      exact congrArg (List.modifyHead (a :: ·)) hbefore

/-- The first piece starts as the text does, unless the text starts with a mark. -/
theorem exists_piece_of_head {d c : Char} {s : Text} (hc : c ≠ d) (hs : s.head? = some c) :
    ∃ piece pieces, splitDoubled d s = (c :: piece) :: pieces := by
  obtain ⟨rest, rfl⟩ : ∃ rest, s = c :: rest := List.head?_eq_some_iff.mp hs
  cases rest with
  | nil => exact ⟨[], [], rfl⟩
  | cons b rest =>
    obtain ⟨piece, pieces, hsplit⟩ :=
      List.exists_cons_of_ne_nil (splitDoubled_ne_nil d (b :: rest))
    refine ⟨piece, pieces, ?_⟩
    rw [splitDoubled, if_neg (fun h => hc h.1), hsplit, List.modifyHead_cons]

/-- Pieces that come apart again when marks are written between them: no piece holds a mark, and
none but the last ends in half of one. -/
structure Separable (d : Char) (pieces : List Text) : Prop where
  no_mark : ∀ piece ∈ pieces, ¬[d, d] <:+: piece
  no_half : ∀ piece ∈ pieces.dropLast, piece.getLast? ≠ some d

theorem separable_of_not_mem {pieces : List Text} (h : ∀ piece ∈ pieces, d ∉ piece) :
    Separable d pieces where
  no_mark := by
    intro piece hpiece
    exact no_pair_of_not_mem (h piece hpiece)
  no_half := by
    intro piece hpiece hlast
    exact h piece (List.dropLast_subset _ hpiece) (List.mem_of_getLast? hlast)

theorem splitDoubled_intercalate {pieces : List Text} (hne : pieces ≠ [])
    (h : Separable d pieces) : splitDoubled d (List.intercalate [d, d] pieces) = pieces := by
  induction pieces with
  | nil => exact absurd rfl hne
  | cons first others ih =>
    cases others with
    | nil =>
      rw [List.intercalate_singleton]
      exact splitDoubled_of_no_mark (h.no_mark first (List.mem_singleton_self first))
    | cons second others =>
      have hfirst : ¬[d, d] <:+: first ++ [d] := by
        rw [pair_infix_concat_iff, not_or]
        exact ⟨h.no_mark first (by simp), h.no_half first (by simp)⟩
      have hothers : Separable d (second :: others) :=
        ⟨fun piece hpiece => h.no_mark piece (List.mem_cons_of_mem _ hpiece),
          fun piece hpiece => h.no_half piece (by simpa using Or.inr hpiece)⟩
      rw [List.intercalate_cons_cons, splitDoubled_append_mark hfirst, ih (by simp) hothers]

theorem separable_splitDoubled (d : Char) (s : Text) : Separable d (splitDoubled d s) := by
  -- What follows the first mark is shorter, so the induction is on the length; the recursion of
  -- `splitDoubled` takes single characters and does not show where a piece ends.
  induction hlength : s.length using Nat.strongRecOn generalizing s with
  | _ n ih =>
    subst hlength
    cases hcut : cutDoubled d s with
    | mk before rest =>
      cases rest with
      | none =>
        obtain ⟨rfl, hno⟩ := cutDoubled_none hcut
        rw [splitDoubled_of_no_mark hno]
        exact ⟨by simpa using hno, by simp⟩
      | some rest =>
        obtain ⟨rfl, ⟨rest, rfl⟩, hfirst⟩ := cutDoubled_some hcut
        obtain ⟨hwhole, hlast⟩ := not_or.mp (mt pair_infix_concat_iff.mpr hfirst)
        have htail := ih rest.length (by simp; omega) rest rfl
        rw [← List.append_assoc, splitDoubled_append_mark hfirst]
        refine ⟨List.forall_mem_cons.mpr ⟨hwhole, htail.no_mark⟩, ?_⟩
        rw [List.dropLast_cons_of_ne_nil (splitDoubled_ne_nil d rest)]
        exact List.forall_mem_cons.mpr ⟨hlast, htail.no_half⟩

/-- Leaving pieces out lets no other piece end where only the last one may. -/
theorem mem_dropLast_of_mem_dropLast_filter {p : Text → Bool} {pieces : List Text} {piece : Text}
    (h : piece ∈ (pieces.filter p).dropLast) : piece ∈ pieces.dropLast := by
  rcases List.eq_nil_or_concat pieces with rfl | ⟨others, last, rfl⟩
  · simp at h
  · rw [List.concat_eq_append] at h ⊢
    rw [List.dropLast_concat]
    rw [List.filter_append] at h
    by_cases hlast : p last = true
    · rw [List.filter_cons_of_pos hlast, List.filter_nil, List.dropLast_concat] at h
      exact (List.mem_filter.mp h).1
    · rw [List.filter_cons_of_neg hlast, List.filter_nil, List.append_nil] at h
      exact (List.mem_filter.mp (List.dropLast_subset _ h)).1

theorem Separable.filter {pieces : List Text} (h : Separable d pieces) (p : Text → Bool) :
    Separable d (pieces.filter p) where
  no_mark := by
    intro piece hpiece
    exact h.no_mark piece (List.mem_filter.mp hpiece).1
  no_half := by
    intro piece hpiece
    exact h.no_half piece (mem_dropLast_of_mem_dropLast_filter hpiece)

/-- Empty pieces with marks between them are marks only, one less than there are pieces. -/
theorem intercalate_replicate_nil (d : Char) (k : Nat) :
    List.intercalate [d, d] (List.replicate (k + 1) []) =
      (List.replicate k [d, d]).flatten := by
  induction k with
  | zero => rfl
  | succ k ih =>
    rw [List.replicate_succ, List.intercalate_cons_of_ne_nil (by simp), ih, List.nil_append,
      ← List.flatten_cons, ← List.replicate_succ]

/-- All pieces are empty exactly of a text of nothing but marks. -/
theorem splitDoubled_all_nil_iff :
    (∀ piece ∈ splitDoubled d s, piece = []) ↔ ∃ k, s = (List.replicate k [d, d]).flatten := by
  constructor
  · intro h
    obtain ⟨k, hk⟩ := Nat.exists_eq_add_one.mpr
      (List.length_pos_iff.mpr (splitDoubled_ne_nil d s))
    have hpieces := List.eq_replicate_of_mem h
    rw [hk] at hpieces
    refine ⟨k, ?_⟩
    rw [← intercalate_replicate_nil, ← hpieces, intercalate_splitDoubled]
  · rintro ⟨k, rfl⟩ piece hpiece
    have hempty : Separable d (List.replicate (k + 1) []) := by
      apply separable_of_not_mem
      intro piece hpiece
      simp [List.eq_of_mem_replicate hpiece]
    rw [← intercalate_replicate_nil, splitDoubled_intercalate (by simp) hempty] at hpiece
    exact List.eq_of_mem_replicate hpiece
end RuleTable.Doubled
