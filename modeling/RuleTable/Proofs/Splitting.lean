import RuleTable.Text.Basic

/-!
Splitting a text at one character. The pieces hold no separator, say nothing that the text does
not say, and are one more than the separators. Joining them gives the text back, so a text that
splits in two is the two pieces around its only separator.
-/
namespace RuleTable.Splitting

variable {a : Char} {s piece : Text}

theorem length_splitOn (a : Char) (s : Text) : (s.splitOn a).length = s.count a + 1 := by
  induction s with
  | nil => simp
  | cons c rest ih =>
    rw [List.splitOn_cons_eq_if_modifyHead, List.count_cons]
    by_cases hc : (c == a) = true
    · simp [hc, ih]
    · simp [hc, ih]

/-- No piece holds the separator. -/
theorem not_mem_of_mem_splitOn (h : piece ∈ s.splitOn a) : a ∉ piece := by
  induction s generalizing piece with
  | nil =>
    have hpiece : piece = [] := by simpa using h
    simp [hpiece]
  | cons c rest ih =>
    obtain ⟨first, others, hsplit⟩ :=
      List.exists_cons_of_ne_nil (List.splitOn_ne_nil a rest)
    have hfirst : a ∉ first := ih (by rw [hsplit]; exact List.mem_cons_self ..)
    rw [List.splitOn_cons_eq_if_modifyHead, hsplit] at h
    by_cases hc : (c == a) = true
    · rw [if_pos hc] at h
      rcases List.mem_cons.mp h with rfl | hrest
      · simp
      · exact ih (by rw [hsplit]; exact hrest)
    · rw [if_neg hc, List.modifyHead_cons] at h
      rcases List.mem_cons.mp h with rfl | hrest
      · have hne : a ≠ c := by
          intro hac
          exact hc (by simp [hac])
        simp [hne, hfirst]
      · exact ih (by rw [hsplit]; exact List.mem_cons_of_mem _ hrest)

/-- A piece stands in the pieces joined, whatever joins them. -/
theorem infix_intercalate_of_mem {sep : Text} {pieces : List Text} (h : piece ∈ pieces) :
    piece <:+: List.intercalate sep pieces := by
  induction pieces with
  | nil => simp at h
  | cons first others ih =>
    cases others with
    | nil =>
      have hpiece := List.mem_singleton.mp h
      subst hpiece
      simp
    | cons second rest =>
      rw [List.intercalate_cons_cons, List.append_assoc]
      rcases List.mem_cons.mp h with rfl | hrest
      · exact List.infix_append_of_infix_left List.infix_rfl
      · exact List.infix_append_of_infix_right (List.infix_append_of_infix_right (ih hrest))

theorem mem_intercalate_of_mem {sep : Text} {pieces : List Text} {c : Char}
    (h : piece ∈ pieces) (hc : c ∈ piece) : c ∈ List.intercalate sep pieces :=
  (infix_intercalate_of_mem h).subset hc

/-- Joining adds the characters of the separator and no others. -/
theorem mem_sep_or_piece_of_mem_intercalate {sep : Text} {pieces : List Text} {c : Char}
    (h : c ∈ List.intercalate sep pieces) : c ∈ sep ∨ ∃ piece ∈ pieces, c ∈ piece := by
  induction pieces with
  | nil => simp [List.intercalate] at h
  | cons first others ih =>
    cases others with
    | nil =>
      have hfirst : c ∈ first := by simpa [List.intercalate] using h
      exact Or.inr ⟨first, List.mem_cons_self .., hfirst⟩
    | cons second rest =>
      rw [List.intercalate_cons_cons, List.mem_append, List.mem_append] at h
      rcases h with (hfirst | hsep) | hrest
      · exact Or.inr ⟨first, List.mem_cons_self .., hfirst⟩
      · exact Or.inl hsep
      · rcases ih hrest with hsep | ⟨piece, hpiece, hc⟩
        · exact Or.inl hsep
        · exact Or.inr ⟨piece, List.mem_cons_of_mem _ hpiece, hc⟩

theorem exists_splitOn_eq_concat (a : Char) (s : Text) :
    ∃ before last, s.splitOn a = before ++ [last] :=
  ⟨_, _, (List.dropLast_concat_getLast (List.splitOn_ne_nil a s)).symm⟩

/-- The text ends as its last piece does. -/
theorem isSuffix_of_splitOn {before : List Text} (h : s.splitOn a = before ++ [piece]) :
    piece <:+ s := by
  have hjoin : List.intercalate [a] (s.splitOn a) = s := List.intercalate_splitOn a
  rw [h] at hjoin
  rw [← hjoin]
  clear h hjoin
  induction before with
  | nil => simp
  | cons first others ih =>
    rw [List.cons_append, List.intercalate_cons_of_ne_nil (by simp)]
    exact ih.trans (List.suffix_append _ _)

/-- There is one way only to cut a text at the first separator. -/
theorem cut_unique {before before' after after' : Text} (h : a ∉ before) (h' : a ∉ before')
    (heq : before ++ a :: after = before' ++ a :: after') :
    before = before' ∧ after = after' := by
  have hpieces := congrArg (List.splitOn a) heq
  rw [List.splitOn_append_cons_self_of_not_mem h,
    List.splitOn_append_cons_self_of_not_mem h'] at hpieces
  obtain rfl := (List.cons.inj hpieces).1
  have hbehind := List.append_cancel_left heq
  exact ⟨rfl, (List.cons.inj hbehind).2⟩

/-- A text splits in two exactly at its only separator. -/
theorem splitOn_eq_pair_iff {left right : Text} :
    s.splitOn a = [left, right] ↔ s = left ++ a :: right ∧ a ∉ left ∧ a ∉ right := by
  constructor
  · intro h
    have hjoin : List.intercalate [a] (s.splitOn a) = s := List.intercalate_splitOn a
    rw [h] at hjoin
    have hleft : left ∈ s.splitOn a := by simp [h]
    have hright : right ∈ s.splitOn a := by simp [h]
    refine ⟨?_, not_mem_of_mem_splitOn hleft, not_mem_of_mem_splitOn hright⟩
    simpa [List.intercalate] using hjoin.symm
  · intro h
    obtain ⟨rfl, hleft, hright⟩ := h
    rw [List.splitOn_append_cons_self_of_not_mem hleft, List.splitOn_eq_singleton hright]

/-- A list that leaves no piece open: it is empty or ended by the separator. -/
def Closed {α : Type} (sep : α) (list : List α) : Prop := list = [] ∨ list.getLast? = some sep

theorem Closed.eq_append {α : Type} {sep : α} {list : List α} (h : Closed sep list) :
    list = [] ∨ ∃ before, list = before ++ [sep] := by
  rcases h with rfl | hlast
  · exact Or.inl rfl
  · exact Or.inr (List.getLast?_eq_some_iff.mp hlast)

end RuleTable.Splitting
