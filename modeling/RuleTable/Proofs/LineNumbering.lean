import RuleTable.Grammar
import RuleTable.Proofs.Splitting

/-!
The lines of a text and their numbers. A newline closes a line for good: what follows it is read
as a text of its own, with its numbers raised by the newlines before it. No line holds a newline.
-/
namespace RuleTable.LineNumbering

open Text Splitting

theorem lines_nil : lines [] = [] := rfl

theorem mem_of_mem_dropReturn {s : Text} {c : Char} (h : c ∈ dropReturn s) : c ∈ s := by
  unfold dropReturn at h
  split at h
  · exact List.dropLast_subset _ h
  · exact h

theorem dropReturn_of_last {s : Text} (h : s.getLast? ≠ some '\r') : dropReturn s = s := if_neg h

theorem dropReturn_append {t : Text} (h : t ≠ []) (s : Text) :
    dropReturn (s ++ t) = s ++ dropReturn t := by
  obtain ⟨before, last, rfl⟩ : ∃ before last, t = before ++ [last] :=
    ⟨_, _, (List.dropLast_concat_getLast h).symm⟩
  unfold dropReturn
  rw [← List.append_assoc, List.getLast?_concat, List.getLast?_concat]
  split
  · rw [List.dropLast_concat, List.dropLast_concat]
  · rw [List.append_assoc]

/-- Only the text behind any other character may lose a return. -/
theorem dropReturn_append_cons {c : Char} (hc : c ≠ '\r') (s t : Text) :
    dropReturn (s ++ c :: t) = s ++ c :: dropReturn t := by
  rw [dropReturn_append (List.cons_ne_nil c t)]
  cases t with
  | nil => exact congrArg (s ++ ·) (dropReturn_of_last (by simpa using hc))
  | cons d t => exact congrArg (s ++ ·) (dropReturn_append (List.cons_ne_nil d t) [c])

theorem dropReturn_append_mark {d : Char} (hd : d ≠ '\r') (s t : Text) :
    dropReturn (s ++ d :: d :: t) = s ++ d :: d :: dropReturn t := by
  have hsecond := dropReturn_append_cons hd (s ++ [d]) t
  rwa [List.append_assoc, List.append_assoc] at hsecond

theorem lines_of_splitOn {s last : Text} {before : List Text}
    (h : s.splitOn '\n' = before ++ [last]) :
    lines s = before.map dropReturn ++ [last].filter (! ·.isEmpty) := by
  unfold lines
  dsimp only
  rw [h, List.dropLast_concat, List.getLast?_concat]
  rfl

theorem newline_not_mem_line {s raw : Text} (h : raw ∈ lines s) : '\n' ∉ raw := by
  unfold lines at h
  rcases List.mem_append.mp h with hended | hlast
  · obtain ⟨segment, hsegment, rfl⟩ := List.mem_map.mp hended
    intro hc
    exact not_mem_of_mem_splitOn (List.dropLast_subset _ hsegment) (mem_of_mem_dropReturn hc)
  · have hsegment : raw ∈ s.splitOn '\n' := by
      have hmem := (List.mem_filter.mp hlast).1
      exact List.mem_of_getLast? (Option.mem_toList.mp hmem)
    exact not_mem_of_mem_splitOn hsegment

/-- What stands before a newline makes lines of its own, each ended by a newline. -/
theorem lines_append_newline (s t : Text) :
    lines (s ++ '\n' :: t) = (s.splitOn '\n').map dropReturn ++ lines t := by
  obtain ⟨last, hlast⟩ : ∃ last, (t.splitOn '\n').getLast? = some last :=
    ⟨_, List.getLast?_eq_some_getLast (List.splitOn_ne_nil '\n' t)⟩
  unfold lines
  dsimp only
  rw [List.splitOn_append_cons_self, List.dropLast_append_of_ne_nil (List.splitOn_ne_nil '\n' t),
    List.getLast?_append, hlast]
  simp only [Option.some_or, List.map_append, List.append_assoc]

theorem lines_append {s : Text} (h : Closed '\n' s) (t : Text) :
    lines (s ++ t) = lines s ++ lines t := by
  rcases h.eq_append with rfl | ⟨u, rfl⟩
  · rw [lines_nil, List.nil_append, List.nil_append]
  · have hs := lines_append_newline u []
    rw [lines_nil, List.append_nil] at hs
    rw [hs, List.append_assoc, List.singleton_append, lines_append_newline]

theorem length_lines {s : Text} (h : Closed '\n' s) : (lines s).length = s.count '\n' := by
  rcases h.eq_append with rfl | ⟨u, rfl⟩
  · rfl
  · rw [lines_append_newline, lines_nil, List.append_nil, List.length_map, length_splitOn,
      List.count_append, List.count_singleton_self]

/-- The same line further down. -/
def later (k : Nat) (l : Line) : Line := { l with number := l.number + k }

theorem later_parse (k number : Nat) (raw : Text) :
    later k (Line.parse number raw) = Line.parse (number + k) raw := rfl

/-- A line of the text with its number, unless it is blank. -/
def keep (numbered : Text × Nat) : Option Line :=
  if isBlank numbered.1 then none else some (Line.parse numbered.2 numbered.1)

theorem parse_eq (s : Text) : Grammar.parse s = ((lines s).zipIdx 1).filterMap keep := by
  unfold Grammar.parse Grammar.numberedLines
  rw [List.map_filterMap]
  congr 1
  funext numbered
  unfold keep
  by_cases hblank : isBlank numbered.1 = true
  · simp [hblank]
  · simp [hblank]

/-- Every line that is read is one of the lines of the text. -/
theorem exists_of_mem_parse {s : Text} {l : Line} (h : l ∈ Grammar.parse s) :
    ∃ number raw, raw ∈ lines s ∧ l = Line.parse number raw := by
  rw [parse_eq, List.mem_filterMap] at h
  obtain ⟨⟨raw, number⟩, hnumbered, hkeep⟩ := h
  unfold keep at hkeep
  split at hkeep
  · cases hkeep
  · exact ⟨number, raw, List.fst_mem_of_mem_zipIdx hnumbered, (Option.some.inj hkeep).symm⟩

theorem keep_later (k : Nat) (numbered : Text × Nat) :
    keep (numbered.1, numbered.2 + k) = (keep numbered).map (later k) := by
  unfold keep
  by_cases hblank : isBlank numbered.1 = true
  · rw [if_pos hblank, if_pos hblank, Option.map_none]
  · rw [if_neg hblank, if_neg hblank, Option.map_some, later_parse]

private theorem filterMap_keep_later (raws : List Text) (k : Nat) :
    (raws.zipIdx (1 + k)).filterMap keep = ((raws.zipIdx 1).filterMap keep).map (later k) := by
  rw [Nat.add_comm 1 k, ← List.map_snd_add_zipIdx_eq_zipIdx, List.filterMap_map,
    List.map_filterMap]
  congr 1
  funext numbered
  exact keep_later k numbered

theorem parse_append {s : Text} (h : Closed '\n' s) (t : Text) :
    Grammar.parse (s ++ t) =
      Grammar.parse s ++ (Grammar.parse t).map (later (s.count '\n')) := by
  rw [parse_eq, parse_eq, parse_eq, lines_append h, List.zipIdx_append, List.filterMap_append,
    filterMap_keep_later, length_lines h]

end RuleTable.LineNumbering
