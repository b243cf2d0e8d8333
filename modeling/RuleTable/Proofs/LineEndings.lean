import RuleTable.Dump
import RuleTable.Proofs.LineNumbering
import RuleTable.Registration

/-!
Line endings. Newlines with a carriage return before them and bare ones give the same lines, also
where a text has both, since one return is dropped before each newline and no other is. A newline
at the end of a text changes nothing, unless it makes an ending of a return that stood alone.
-/
namespace RuleTable.LineEndings

open Text Splitting LineNumbering

/-- The text with a bare newline for each newline that a carriage return stands before. Of several
returns the last goes. -/
def bareNewlines : Text → Text
  | '\r' :: '\n' :: s => '\n' :: bareNewlines s
  | c :: s => c :: bareNewlines s
  | [] => []

theorem splitOn_newline (s : Text) : ('\n' :: s).splitOn '\n' = [] :: s.splitOn '\n' := by
  rw [List.splitOn_cons_eq_if_modifyHead]
  exact if_pos rfl

theorem splitOn_cons_of_ne {c : Char} (hc : c ≠ '\n') {s first : Text} {others : List Text}
    (h : s.splitOn '\n' = first :: others) :
    (c :: s).splitOn '\n' = (c :: first) :: others := by
  rw [List.splitOn_cons_eq_if_modifyHead, if_neg (by simpa using hc), h, List.modifyHead_cons]

/-- A text starts with a newline if its first segment is empty and not the last. -/
theorem exists_newline_of_splitOn {s : Text} {others : List Text} (hne : others ≠ [])
    (h : s.splitOn '\n' = [] :: others) : ∃ rest, s = '\n' :: rest := by
  have hjoin : List.intercalate ['\n'] (s.splitOn '\n') = s := List.intercalate_splitOn '\n'
  rw [h, List.intercalate_cons_of_ne_nil hne] at hjoin
  exact ⟨_, hjoin.symm⟩

/-- Both texts have the same last segment, and those that a newline ends differ by a return. -/
theorem exists_segments (s : Text) :
    ∃ before last, s.splitOn '\n' = before ++ [last] ∧
      (bareNewlines s).splitOn '\n' = before.map dropReturn ++ [last] := by
  fun_induction bareNewlines s with
  | case1 s ih =>
    obtain ⟨before, last, hs, hbare⟩ := ih
    refine ⟨['\r'] :: before, last, ?_, ?_⟩
    · rw [splitOn_cons_of_ne (by decide) (splitOn_newline s), hs]
      rfl
    · rw [splitOn_newline, hbare]
      rfl
  | case2 c s hno ih =>
    obtain ⟨before, last, hs, hbare⟩ := ih
    by_cases hc : c = '\n'
    · subst hc
      refine ⟨[] :: before, last, ?_, ?_⟩
      · rw [splitOn_newline, hs]
        rfl
      · rw [splitOn_newline, hbare]
        rfl
    · cases before with
      | nil => exact ⟨[], c :: last, splitOn_cons_of_ne hc hs, splitOn_cons_of_ne hc hbare⟩
      | cons first others =>
        have hdrop : dropReturn (c :: first) = c :: dropReturn first := by
          by_cases hfirst : first = []
          · subst hfirst
            obtain ⟨rest, rfl⟩ := exists_newline_of_splitOn (by simp) hs
            have hreturn : c ≠ '\r' := fun h => hno rest h rfl
            exact dropReturn_of_last (by simpa using hreturn)
          · exact dropReturn_append hfirst [c]
        refine ⟨(c :: first) :: others, last, splitOn_cons_of_ne hc hs, ?_⟩
        rw [List.map_cons, hdrop]
        exact splitOn_cons_of_ne hc hbare
  | case3 => exact ⟨[], [], rfl, rfl⟩

theorem lines_eq_of_bareNewlines {s s' : Text} (h : bareNewlines s = bareNewlines s') :
    lines s = lines s' := by
  obtain ⟨before, last, hs, hbare⟩ := exists_segments s
  obtain ⟨before', last', hs', hbare'⟩ := exists_segments s'
  rw [h, hbare'] at hbare
  obtain ⟨hended, hlast⟩ := List.append_inj' hbare rfl
  rw [lines_of_splitOn hs, lines_of_splitOn hs', hended, hlast]

theorem parse_congr {s s' : Text} (h : lines s = lines s') :
    Grammar.parse s = Grammar.parse s' := by
  rw [parse_eq, parse_eq, h]

/-- An empty line is blank. -/
theorem filterMap_keep_concat_nil (raws : List Text) :
    ((raws ++ [[]]).zipIdx 1).filterMap keep = (raws.zipIdx 1).filterMap keep := by
  rw [List.zipIdx_append, List.filterMap_append]
  exact List.append_nil _

/-- A newline at the end either ends the last line as it stands or opens no other. -/
theorem parse_append_newline {s : Text} (h : s.getLast? ≠ some '\r') :
    Grammar.parse (s ++ ['\n']) = Grammar.parse s := by
  obtain ⟨before, last, hs⟩ := exists_splitOn_eq_concat '\n' s
  obtain ⟨front, rfl⟩ := isSuffix_of_splitOn hs
  have hlast : dropReturn last = last := by
    apply dropReturn_of_last
    intro hreturn
    rw [List.getLast?_append, hreturn, Option.some_or] at h
    exact h rfl
  have hended : lines (front ++ last ++ ['\n']) = before.map dropReturn ++ [last] := by
    rw [lines_append_newline, lines_nil, hs, List.map_append, List.map_singleton, hlast,
      List.append_nil]
  rw [parse_eq, parse_eq, hended, lines_of_splitOn hs]
  by_cases hempty : last = []
  · subst hempty
    rw [filterMap_keep_concat_nil]
    simp
  · simp [hempty]

/-- Texts that differ in the returns before newlines alone are read as the same lines, so they have
the same code, or the same error, and the same dump. A newline more at the end is of no account. -/
theorem parse_line_endings :
    (∀ s s', bareNewlines s = bareNewlines s' →
      Grammar.parse s = Grammar.parse s' ∧
      (∀ g : Generator, g.code (Grammar.parse s) = g.code (Grammar.parse s')) ∧
      (Grammar.parse s).dump = (Grammar.parse s').dump) ∧
    ∀ s : Text, s.getLast? ≠ some '\r' → Grammar.parse (s ++ ['\n']) = Grammar.parse s := by
  refine ⟨?_, fun s h => parse_append_newline h⟩
  intro s s' h
  have hsame := parse_congr (lines_eq_of_bareNewlines h)
  rw [hsame]
  exact ⟨rfl, fun g => rfl, rfl⟩

/-- Two returns before a newline, one in front of a blank line, and one that ends the text: only the
ones before newlines may go, and the last line keeps its number. -/
theorem parse_mixed_endings :
    Grammar.parse "A: B\r\r\n\r\nC: D\r".toList = Grammar.parse "A: B\r\r\n\nC: D\r".toList ∧
    (Grammar.parse "A: B\r\r\n\nC: D\r".toList).map (fun l => (l.number, l.text)) =
      [(1, "A: B\r".toList), (3, "C: D\r".toList)] ∧
    Grammar.parse "A: B\n".toList = Grammar.parse "A: B".toList :=
  ⟨(parse_line_endings.1 _ _ rfl).1, rfl, parse_line_endings.2 "A: B".toList (by decide)⟩

end RuleTable.LineEndings
