import RuleTable.Event
import RuleTable.Proofs.LineNumbering
import RuleTable.Proofs.Reading

/-!
Where the lines of a text are found again. A text has its lines in one way, and those with something
in them are read, each once, in their order, under the numbers that they have among all lines. The
others are left out and lose nothing by it: read as lines, they would say and report nothing.
-/
namespace RuleTable.LinePositions

open Text Splitting Doubled Reading LineNumbering

variable {s raw : Text} {raws : List Text}

/-- The lines of a text. A newline ends a line and takes one return in front of it along. What
stands behind all newlines is a line too, if anything does. -/
inductive HasLines : Text → List Text → Prop
  | none : HasLines [] []
  | last {line : Text} (hsome : line ≠ []) (hopen : '\n' ∉ line) : HasLines line [line]
  | newline {line rest : Text} {others : List Text} (hopen : '\n' ∉ line)
    (hreturn : line.getLast? ≠ some '\r') (hrest : HasLines rest others) :
    HasLines (line ++ '\n' :: rest) (line :: others)
  | returnNewline {line rest : Text} {others : List Text} (hopen : '\n' ∉ line)
    (hrest : HasLines rest others) : HasLines (line ++ '\r' :: '\n' :: rest) (line :: others)

/-- The code points of the characters with the property White_Space. -/
def whiteSpace : List Nat :=
  [0x09, 0x0A, 0x0B, 0x0C, 0x0D, 0x20, 0x85, 0xA0, 0x1680, 0x2000, 0x2001, 0x2002, 0x2003, 0x2004,
    0x2005, 0x2006, 0x2007, 0x2008, 0x2009, 0x200A, 0x2028, 0x2029, 0x202F, 0x205F, 0x3000]

def HasText (raw : Text) : Prop := ∃ c ∈ raw, c.toNat ∉ whiteSpace

instance : DecidablePred HasText :=
  fun raw => List.decidableBEx (fun c : Char => c.toNat ∉ whiteSpace) raw

/-- The grammar has those of the lines that have text, each once and found at its number. -/
structure ReadFrom (raws : List Text) (g : Grammar) : Prop where
  exactly : g = ((raws.zipIdx 1).filter (fun numbered => HasText numbered.1)).map
    (fun numbered => Line.parse numbered.2 numbered.1)
  increasing : (g.map Line.number).Pairwise (· < ·)
  within : ∀ l ∈ g, 1 ≤ l.number ∧ l.number ≤ raws.length
  found : ∀ l ∈ g, raws[l.number - 1]? = some l.text
  no_newline : ∀ l ∈ g, '\n' ∉ l.text

/-- Read as the line of this number, the text says nothing and reports nothing. -/
structure Silent (number : Nat) (raw : Text) : Prop where
  no_label : (Line.parse number raw).label = none
  no_rule : (Line.parse number raw).rule = none
  no_comment : (Line.parse number raw).comment = none
  no_event : Line.events number raw = []

/-! ### Lines -/

theorem lines_of_open (h : '\n' ∉ s) : lines s = [s].filter (! ·.isEmpty) := by
  have hsplit : s.splitOn '\n' = [] ++ [s] := List.splitOn_eq_singleton h
  rw [lines_of_splitOn hsplit]
  rfl

theorem lines_cons (h : '\n' ∉ raw) (rest : Text) :
    lines (raw ++ '\n' :: rest) = dropReturn raw :: lines rest := by
  rw [lines_append_newline, List.splitOn_eq_singleton h]
  rfl

theorem dropReturn_concat (s : Text) : dropReturn (s ++ ['\r']) = s := by
  unfold dropReturn
  rw [if_pos List.getLast?_concat, List.dropLast_concat]

theorem lines_cons_return (h : '\n' ∉ raw) (rest : Text) :
    lines (raw ++ '\r' :: '\n' :: rest) = raw :: lines rest := by
  have hopen : '\n' ∉ raw ++ ['\r'] := by simp [h]
  have hlines := lines_cons hopen rest
  rwa [dropReturn_concat, List.append_assoc] at hlines

theorem HasLines.eq_lines (h : HasLines s raws) : raws = lines s := by
  induction h with
  | none => rfl
  | last hsome hopen =>
    rw [lines_of_open hopen]
    simp [hsome]
  | newline hopen hreturn _ ih => rw [lines_cons hopen, dropReturn_of_last hreturn, ih]
  | returnNewline hopen _ ih => rw [lines_cons_return hopen, ih]

theorem hasLines_lines (s : Text) : HasLines s (lines s) := by
  -- What follows the first newline is shorter, and a line is more than the one character that an
  -- induction on the text would take.
  induction hlength : s.length using Nat.strongRecOn generalizing s with
  | _ n ih =>
    subst hlength
    by_cases hnewline : '\n' ∈ s
    · obtain ⟨line, rest, rfl, hopen⟩ := List.eq_append_cons_of_mem hnewline
      have hrest := ih rest.length (by simp; omega) rest rfl
      by_cases hreturn : line.getLast? = some '\r'
      · obtain ⟨before, rfl⟩ := List.getLast?_eq_some_iff.mp hreturn
        have hbefore : '\n' ∉ before := fun hc => hopen (List.mem_append_left _ hc)
        rw [List.append_assoc, List.singleton_append, lines_cons_return hbefore]
        exact .returnNewline hbefore hrest
      · rw [lines_cons hopen, dropReturn_of_last hreturn]
        exact .newline hopen hreturn hrest
    · by_cases hempty : s = []
      · subst hempty
        exact .none
      · have hone : lines s = [s] := by
          rw [lines_of_open hnewline]
          simp [hempty]
        rw [hone]
        exact .last hempty hnewline

theorem hasLines_iff : HasLines s raws ↔ raws = lines s := by
  refine ⟨HasLines.eq_lines, ?_⟩
  intro h
  subst h
  exact hasLines_lines s

/-! ### Blank lines -/

theorem isBlankChar_iff (c : Char) : isBlankChar c = true ↔ c.toNat ∈ whiteSpace := by
  unfold isBlankChar whiteSpace
  simp only [Bool.or_eq_true, Bool.and_eq_true, decide_eq_true_eq, beq_iff_eq, List.mem_cons,
    List.not_mem_nil, or_false]
  omega

theorem isBlank_iff (raw : Text) : isBlank raw = true ↔ ¬HasText raw := by
  unfold isBlank HasText
  simp only [List.all_eq_true, isBlankChar_iff, not_exists, not_and, Decidable.not_not]

theorem silent_of_not_hasText (h : ¬HasText raw) (number : Nat) : Silent number raw := by
  rw [← isBlank_iff] at h
  have hslash : '/' ∉ raw := by
    intro hc
    exact absurd (List.all_eq_true.mp h '/' hc) (by decide)
  have hcut : cutDoubled '/' raw = (raw, none) :=
    cutDoubled_eq_none_iff.mpr ⟨rfl, no_pair_of_not_mem hslash⟩
  have hreading : Line.reading raw = .blank := by
    unfold Line.reading
    rw [hcut]
    exact (ofText_eq_blank_iff raw).mpr h
  have hdefinition : (Line.parse number raw).definition = none :=
    congrArg Reading.definition? hreading
  refine ⟨congrArg (Option.map Definition.label) hdefinition,
    congrArg (Option.map Definition.rule) hdefinition, congrArg Prod.snd hcut, ?_⟩
  exact congrArg (Reading.events number raw) hreading

/-! ### Positions -/

theorem filterMap_keep (numbered : List (Text × Nat)) :
    numbered.filterMap keep = (numbered.filter (fun numbered => HasText numbered.1)).map
      (fun numbered => Line.parse numbered.2 numbered.1) := by
  rw [← List.filterMap_eq_filter, List.map_filterMap]
  congr 1
  funext numbered
  unfold keep
  by_cases hblank : isBlank numbered.1 = true
  · have htext := (isBlank_iff _).mp hblank
    simp [Option.guard, hblank, htext]
  · have htext := not_not.mp (mt (isBlank_iff _).mpr hblank)
    simp [Option.guard, hblank, htext]

/-- The numbers of the lines that are read are some of all numbers, in the same order. -/
theorem numbers_sublist (raws : List Text) :
    (((raws.zipIdx 1).filterMap keep).map Line.number).Sublist (List.range' 1 raws.length) := by
  rw [filterMap_keep, List.map_map, ← List.zipIdx_map_snd]
  exact List.filter_sublist.map Prod.snd

theorem readFrom_lines (s : Text) : ReadFrom (lines s) (Grammar.parse s) := by
  have hfound : ∀ l ∈ Grammar.parse s, (lines s)[l.number - 1]? = some l.text := by
    intro l hl
    rw [parse_eq, filterMap_keep] at hl
    obtain ⟨⟨raw, number⟩, hnumbered, rfl⟩ := List.mem_map.mp hl
    exact (List.mk_mem_zipIdx_iff_le_and_getElem?_sub.mp (List.mem_filter.mp hnumbered).1).2
  have hsublist := numbers_sublist (lines s)
  rw [← parse_eq] at hsublist
  refine ⟨?_, (List.pairwise_lt_range' 1).sublist hsublist, ?_, hfound, ?_⟩
  · rw [parse_eq, filterMap_keep]
  · intro l hl
    have hnumber := List.mem_range'_1.mp (hsublist.subset (List.mem_map_of_mem hl))
    omega
  · intro l hl
    exact newline_not_mem_line (List.mem_of_getElem? (hfound l hl))

/-- The lines of a text that are read are those with something in them, each at its place among all
lines, and the lines between them are silent. -/
theorem parse_positions (s : Text) :
    (∃! raws, HasLines s raws) ∧
    ∀ raws, HasLines s raws →
      ReadFrom raws (Grammar.parse s) ∧
      ∀ index raw, raws[index]? = some raw → ¬HasText raw → Silent (index + 1) raw := by
  refine ⟨⟨_, hasLines_lines s, fun _ => HasLines.eq_lines⟩, ?_⟩
  intro raws hlines
  rw [hasLines_iff] at hlines
  subst hlines
  refine ⟨readFrom_lines s, ?_⟩
  intro index raw _ hblank
  exact silent_of_not_hasText hblank (index + 1)

/-- A line separator alone makes no line and is blank, and a zero-width space is not. Of two returns
before a newline one stays, and so does one that ends the text. -/
theorem parse_positions_around_blanks :
    HasLines "\u2028\r\n\u200b\n\n A: B\r\r\nC: D\r".toList
      ["\u2028".toList, "\u200b".toList, [], " A: B\r".toList, "C: D\r".toList] ∧
    (Grammar.parse "\u2028\r\n\u200b\n\n A: B\r\r\nC: D\r".toList).map
        (fun l => (l.number, l.text)) =
      [(2, "\u200b".toList), (4, " A: B\r".toList), (5, "C: D\r".toList)] ∧
    ¬HasText "\u2028".toList ∧ Silent 1 "\u2028".toList := by
  have hlines : HasLines "\u2028\r\n\u200b\n\n A: B\r\r\nC: D\r".toList
      ["\u2028".toList, "\u200b".toList, [], " A: B\r".toList, "C: D\r".toList] :=
    hasLines_iff.mpr rfl
  have hblank : ¬HasText "\u2028".toList := by decide
  obtain ⟨hread, hsilent⟩ := (parse_positions _).2 _ hlines
  refine ⟨hlines, ?_, hblank, hsilent 0 _ rfl hblank⟩
  rw [hread.exactly]
  rfl

end RuleTable.LinePositions
