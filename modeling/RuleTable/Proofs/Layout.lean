import RuleTable.Proofs.Generation
import RuleTable.Proofs.LineNumbering
import RuleTable.Proofs.Reading

/-!
The layout of generated code. With an indentation that holds no newline the code of a text is two
lines for each line read, the first a comment that repeats it and the second its registration with
its own comment behind. No newline of the text gets into either, so the code can be cut apart
again, and what was read is told by it but for the line numbers.
-/
namespace RuleTable.Layout

open Text Splitting Reading LineNumbering Generation

variable (g : Generator)

/-- The lines of the code of a grammar, without their newlines. -/
def codeLines (lines : Grammar) : List Text :=
  lines.flatMap (fun l => [echo g l, statementLine g l])

theorem codeLines_cons (l : Line) (lines : Grammar) :
    codeLines g (l :: lines) = echo g l :: statementLine g l :: codeLines g lines := rfl

theorem length_codeLines (lines : Grammar) :
    (codeLines g lines).length = 2 * lines.length := by
  induction lines with
  | nil => rfl
  | cons l lines ih =>
    rw [codeLines_cons]
    simp only [List.length_cons, ih]
    omega

/-- The lines of code for a line stand at twice its position and right after. -/
theorem getElem?_codeLines (lines : Grammar) (i : Nat) :
    (codeLines g lines)[2 * i]? = lines[i]?.map (echo g) ∧
      (codeLines g lines)[2 * i + 1]? = lines[i]?.map (statementLine g) := by
  induction lines generalizing i with
  | nil => simp [codeLines]
  | cons l lines ih =>
    rw [codeLines_cons]
    cases i with
    | zero => simp
    | succ i =>
      have hdouble : 2 * (i + 1) = 2 * i + 1 + 1 := by omega
      rw [hdouble]
      simpa only [List.getElem?_cons_succ] using ih i

/-- Code is its lines with a newline after each. -/
theorem flatMap_rendering (lines : Grammar) :
    lines.flatMap (rendering g) = List.intercalate ['\n'] (codeLines g lines ++ [[]]) := by
  induction lines with
  | nil => rfl
  | cons l lines ih =>
    have hne : codeLines g lines ++ [[]] ≠ [] := by simp
    rw [List.flatMap_cons, ih, codeLines_cons, List.cons_append, List.cons_append,
      List.intercalate_cons_cons, List.intercalate_cons_of_ne_nil hne]
    simp [rendering]

/-- Nothing that a line says holds a newline. -/
structure OneLine (l : Line) : Prop where
  text : '\n' ∉ l.text
  comment : ∀ comment, l.comment = some comment → '\n' ∉ comment
  definition : ∀ d, l.definition = some d →
    '\n' ∉ d.label ∧ ∀ operand ∈ d.rule.operands, '\n' ∉ operand

theorem oneLine_parse {number : Nat} {raw : Text} (h : '\n' ∉ raw) :
    OneLine (Line.parse number raw) where
  text := h
  comment := by
    intro comment hcomment hc
    obtain ⟨before, rfl, -⟩ := parse_comment_eq_some hcomment
    exact h (List.mem_append_right _ hc)
  definition := by
    intro d hd
    refine ⟨fun hc => h (mem_of_parse_definition hd (Or.inl hc)), ?_⟩
    intro operand hoperand hc
    exact h (mem_of_parse_definition hd (Or.inr ⟨operand, hoperand, hc⟩))

theorem oneLine_of_mem_parse {s : Text} {l : Line} (h : l ∈ Grammar.parse s) : OneLine l := by
  obtain ⟨number, raw, hraw, rfl⟩ := exists_of_mem_parse h
  exact oneLine_parse (newline_not_mem_line hraw)

/-- The text of the operands adds quotes, commas and spaces and no other characters. -/
theorem not_mem_operandText {operands : List Text} {c : Char} (hc : c ∉ ['"', ',', ' '])
    (h : ∀ operand ∈ operands, c ∉ operand) : c ∉ operandText operands := by
  simp only [List.mem_cons, List.not_mem_nil, or_false, not_or] at hc
  obtain ⟨hmark, hcomma, hspace⟩ := hc
  have hquote : ∀ operand ∈ operands, c ∉ quote operand := by
    intro operand hoperand
    simp [quote, hmark, h operand hoperand]
  clear h
  induction operands using operandText.induct with
  | case1 => simp [operandText]
  | case2 operand => exact hquote operand List.mem_cons_self
  | case3 operand next others ih =>
    have hothers := ih (fun o ho => hquote o (List.mem_cons_of_mem _ ho))
    simp [operandText, hquote operand List.mem_cons_self, hcomma, hspace, hothers]

theorem newline_not_mem_registration {d : Definition} {opening : Text} (hopening : '\n' ∉ opening)
    (hlabel : '\n' ∉ d.label) (hoperands : ∀ operand ∈ d.rule.operands, '\n' ∉ operand) :
    '\n' ∉ registration opening d := by
  have hlist := not_mem_operandText (by decide) hoperands
  unfold registration
  simp only [List.mem_append, not_or]
  refine ⟨⟨⟨⟨⟨?_, hlabel⟩, ?_⟩, hopening⟩, hlist⟩, ?_⟩ <;> decide

theorem newline_not_mem_echo {l : Line} (hindent : '\n' ∉ g.indentation) (h : OneLine l) :
    '\n' ∉ echo g l := by
  have htext := h.text
  unfold echo
  simp only [List.mem_append, not_or]
  exact ⟨⟨hindent, by decide⟩, htext⟩

theorem newline_not_mem_statementLine {l : Line} (hindent : '\n' ∉ g.indentation)
    (h : OneLine l) : '\n' ∉ statementLine g l := by
  have hcomment : '\n' ∉ l.comment.getD [] := by
    cases hl : l.comment with
    | none => simp
    | some comment => exact h.comment comment hl
  unfold statementLine
  rw [List.mem_append, not_or]
  refine ⟨?_, hcomment⟩
  cases hl : l.definition with
  | none => simp
  | some d =>
    obtain ⟨hlabel, hoperands⟩ := h.definition d hl
    obtain ⟨hopening, -⟩ := opening_chars d.rule.kind d.rule.frequency
    rw [List.mem_append, not_or]
    exact ⟨hindent, newline_not_mem_registration hopening hlabel hoperands⟩

/-- The lines of code come back from the code, with nothing after the last newline. -/
theorem splitOn_flatMap_rendering {lines : Grammar} (hindent : '\n' ∉ g.indentation)
    (h : ∀ l ∈ lines, OneLine l) :
    (lines.flatMap (rendering g)).splitOn '\n' = codeLines g lines ++ [[]] := by
  rw [flatMap_rendering]
  apply List.splitOn_intercalate
  · intro piece hpiece
    rcases List.mem_append.mp hpiece with hcode | hlast
    · obtain ⟨l, hl, hpair⟩ := List.mem_flatMap.mp hcode
      simp only [List.mem_cons, List.not_mem_nil, or_false] at hpair
      rcases hpair with rfl | rfl
      · exact newline_not_mem_echo g hindent (h l hl)
      · exact newline_not_mem_statementLine g hindent (h l hl)
    · rw [List.mem_singleton.mp hlast]
      simp
  · simp

theorem getLast?_flatMap_rendering {lines : Grammar} (h : lines ≠ []) :
    (lines.flatMap (rendering g)).getLast? = some '\n' := by
  obtain ⟨before, last, rfl⟩ : ∃ before last, lines = before ++ [last] :=
    ⟨_, _, (List.dropLast_concat_getLast h).symm⟩
  rw [List.flatMap_append, List.flatMap_singleton, rendering, ← List.append_assoc,
    List.getLast?_append]
  rfl

/-- What a line says, whatever its number. -/
def contents (l : Line) : Text × Option Text × Option Definition :=
  (l.text, l.comment, l.definition)

theorem contents_of_mem_parse {s : Text} {l : Line} (h : l ∈ Grammar.parse s) :
    contents l = contents (Line.parse 0 l.text) := by
  obtain ⟨number, raw, -, rfl⟩ := exists_of_mem_parse h
  rfl

/-- Code tells the number of no line. -/
theorem flatMap_rendering_of_map_contents {lines lines' : Grammar}
    (h : lines'.map contents = lines.map contents) :
    lines'.flatMap (rendering g) = lines.flatMap (rendering g) := by
  have hunnumbered : ∀ lines : Grammar, lines.flatMap (rendering g) =
      (lines.map contents).flatMap (fun said => rendering g ⟨0, said.1, said.2.1, said.2.2⟩) := by
    intro lines
    rw [List.flatMap_map]
    rfl
  rw [hunnumbered, hunnumbered, h]

/-- Lines that were read from equal texts say the same. -/
theorem map_contents_of_map_text {s s' : Text}
    (h : (Grammar.parse s').map Line.text = (Grammar.parse s).map Line.text) :
    (Grammar.parse s').map contents = (Grammar.parse s).map contents := by
  have hreread : ∀ s, (Grammar.parse s).map contents =
      ((Grammar.parse s).map Line.text).map (fun raw => contents (Line.parse 0 raw)) := by
    intro s
    rw [List.map_map]
    exact List.map_congr_left (fun l hl => contents_of_mem_parse hl)
  rw [hreread, hreread, h]

theorem map_text_of_codeLines_eq {lines lines' : Grammar}
    (h : codeLines g lines' = codeLines g lines) :
    lines'.map Line.text = lines.map Line.text := by
  apply List.ext_getElem?
  intro i
  have hecho : lines'[i]?.map (echo g) = lines[i]?.map (echo g) := by
    rw [← (getElem?_codeLines g lines' i).1, ← (getElem?_codeLines g lines i).1, h]
  rw [List.getElem?_map, List.getElem?_map]
  cases hl : lines[i]? with
  | none => simpa [hl] using hecho
  | some l =>
    cases hl' : lines'[i]? with
    | none => simp [hl, hl'] at hecho
    | some l' =>
      simp only [hl, hl', Option.map_some, Option.some.injEq, echo,
        List.append_cancel_left_eq] at hecho
      simp [hecho]

/-- The two lines of code for a line: its echo, then its registration or nothing, with its comment
behind. -/
structure Rendered (l : Line) (first second : Text) : Prop where
  first_eq : first = g.indentation ++ "// " ++ l.text
  second_eq : ∀ d, l.definition = some d →
    ∃ opening, callOpening? d.rule.kind d.rule.frequency = some opening ∧
      second = g.indentation ++ registration opening d ++ l.comment.getD []
  second_eq_comment : l.definition = none → second = l.comment.getD []
  comment_only : l.definition = none → second = [] ∨ ['/', '/'] <+: second

theorem rendered_of_mem_parse {s : Text} {l : Line} (hl : l ∈ Grammar.parse s)
    (h : refusal? l = none) : Rendered g l (echo g l) (statementLine g l) where
  first_eq := rfl
  second_eq := by
    intro d hd
    cases hcall : callOpening? d.rule.kind d.rule.frequency with
    | none =>
      have htoken := (callOpening?_eq_none_iff d.rule).mp hcall
      have hrefused := (refusal?_eq_some_iff l _).mpr ⟨d, hd, htoken, rfl⟩
      rw [h] at hrefused
      cases hrefused
    | some opening =>
      refine ⟨opening, rfl, ?_⟩
      unfold statementLine
      rw [hd]
      dsimp only
      rw [hcall, Option.getD_some]
  second_eq_comment := by
    intro hd
    unfold statementLine
    rw [hd, List.nil_append]
  comment_only := by
    intro hd
    unfold statementLine
    rw [hd, List.nil_append]
    obtain ⟨number, raw, -, rfl⟩ := exists_of_mem_parse hl
    exact comment_getD number raw

/-- The code of a text is the two lines of each of its lines in order. Two codes are equal exactly
if the lines that were read hold equal texts, and then they say the same. -/
theorem code_layout (hindent : '\n' ∉ g.indentation) (s code : Text)
    (h : g.code (Grammar.parse s) = .ok code) :
    code.count '\n' = 2 * (Grammar.parse s).length ∧
    (Grammar.parse s ≠ [] → code.getLast? = some '\n') ∧
    (∃ pieces, code.splitOn '\n' = pieces ++ [[]] ∧
      pieces.length = 2 * (Grammar.parse s).length ∧
      ∀ i l, (Grammar.parse s)[i]? = some l →
        ∃ first second, pieces[2 * i]? = some first ∧ pieces[2 * i + 1]? = some second ∧
          Rendered g l first second) ∧
    ∀ s' code', g.code (Grammar.parse s') = .ok code' →
      (code' = code ↔ (Grammar.parse s').map Line.text = (Grammar.parse s).map Line.text) ∧
      (code' = code → (Grammar.parse s').map contents = (Grammar.parse s).map contents) := by
  obtain ⟨hnone, rfl⟩ := (code_eq_ok_iff g _ _).mp h
  have hcut : ∀ s, ((Grammar.parse s).flatMap (rendering g)).splitOn '\n' =
      codeLines g (Grammar.parse s) ++ [[]] := by
    intro s
    exact splitOn_flatMap_rendering g hindent (fun l hl => oneLine_of_mem_parse hl)
  have hsplit := hcut s
  have hlength := length_codeLines g (Grammar.parse s)
  refine ⟨?_, getLast?_flatMap_rendering g, ⟨_, hsplit, hlength, ?_⟩, ?_⟩
  · have hcount := length_splitOn '\n' ((Grammar.parse s).flatMap (rendering g))
    rw [hsplit, List.length_append, hlength] at hcount
    simpa using hcount.symm
  · intro i l hi
    obtain ⟨hfirst, hsecond⟩ := getElem?_codeLines g (Grammar.parse s) i
    rw [hi] at hfirst hsecond
    have hl := List.mem_of_getElem? hi
    exact ⟨_, _, hfirst, hsecond,
      rendered_of_mem_parse g hl (List.findSome?_eq_none_iff.mp hnone l hl)⟩
  · intro s' code' h'
    obtain ⟨-, rfl⟩ := (code_eq_ok_iff g _ _).mp h'
    have hsplit' := hcut s'
    have htexts : (Grammar.parse s').flatMap (rendering g) =
        (Grammar.parse s).flatMap (rendering g) →
        (Grammar.parse s').map Line.text = (Grammar.parse s).map Line.text := by
      intro hcode
      rw [hcode, hsplit] at hsplit'
      exact map_text_of_codeLines_eq g (List.append_cancel_right hsplit').symm
    refine ⟨⟨htexts, ?_⟩, fun hcode => map_contents_of_map_text (htexts hcode)⟩
    intro hsame
    exact flatMap_rendering_of_map_contents g (map_contents_of_map_text hsame)

/-- A definition with a comment and a carriage return, a blank line and a line of text. -/
theorem code_layout_of_mixed_lines :
    '\n' ∉ ({} : Generator).indentation ∧
    ∃ code pieces,
      ({} : Generator).code (Grammar.parse "A: (B || C)+ // x\r\n \nnote".toList) = .ok code ∧
      code.count '\n' = 4 ∧ code.getLast? = some '\n' ∧ code.splitOn '\n' = pieces ++ [[]] ∧
      pieces[0]? = some "\t// A: (B || C)+ // x".toList ∧
      pieces[1]? = some ("\tresult.insert(\"A\", create_or_rule(RuleRepeats::OneOrMore, " ++
        "vec![\"B\", \"C\"]));// x").toList ∧
      pieces[3]? = some [] := by
  have hindent : '\n' ∉ ({} : Generator).indentation := by decide
  have hlines : Grammar.parse "A: (B || C)+ // x\r\n \nnote".toList =
      [⟨1, "A: (B || C)+ // x".toList, some "// x".toList,
          some ⟨['A'], ⟨.disjunction, .oneOrMore, [['B'], ['C']], false⟩⟩⟩,
        ⟨3, "note".toList, none, none⟩] := rfl
  obtain ⟨code, hcode⟩ : ∃ code,
      ({} : Generator).code (Grammar.parse "A: (B || C)+ // x\r\n \nnote".toList) = .ok code :=
    ⟨_, rfl⟩
  obtain ⟨hcount, hlast, ⟨pieces, hsplit, -, hpieces⟩, -⟩ := code_layout {} hindent _ code hcode
  rw [hlines] at hcount hlast hpieces
  obtain ⟨echoed, registered, hfirst, hsecond, hrule⟩ := hpieces 0 _ rfl
  obtain ⟨_, passed, _, hthird, hnote⟩ := hpieces 1 _ rfl
  obtain ⟨opening, hopening, hregistered⟩ := hrule.second_eq _ rfl
  obtain rfl := Option.some.inj hopening
  refine ⟨hindent, code, pieces, hcode, hcount, hlast (by simp), hsplit, ?_, ?_, ?_⟩
  · rw [hfirst, hrule.first_eq]
    rfl
  · rw [hsecond, hregistered]
    rfl
  · rw [hthird, hnote.second_eq_comment rfl]
    rfl

end RuleTable.Layout
