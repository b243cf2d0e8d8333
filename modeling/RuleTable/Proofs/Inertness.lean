import RuleTable.Proofs.Concatenation
import RuleTable.Proofs.Encoding
import RuleTable.Proofs.Layout
import RuleTable.Proofs.LineForm

/-!
Generated code read as a grammar. A definition has one colon in front of its comment. A line of code
has two there if its call names a repetition and else none: what repeats a line is a comment, no
label holds a colon or a double slash, and no operand holds a colon. So code defines nothing, and
there is always code for it, without a registration.
-/
namespace RuleTable.Inertness

open Text Splitting Doubled Reading LineNumbering Generation Layout LineForm Concatenation

variable {number : Nat} {s front back comment raw : Text} {g : Generator}

/-! ### Colons in front of a comment -/

/-- How many colons a line has in front of its comment. -/
def colons (raw : Text) : Nat := (cutDoubled '/' raw).1.count ':'

theorem definition_eq_none_of_colons (h : colons raw ≠ 1) :
    (Line.parse number raw).definition = none :=
  definition?_eq_none_of_count h

theorem colons_append_left (h : ¬['/', '/'] <:+: front ++ ['/']) (s : Text) :
    colons (front ++ s) = front.count ':' + colons s := by
  unfold colons
  rw [cutDoubled_append_left h, List.count_append]

/-- A comment behind adds none, also where an earlier double slash cuts the line. -/
theorem colons_of_not_mem (hback : ':' ∉ back)
    (hcomment : comment = [] ∨ ['/', '/'] <+: comment) : colons (back ++ comment) = 0 := by
  unfold colons
  rw [List.count_eq_zero]
  rcases hcomment with rfl | ⟨rest, rfl⟩
  · intro hcolon
    apply hback
    rw [List.append_nil] at hcolon
    rw [← cutDoubled_append '/' back]
    exact List.mem_append_left _ hcolon
  · intro hcolon
    exact hback ((cutDoubled_isPrefix '/' back rest).subset hcolon)

/-- The return that a line loses is no colon and no slash. -/
theorem colons_dropReturn (raw : Text) : colons (dropReturn raw) = colons raw := by
  unfold dropReturn
  split
  · next hlast =>
    obtain ⟨before, rfl⟩ := List.getLast?_eq_some_iff.mp hlast
    rw [List.dropLast_concat]
    unfold colons
    cases hcut : cutDoubled '/' before with
    | mk front rest =>
      cases rest with
      | none =>
        obtain ⟨rfl, hno⟩ := cutDoubled_eq_none_iff.mp hcut
        have hreturn : ¬['/', '/'] <:+: front ++ ['\r'] := by
          have hshort : ¬['/', '/'] <:+: ['\r'] := by decide
          rw [pair_infix_append_iff]
          simp [hno, hshort]
        rw [cutDoubled_eq_none_iff.mpr ⟨rfl, hreturn⟩, List.count_append]
        rfl
      | some rest =>
        obtain ⟨rfl, hmark, hfirst⟩ := cutDoubled_eq_some_iff.mp hcut
        have hbehind : ['/', '/'] <+: rest ++ ['\r'] := hmark.trans (List.prefix_append _ _)
        rw [cutDoubled_eq_some_iff.mpr ⟨List.append_assoc front rest ['\r'], hbehind, hfirst⟩]
  · rfl

/-! ### Colons in lines of code -/

/-- The indentation holds blanks of one line alone. -/
def IsIndentation (indentation : Text) : Prop :=
  ∀ c ∈ indentation, isBlankChar c = true ∧ c ≠ '\n'

theorem not_mem_indentation (h : IsIndentation g.indentation) {c : Char}
    (hc : isBlankChar c = false) : c ∉ g.indentation := by
  intro hin
  rw [(h c hin).1] at hc
  cases hc

theorem colons_echo (h : IsIndentation g.indentation) (l : Line) : colons (echo g l) = 0 := by
  have hcolon := not_mem_indentation h (c := ':') (by decide)
  unfold echo
  rw [List.append_assoc]
  exact colons_of_not_mem hcolon (Or.inr ⟨' ' :: l.text, rfl⟩)

/-- A text between quotes meets no slash outside them. -/
theorem no_slashes_of_quoted {quoted : Text} (hfront : '/' ∉ front) (hback : '/' ∉ back)
    (hquoted : ¬['/', '/'] <:+: quoted) :
    ¬['/', '/'] <:+: front ++ '"' :: (quoted ++ '"' :: back) ++ ['/'] := by
  have hopen : ¬['/', '/'] <:+: front ++ ['"'] := no_pair_of_not_mem (by simpa using hfront)
  have hclose : '/' ∉ '"' :: back := by simpa using hback
  have hinside : ¬['/', '/'] <:+: quoted ++ '"' :: back := by
    rw [pair_infix_append_iff]
    simp [hquoted, no_pair_of_not_mem hclose]
  have hwhole : ¬['/', '/'] <:+: front ++ ['"'] ++ (quoted ++ '"' :: back) := by
    rw [pair_infix_append_iff]
    simp [hopen, hinside]
  have hlast : (front ++ ['"'] ++ (quoted ++ '"' :: back)).getLast? ≠ some '/' := by
    intro hlast
    rw [← List.append_assoc, List.getLast?_append_of_ne_nil _ (by simp)] at hlast
    exact hclose (List.mem_of_getLast? hlast)
  have hregroup : front ++ '"' :: (quoted ++ '"' :: back) =
      front ++ ['"'] ++ (quoted ++ '"' :: back) := by simp
  rw [hregroup, pair_infix_concat_iff, not_or]
  exact ⟨hwhole, hlast⟩

/-- In front of its operands a registration has the colons of its call alone, and none behind. -/
theorem colons_registration {d : Definition} {opening comment : Text}
    (h : IsIndentation g.indentation) (hopening : '/' ∉ opening) (hlabel : IsLabel d.label)
    (hoperands : ∀ operand ∈ d.rule.operands, ':' ∉ operand)
    (hcomment : comment = [] ∨ ['/', '/'] <+: comment) :
    colons (g.indentation ++ registration opening d ++ comment) = opening.count ':' := by
  have hfront : '/' ∉ g.indentation ++ "result.insert(" := by
    rw [List.mem_append, not_or]
    exact ⟨not_mem_indentation h (by decide), by decide⟩
  have hback : '/' ∉ ", " ++ opening := by
    rw [List.mem_append, not_or]
    exact ⟨by decide, hopening⟩
  have hrest : ':' ∉ operandText d.rule.operands ++ "]));" := by
    rw [List.mem_append, not_or]
    exact ⟨not_mem_operandText (by decide) hoperands, by decide⟩
  have hregroup : g.indentation ++ registration opening d ++ comment =
      g.indentation ++ "result.insert(" ++ '"' :: (d.label ++ '"' :: (", " ++ opening)) ++
        (operandText d.rule.operands ++ "]));" ++ comment) := by
    have hbefore : ("result.insert(\"" : Text) = "result.insert(" ++ ['"'] := rfl
    have hbehind : ("\", " : Text) = '"' :: ", " := rfl
    unfold registration
    rw [hbefore, hbehind]
    simp only [List.append_assoc, List.cons_append, List.nil_append]
  have hcount : (g.indentation ++ "result.insert(" ++
      '"' :: (d.label ++ '"' :: (", " ++ opening))).count ':' = opening.count ':' := by
    have hindent : g.indentation.count ':' = 0 :=
      List.count_eq_zero.mpr (not_mem_indentation h (by decide))
    have hlabel : d.label.count ':' = 0 := List.count_eq_zero.mpr hlabel.no_colon
    have hcall : ("result.insert(" : Text).count ':' = 0 := rfl
    have hcomma : (", " : Text).count ':' = 0 := rfl
    simp [hindent, hlabel, hcall, hcomma, -String.reduceToList]
  rw [hregroup, colons_append_left (no_slashes_of_quoted hfront hback hlabel.no_slashes),
    colons_of_not_mem hrest hcomment, hcount, Nat.add_zero]

theorem colons_statementLine (h : IsIndentation g.indentation) (number : Nat) (raw : Text) :
    colons (statementLine g (Line.parse number raw)) ≠ 1 := by
  have hcomment := comment_getD number raw
  rw [statementLine_eq]
  cases hd : (Line.parse number raw).definition with
  | none =>
    have hstatement : statementOf g (Line.parse number raw) = none := by
      unfold statementOf
      rw [hd, Option.map_none]
    rw [hstatement, Option.getD_none, colons_of_not_mem (by simp) hcomment]
    decide
  | some d =>
    have hstatement : statementOf g (Line.parse number raw) = some (g.indentation ++
        registration ((callOpening? d.rule.kind d.rule.frequency).getD []) d) := by
      unfold statementOf
      rw [hd, Option.map_some]
    have hlabel : IsLabel d.label :=
      isLabel_of_parse (Option.map_eq_some_iff.mpr ⟨d, hd, rfl⟩)
    have hoperands := colon_not_mem_operand ((definition?_eq_some_iff _ _).mp hd)
    obtain ⟨-, hslash, hcount⟩ := opening_chars d.rule.kind d.rule.frequency
    rw [hstatement, Option.getD_some, colons_registration h hslash hlabel hoperands hcomment]
    exact hcount

theorem colons_codeLines (h : IsIndentation g.indentation) {piece : Text}
    (hpiece : piece ∈ codeLines g (Grammar.parse s)) : colons piece ≠ 1 := by
  obtain ⟨l, hl, hpair⟩ := List.mem_flatMap.mp hpiece
  obtain ⟨number, raw, -, rfl⟩ := exists_of_mem_parse hl
  simp only [List.mem_cons, List.not_mem_nil, or_false] at hpair
  rcases hpair with rfl | rfl
  · rw [colons_echo h]
    decide
  · exact colons_statementLine h number raw

/-! ### Code as a grammar -/

/-- The lines of code are those of the grammar it was made from, less a return that a comment may
end in. -/
theorem lines_flatMap_rendering (h : IsIndentation g.indentation) (s : Text) :
    lines ((Grammar.parse s).flatMap (rendering g)) =
      (codeLines g (Grammar.parse s)).map dropReturn := by
  have hindent : '\n' ∉ g.indentation := fun hin => (h '\n' hin).2 rfl
  rw [lines_of_splitOn (splitOn_flatMap_rendering g hindent fun l hl => oneLine_of_mem_parse hl)]
  exact List.append_nil _

theorem definition_eq_none_of_code (h : IsIndentation g.indentation) {l : Line}
    (hl : l ∈ Grammar.parse ((Grammar.parse s).flatMap (rendering g))) : l.definition = none := by
  obtain ⟨number, raw, hraw, rfl⟩ := exists_of_mem_parse hl
  rw [lines_flatMap_rendering h] at hraw
  obtain ⟨piece, hpiece, rfl⟩ := List.mem_map.mp hraw
  apply definition_eq_none_of_colons
  rw [colons_dropReturn]
  exact colons_codeLines h hpiece

/-- Where nothing is defined, nothing is refused. -/
theorem refusal?_of_no_definition {l : Line} (h : l.definition = none) : refusal? l = none := by
  unfold refusal?
  rw [h, Option.bind_none]

theorem code_of_no_definition {lines : Grammar} (h : ∀ l ∈ lines, l.definition = none) :
    g.code lines = .ok (lines.flatMap (rendering g)) := by
  rw [code_eq_ok_iff]
  refine ⟨List.findSome?_eq_none_iff.mpr ?_, rfl⟩
  intro l hl
  exact refusal?_of_no_definition (h l hl)

theorem fragments_of_no_definition {l : Line} (h : l.definition = none) :
    g.fragments l = .ok (piecesAround g l none) := by
  have hstatement : statementOf g l = none := by
    unfold statementOf
    rw [h, Option.map_none]
  rw [fragments_eq, refusal?_of_no_definition h, hstatement]

/-- No line of code has a label or a rule. A second run on it, with any indentation, succeeds and
registers nothing, and so does the program, if it can write. -/
theorem code_inert (g : Generator) (h : IsIndentation g.indentation) {s code : Text}
    (hcode : g.code (Grammar.parse s) = .ok code) :
    (∀ l ∈ Grammar.parse code, l.label = none ∧ l.rule = none) ∧
    (∀ g' : Generator, (∃ again, g'.code (Grammar.parse code) = .ok again) ∧
      ∀ l ∈ Grammar.parse code, g'.fragments l = .ok (piecesAround g' l none)) ∧
    ∀ (read : FileReader) (path : Text) (sink : Sink), read path = .ok (Utf8.encode code) →
      Unlimited sink → ∃ again, ({} : Generator).code (Grammar.parse code) = .ok again ∧
        (transpile read path sink).result = (.ok (), received sink (Utf8.encode again)) := by
  obtain ⟨-, rfl⟩ := (code_eq_ok_iff g _ _).mp hcode
  have hnone : ∀ l ∈ Grammar.parse ((Grammar.parse s).flatMap (rendering g)),
      l.definition = none := fun l hl => definition_eq_none_of_code h hl
  refine ⟨?_, ?_, ?_⟩
  · intro l hl
    unfold Line.label Line.rule
    rw [hnone l hl]
    exact ⟨rfl, rfl⟩
  · intro g'
    exact ⟨⟨_, code_of_no_definition hnone⟩, fun l hl => fragments_of_no_definition (hnone l hl)⟩
  · intro read path sink hread hsink
    have hagain := code_of_no_definition (g := {}) hnone
    refine ⟨_, hagain, (transpile_eq_ok_iff hread hsink).mpr ⟨_, ?_, rfl⟩⟩
    unfold Grammar.ofBytes
    rw [Encoding.decode_encode]
    exact hagain

/-- The operand of two slashes comes together from two, and opens a comment in the code. -/
theorem code_inert_slash_operand :
    IsIndentation ({} : Generator).indentation ∧
    ∃ code again, ({} : Generator).code (Grammar.parse "A/: (B && / /)+ // C: D".toList) =
      .ok code ∧ (Grammar.parse code).length = 2 ∧
      ({} : Generator).code (Grammar.parse code) = .ok again := by
  have hindent : IsIndentation ({} : Generator).indentation := by
    intro c hc
    obtain rfl := List.mem_singleton.mp hc
    decide
  have hcode : ∃ code, ({} : Generator).code (Grammar.parse "A/: (B && / /)+ // C: D".toList) =
      .ok code ∧ (Grammar.parse code).length = 2 := ⟨_, rfl, rfl⟩
  obtain ⟨code, hcode, hlength⟩ := hcode
  obtain ⟨-, hsecond, -⟩ := code_inert {} hindent hcode
  obtain ⟨⟨again, hagain⟩, -⟩ := hsecond {}
  exact ⟨hindent, code, again, hcode, hlength, hagain⟩

end RuleTable.Inertness
