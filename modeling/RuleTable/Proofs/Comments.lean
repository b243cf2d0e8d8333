import Mathlib.Data.List.Forall2
import RuleTable.Proofs.Generation
import RuleTable.Proofs.LineNumbering
import RuleTable.Proofs.Reading

/-!
Comments say nothing. What stands behind the first double slash of a line has no part in its label
and its rule, so lines that differ in their comments are refused together or have the same
statement. A text whose comments are replaced by others registers the same rules in the same order,
or fails with the same error.
-/
namespace RuleTable.Comments

open Text Splitting Doubled LineNumbering Generation

variable {number : Nat} {r raw raw' : Text}

/-- A text that a comment may follow: it opens none, and the first slash behind it opens none. -/
structure Uncommented (r : Text) : Prop where
  no_slashes : ¬['/', '/'] <:+: r
  no_half : r.getLast? ≠ some '/'

def withComment (r : Text) : Option Text → Text
  | none => r
  | some c => r ++ '/' :: '/' :: c

theorem cutDoubled_withComment (h : Uncommented r) (comment : Option Text) :
    cutDoubled '/' (withComment r comment) = (r, comment.map (['/', '/'] ++ ·)) := by
  cases comment with
  | none => exact cutDoubled_eq_none_iff.mpr ⟨rfl, h.no_slashes⟩
  | some c =>
    refine cutDoubled_eq_some_iff.mpr ⟨rfl, ⟨c, rfl⟩, ?_⟩
    rw [pair_infix_concat_iff, not_or]
    exact ⟨h.no_slashes, h.no_half⟩

theorem parse_withComment (number : Nat) (h : Uncommented r) (comment : Option Text) :
    Line.parse number (withComment r comment) =
      ⟨number, withComment r comment, comment.map (['/', '/'] ++ ·),
        (Reading.ofText r).definition?⟩ := by
  unfold Line.parse Line.reading
  rw [cutDoubled_withComment h]

/-! ### The code of one line -/

/-- What a line defines, and the number that it defines it under. -/
def ruleAt (l : Line) : Nat × Option Definition := (l.number, l.definition)

/-- The two lines have the same label and rule. They are refused with the same error, or the pieces
of their code stand around the same statement. -/
structure Alike (g : Generator) (l l' : Line) : Prop where
  label : l.label = l'.label
  rule : l.rule = l'.rule
  refused : ∀ e, g.fragments l = .error e ↔ g.fragments l' = .error e
  rendered : ∀ pieces pieces', g.fragments l = .ok pieces → g.fragments l' = .ok pieces' →
    ∃ statement, statement.isSome = l.definition.isSome ∧
      pieces = piecesAround g l statement ∧ pieces' = piecesAround g l' statement

theorem refusal?_congr {l l' : Line} (h : ruleAt l = ruleAt l') : refusal? l = refusal? l' := by
  obtain ⟨hnumber, hdefinition⟩ := Prod.mk.inj h
  unfold refusal?
  rw [hnumber, hdefinition]

theorem statementOf_congr (g : Generator) {l l' : Line} (h : ruleAt l = ruleAt l') :
    statementOf g l = statementOf g l' :=
  congrArg (Option.map _) (Prod.mk.inj h).2

theorem eq_piecesAround {g : Generator} {l : Line} {pieces : List Text}
    (h : g.fragments l = .ok pieces) : pieces = piecesAround g l (statementOf g l) := by
  rw [fragments_eq] at h
  cases hrefusal : refusal? l with
  | none =>
    rw [hrefusal] at h
    exact (Except.ok.inj h).symm
  | some e =>
    rw [hrefusal] at h
    cases h

theorem alike_of_ruleAt (g : Generator) {l l' : Line} (h : ruleAt l = ruleAt l') :
    Alike g l l' where
  label := congrArg (Option.map Definition.label) (Prod.mk.inj h).2
  rule := congrArg (Option.map Definition.rule) (Prod.mk.inj h).2
  refused := by
    intro e
    rw [fragments_eq_error_iff, fragments_eq_error_iff, refusal?_congr h]
  rendered := by
    intro pieces pieces' hpieces hpieces'
    refine ⟨statementOf g l, Option.isSome_map, eq_piecesAround hpieces, ?_⟩
    rw [statementOf_congr g h]
    exact eq_piecesAround hpieces'

/-! ### The code of a text -/

/-- The row has its comment replaced, or is as it was. -/
inductive Recommented : Text → Text → Prop
  | kept (row : Text) : Recommented row row
  | replaced {r : Text} (h : Uncommented r) (c c' : Text) :
    Recommented (withComment r (some c)) (withComment r (some c'))

theorem Recommented.ruleAt_parse (h : Recommented raw raw') (number : Nat) :
    ruleAt (Line.parse number raw) = ruleAt (Line.parse number raw') := by
  cases h with
  | kept => rfl
  | replaced h c c' =>
    rw [parse_withComment number h, parse_withComment number h]
    rfl

theorem not_blank_withComment (r c : Text) : isBlank (withComment r (some c)) = false := by
  have hslash : isBlankChar '/' = false := by decide
  unfold withComment isBlank
  simp [hslash]

theorem Recommented.isBlank_eq (h : Recommented raw raw') : isBlank raw = isBlank raw' := by
  cases h with
  | kept => rfl
  | replaced h c c' => rw [not_blank_withComment, not_blank_withComment]

/-- The return that a line loses may be one of its comment. -/
theorem recommented_dropReturn (h : Recommented raw raw') :
    Recommented (dropReturn raw) (dropReturn raw') := by
  have hslash : '/' ≠ '\r' := by decide
  cases h with
  | kept => exact .kept _
  | @replaced r h c c' =>
    unfold withComment
    rw [dropReturn_append_mark hslash, dropReturn_append_mark hslash]
    exact .replaced h (dropReturn c) (dropReturn c')

theorem forall₂_concat {α β : Type} {R : α → β → Prop} {l : List α} {l' : List β} {a : α} {b : β}
    (h : List.Forall₂ R (l ++ [a]) (l' ++ [b])) : List.Forall₂ R l l' ∧ R a b := by
  have hreverse := List.forall₂_reverse_iff.mpr h
  rw [List.reverse_concat, List.reverse_concat, List.forall₂_cons] at hreverse
  exact ⟨List.forall₂_reverse_iff.mp hreverse.2, hreverse.1⟩

theorem forall₂_lines {s s' : Text}
    (h : List.Forall₂ Recommented (s.splitOn '\n') (s'.splitOn '\n')) :
    List.Forall₂ Recommented (lines s) (lines s') := by
  obtain ⟨before, last, hs⟩ := exists_splitOn_eq_concat '\n' s
  obtain ⟨before', last', hs'⟩ := exists_splitOn_eq_concat '\n' s'
  rw [hs, hs'] at h
  obtain ⟨hbefore, hlast⟩ := forall₂_concat h
  have hended : List.Forall₂ Recommented (before.map dropReturn) (before'.map dropReturn) := by
    rw [List.forall₂_map_left_iff, List.forall₂_map_right_iff]
    exact hbefore.imp (fun _ _ => recommented_dropReturn)
  rw [lines_of_splitOn hs, lines_of_splitOn hs']
  apply List.rel_append hended
  cases hlast with
  | kept => exact List.forall₂_same.mpr (fun row _ => .kept row)
  | replaced hr c c' =>
    have hkept : ∀ r c : Text, [withComment r (some c)].filter (! ·.isEmpty) =
        [withComment r (some c)] := by
      simp [withComment]
    rw [hkept, hkept]
    exact .cons (.replaced hr c c') .nil

/-- Lines with their comments replaced are left out as blank together. -/
theorem map_ruleAt_filterMap_keep {raws raws' : List Text}
    (h : List.Forall₂ Recommented raws raws') (k : Nat) :
    ((raws.zipIdx k).filterMap keep).map ruleAt = ((raws'.zipIdx k).filterMap keep).map ruleAt := by
  induction h generalizing k with
  | nil => rfl
  | @cons raw raw' raws raws' hraw _ ih =>
    rw [List.zipIdx_cons, List.zipIdx_cons, List.filterMap_cons, List.filterMap_cons]
    unfold keep at ih ⊢
    dsimp only
    rw [← hraw.isBlank_eq]
    cases isBlank raw with
    | true => exact ih (k + 1)
    | false => exact congrArg₂ List.cons (hraw.ruleAt_parse k) (ih (k + 1))

theorem map_ruleAt_parse {s s' : Text}
    (h : List.Forall₂ Recommented (s.splitOn '\n') (s'.splitOn '\n')) :
    (Grammar.parse s).map ruleAt = (Grammar.parse s').map ruleAt := by
  rw [parse_eq, parse_eq]
  exact map_ruleAt_filterMap_keep (forall₂_lines h) 1

section Code

variable {lines lines' : Grammar}

/-- What is told of lines by their numbers and definitions alone is the same of both. -/
theorem map_congr_of_ruleAt {β : Type} (h : lines.map ruleAt = lines'.map ruleAt) (f : Line → β)
    (hf : ∀ l, f l = f ⟨l.number, [], none, l.definition⟩) : lines.map f = lines'.map f := by
  have hfactor : ∀ lines : Grammar,
      lines.map f = (lines.map ruleAt).map (fun told => f ⟨told.1, [], none, told.2⟩) := by
    intro lines
    rw [List.map_map]
    exact List.map_congr_left (fun l _ => hf l)
  rw [hfactor, hfactor, h]

theorem code_error_congr (g : Generator) (h : lines.map ruleAt = lines'.map ruleAt)
    (e : RepeatedToken) : g.code lines = .error e ↔ g.code lines' = .error e := by
  have hfirst : ∀ lines : Grammar,
      lines.findSome? refusal? = (lines.map refusal?).findSome? id := by
    intro lines
    rw [List.findSome?_map]
    rfl
  rw [code_eq_error_iff, code_eq_error_iff, hfirst, hfirst,
    map_congr_of_ruleAt h refusal? (fun _ => rfl)]

/-- Code is the pieces around the statements of its lines. -/
theorem code_eq_zipWith {g : Generator} {code : Text} (h : g.code lines = .ok code) :
    code = (List.zipWith (piecesAround g) lines (lines.map (statementOf g))).flatten.flatten := by
  obtain ⟨-, rfl⟩ := (code_eq_ok_iff g lines code).mp h
  rw [List.zipWith_map_right, List.zipWith_self, List.flatMap_def, List.flatten_flatten,
    List.map_map]
  congr 1
  exact List.map_congr_left (fun l _ => (flatten_piecesAround g l).symm)

end Code

/-- The text has the same rules under the same numbers, is refused with the same error, and its code
stands around the same statements in the same order. -/
structure SameRules (g : Generator) (lines lines' : Grammar) : Prop where
  rules : lines.map ruleAt = lines'.map ruleAt
  refused : ∀ e, g.code lines = .error e ↔ g.code lines' = .error e
  rendered : ∀ code code', g.code lines = .ok code → g.code lines' = .ok code' →
    ∃ statements, statements.map Option.isSome = lines.map (·.definition.isSome) ∧
      code = (List.zipWith (piecesAround g) lines statements).flatten.flatten ∧
      code' = (List.zipWith (piecesAround g) lines' statements).flatten.flatten

theorem sameRules_of_map_ruleAt (g : Generator) {lines lines' : Grammar}
    (h : lines.map ruleAt = lines'.map ruleAt) : SameRules g lines lines' where
  rules := h
  refused := code_error_congr g h
  rendered := by
    intro code code' hcode hcode'
    refine ⟨lines.map (statementOf g), ?_, code_eq_zipWith hcode, ?_⟩
    · rw [List.map_map]
      exact List.map_congr_left (fun l _ => Option.isSome_map)
    · rw [map_congr_of_ruleAt h (statementOf g) (fun _ => rfl)]
      exact code_eq_zipWith hcode'

/-- A comment behind a line is kept as it is and changes neither its label nor its rule nor its
statement nor its error. Replacing comments of a text changes none of these for the whole text. -/
theorem comments_irrelevant :
    (∀ number r, Uncommented r → ∀ comment,
      (Line.parse number (withComment r comment)).comment = comment.map (['/', '/'] ++ ·) ∧
      ∀ comment' g, Alike g (Line.parse number (withComment r comment))
        (Line.parse number (withComment r comment'))) ∧
    ∀ s s' : Text, List.Forall₂ Recommented (s.splitOn '\n') (s'.splitOn '\n') →
      ∀ g, SameRules g (Grammar.parse s) (Grammar.parse s') := by
  constructor
  · intro number r h comment
    rw [parse_withComment number h]
    refine ⟨rfl, ?_⟩
    intro comment' g
    rw [parse_withComment number h]
    exact alike_of_ruleAt g rfl
  · intro s s' h g
    exact sameRules_of_map_ruleAt g (map_ruleAt_parse h)

/-- A third slash, a colon and a marker in the comment of a token that repeats, and a return at the
end of another comment: the refusal is the same. -/
theorem comments_irrelevant_for_refusal :
    Uncommented "N/: _D+".toList ∧
    (Line.parse 3 "N/: _D+///: *".toList).comment = some "///: *".toList ∧
    (Line.parse 3 "N/: _D+///: *".toList).rule = (Line.parse 3 "N/: _D+".toList).rule ∧
    ({} : Generator).code (Grammar.parse "A: B // x\n\nN/: _D+//".toList) =
      .error ⟨"N/".toList, 3, .oneOrMore⟩ ∧
    ({} : Generator).code (Grammar.parse "A: B //: y\r\n\nN/: _D+///: *".toList) =
      .error ⟨"N/".toList, 3, .oneOrMore⟩ := by
  have huncommented : ∀ r, hasDoubled '/' r = false → r.getLast? ≠ some '/' → Uncommented r :=
    fun r hno hlast => ⟨by rw [← hasDoubled_iff, hno]; exact Bool.false_ne_true, hlast⟩
  have hfirst : Uncommented "A: B ".toList := huncommented _ rfl (by decide)
  have hlast : Uncommented "N/: _D+".toList := huncommented _ rfl (by decide)
  have hrows : List.Forall₂ Recommented ("A: B // x\n\nN/: _D+//".toList.splitOn '\n')
      ("A: B //: y\r\n\nN/: _D+///: *".toList.splitOn '\n') := by
    have hsplit : "A: B // x\n\nN/: _D+//".toList.splitOn '\n' =
        [withComment "A: B ".toList (some " x".toList), [],
          withComment "N/: _D+".toList (some [])] := rfl
    have hsplit' : "A: B //: y\r\n\nN/: _D+///: *".toList.splitOn '\n' =
        [withComment "A: B ".toList (some ": y\r".toList), [],
          withComment "N/: _D+".toList (some "/: *".toList)] := rfl
    rw [hsplit, hsplit']
    exact .cons (.replaced hfirst _ _) (.cons (.kept []) (.cons (.replaced hlast _ _) .nil))
  have hrefused : ({} : Generator).code (Grammar.parse "A: B // x\n\nN/: _D+//".toList) =
      .error ⟨"N/".toList, 3, .oneOrMore⟩ := rfl
  obtain ⟨hcomment, halike⟩ := comments_irrelevant.1 3 _ hlast (some "/: *".toList)
  have hsame := comments_irrelevant.2 _ _ hrows {}
  exact ⟨hlast, hcomment, (halike none {}).rule, hrefused, (hsame.refused _).mp hrefused⟩

end RuleTable.Comments
