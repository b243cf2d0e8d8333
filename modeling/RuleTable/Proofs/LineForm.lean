import RuleTable.Proofs.Bodies

/-!
The form of a line. In front of the first double slash there is one text only, and it defines a
rule exactly if it is a label and a body around one colon. The label is never blank and the body
names an operand; every other line says nothing but its comment.
-/
namespace RuleTable.LineForm

open Text Splitting Doubled Trimming Reading Bodies

/-- The line is `before` without a comment in it, or with a comment behind it that opens at the
first double slash. -/
def CommentCut (raw before : Text) (comment : Option Text) : Prop :=
  (raw = before ∧ ¬['/', '/'] <:+: before ∧ comment = none) ∨
  ∃ rest, raw = before ++ rest ∧ ['/', '/'] <+: rest ∧ ¬['/', '/'] <:+: before ++ ['/'] ∧
    comment = some rest

/-- Around the only colon stand a label and a body that names an operand. -/
def DefinitionForm (before label body : Text) : Prop :=
  ∃ left right, before = left ++ ':' :: right ∧ ':' ∉ left ∧ ':' ∉ right ∧
    label = trim left ∧ label ≠ [] ∧ body = trim right ∧ NamesOperand body

/-- What holds of every label. -/
structure IsLabel (label : Text) : Prop where
  nonempty : label ≠ []
  trimmed : Trimmed label
  no_colon : ':' ∉ label
  no_slashes : ¬['/', '/'] <:+: label

/-- The line says what `before` says: a definition if it has the form of one, and else nothing. -/
structure Says (l : Line) (before : Text) : Prop where
  of_form : ∀ label body, DefinitionForm before label body →
    ∃ rule, Rule.ofBody? body = some rule ∧ l.label = some label ∧ l.rule = some rule
  form : ∀ label rule, l.label = some label → l.rule = some rule →
    ∃ body, DefinitionForm before label body ∧ Rule.ofBody? body = some rule
  otherwise : (¬∃ label body, DefinitionForm before label body) → l.label = none ∧ l.rule = none

theorem commentCut_iff (raw before : Text) (comment : Option Text) :
    CommentCut raw before comment ↔ cutDoubled '/' raw = (before, comment) := by
  unfold CommentCut
  cases comment with
  | none =>
    rw [cutDoubled_eq_none_iff]
    constructor
    · rintro (⟨rfl, hno, -⟩ | ⟨rest, -, -, -, hrest⟩)
      · exact ⟨rfl, hno⟩
      · cases hrest
    · rintro ⟨rfl, hno⟩
      exact Or.inl ⟨rfl, hno, rfl⟩
  | some comment =>
    rw [cutDoubled_eq_some_iff]
    constructor
    · rintro (⟨-, -, hnone⟩ | ⟨rest, hraw, hmark, hfirst, hrest⟩)
      · cases hnone
      · obtain rfl := Option.some.inj hrest
        exact ⟨hraw, hmark, hfirst⟩
    · rintro ⟨hraw, hmark, hfirst⟩
      exact Or.inr ⟨comment, hraw, hmark, hfirst, rfl⟩

theorem commentCut_parse (number : Nat) (raw : Text) :
    CommentCut raw (cutDoubled '/' raw).1 (Line.parse number raw).comment :=
  (commentCut_iff _ _ _).mpr rfl

theorem eq_of_commentCut_parse {number : Nat} {raw before : Text}
    (h : CommentCut raw before (Line.parse number raw).comment) :
    before = (cutDoubled '/' raw).1 :=
  (congrArg Prod.fst ((commentCut_iff _ _ _).mp h)).symm

theorem no_slashes_of_commentCut {raw before : Text} {comment : Option Text}
    (h : CommentCut raw before comment) : ¬['/', '/'] <:+: before := by
  rcases h with ⟨-, hno, -⟩ | ⟨rest, -, -, hfirst, -⟩
  · exact hno
  · intro hslashes
    exact hfirst (pair_infix_concat_iff.mpr (Or.inl hslashes))

theorem nonempty_of_namesOperand {body : Text} (h : NamesOperand body) : body ≠ [] := by
  rintro rfl
  exact h.1 rfl

theorem ofText_eq_defines_iff_form (before : Text) (d : Definition) :
    Reading.ofText before = .defines d ↔
      ∃ body, DefinitionForm before d.label body ∧ Rule.ofBody? body = some d.rule := by
  rw [ofText_eq_defines_iff]
  constructor
  · rintro ⟨left, right, hbefore, hleft, hright, hlabel, hd, -, hrule⟩
    have hnames := (exists_ofBody?_iff (trim right)).mp ⟨d.rule, hrule⟩
    rw [← hd] at hlabel
    exact ⟨trim right, ⟨left, right, hbefore, hleft, hright, hd, hlabel, rfl, hnames⟩, hrule⟩
  · rintro ⟨body, ⟨left, right, hbefore, hleft, hright, hd, hlabel, rfl, hnames⟩, hrule⟩
    rw [hd] at hlabel
    exact ⟨left, right, hbefore, hleft, hright, hlabel, hd, nonempty_of_namesOperand hnames, hrule⟩

theorem definition_parse_iff (number : Nat) (raw : Text) (d : Definition) :
    (Line.parse number raw).definition = some d ↔
      ∃ body, DefinitionForm (cutDoubled '/' raw).1 d.label body ∧
        Rule.ofBody? body = some d.rule := by
  rw [← ofText_eq_defines_iff_form]
  exact definition?_eq_some_iff _ _

/-- A label and a rule are those of one definition. -/
theorem definition_eq_some_iff (l : Line) (label : Text) (rule : Rule) :
    l.definition = some ⟨label, rule⟩ ↔ l.label = some label ∧ l.rule = some rule := by
  unfold Line.label Line.rule
  cases l.definition with
  | none => simp
  | some d =>
    obtain ⟨label', rule'⟩ := d
    simp

theorem says_parse (number : Nat) (raw : Text) :
    Says (Line.parse number raw) (cutDoubled '/' raw).1 where
  of_form := by
    intro label body hform
    have hnames : NamesOperand body := by
      obtain ⟨left, right, -, -, -, -, -, -, hnames⟩ := hform
      exact hnames
    obtain ⟨rule, hrule⟩ := (exists_ofBody?_iff body).mpr hnames
    have hd := (definition_parse_iff number raw ⟨label, rule⟩).mpr ⟨body, hform, hrule⟩
    exact ⟨rule, hrule, (definition_eq_some_iff _ _ _).mp hd⟩
  form := by
    intro label rule hlabel hrule
    have hd := (definition_eq_some_iff _ _ _).mpr ⟨hlabel, hrule⟩
    exact (definition_parse_iff number raw _).mp hd
  otherwise := by
    intro hnone
    have hd : (Line.parse number raw).definition = none := by
      rw [Option.eq_none_iff_forall_ne_some]
      intro d hd
      obtain ⟨body, hform, -⟩ := (definition_parse_iff number raw d).mp hd
      exact hnone ⟨d.label, body, hform⟩
    unfold Line.label Line.rule
    rw [hd]
    exact ⟨rfl, rfl⟩

theorem isLabel_of_form {before label body : Text} (hslashes : ¬['/', '/'] <:+: before)
    (h : DefinitionForm before label body) : IsLabel label := by
  obtain ⟨left, right, rfl, hleft, -, rfl, hlabel, -⟩ := h
  have hwithin : trim left <:+: left ++ ':' :: right :=
    List.infix_append_of_infix_left (trim_isInfix left)
  refine ⟨hlabel, trimmed_trim left, ?_, ?_⟩
  · intro hcolon
    exact hleft (mem_of_mem_trim hcolon)
  · intro hmark
    exact hslashes (hmark.trans hwithin)

theorem isLabel_of_parse {number : Nat} {raw label : Text}
    (h : (Line.parse number raw).label = some label) : IsLabel label := by
  obtain ⟨d, hd, rfl⟩ := Option.map_eq_some_iff.mp h
  obtain ⟨body, hform, -⟩ := (definition_parse_iff number raw d).mp hd
  exact isLabel_of_form (no_slashes_of_commentCut (commentCut_parse number raw)) hform

/-- A line is cut at its comment in one way, and what stands before the comment is all that its
label and its rule come from. -/
theorem parse_form (number : Nat) (raw : Text) :
    (∃! before, CommentCut raw before (Line.parse number raw).comment) ∧
    (∀ before, CommentCut raw before (Line.parse number raw).comment →
      Says (Line.parse number raw) before) ∧
    (Line.parse number raw).label.isSome = (Line.parse number raw).rule.isSome ∧
    (Line.parse number raw).text = raw ∧ (Line.parse number raw).number = number ∧
    ∀ label, (Line.parse number raw).label = some label → IsLabel label := by
  refine ⟨⟨_, commentCut_parse number raw, ?_⟩, ?_, ?_, rfl, rfl, ?_⟩
  · intro before hcut
    exact eq_of_commentCut_parse hcut
  · intro before hcut
    rw [eq_of_commentCut_parse hcut]
    exact says_parse number raw
  · unfold Line.label Line.rule
    rw [Option.isSome_map, Option.isSome_map]
  · intro label hlabel
    exact isLabel_of_parse hlabel

/-- Of three slashes the first two open the comment, and spaces do not keep marks apart. -/
example : (Line.parse 1 "A: | | && (|||)/// B: C".toList).comment = some "/// B: C".toList ∧
    (Line.parse 1 "A: | | (|||)*".toList).rule =
      some ⟨.disjunction, .zeroOrMore, ["|".toList], false⟩ ∧
    (Line.parse 1 "A: (&& & &)+".toList).rule = none := ⟨rfl, rfl, rfl⟩

end RuleTable.LineForm
