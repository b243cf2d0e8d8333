import RuleTable.Proofs.LineForm

/-!
A rule written out as `label: (first && second)* // comment`, or with `||` for `&&`, is read back
as it is written. Pieces may be empty and are then left out; a comment may hold anything.
-/
namespace RuleTable.WrittenRule

open Text Splitting Doubled Trimming Reading Bodies LineForm

variable {d : Char} {label : Text} {pieces : List Text}

/-- The pieces with a mark between blanks from one to the next. -/
def parenthesized (d : Char) (pieces : List Text) : Text :=
  ['('] ++ List.intercalate [' ', d, d, ' '] pieces ++ [')']

def writtenBody (d : Char) (pieces : List Text) (f : Frequency) : Text :=
  parenthesized d pieces ++ sign f

/-- What stands behind the body: nothing, or a comment with a blank before it. -/
def writtenComment : Option Text → Text
  | none => []
  | some c => [' '] ++ (['/', '/'] ++ c)

def writtenLine (label : Text) (d : Char) (pieces : List Text) (f : Frequency)
    (comment : Option Text) : Text :=
  label ++ [':', ' '] ++ writtenBody d pieces f ++ writtenComment comment

/-- The characters that mean something in a line. -/
def reserved : List Char := ['(', ')', '*', '?', '+', ' ', ':', '&', '|', '/']

/-- A piece of a rule, which may be empty. -/
def IsPiece (piece : Text) : Prop := ∀ c ∈ piece, c ∉ reserved

/-- What was written comes back: the comment, and the label and a rule of the pieces that are not
empty, unless all of them are. -/
structure ReadBack (l : Line) (label : Text) (kind : Kind) (pieces : List Text) (f : Frequency)
    (comment : Option Text) : Prop where
  comment : l.comment = comment.map (['/', '/'] ++ ·)
  rule : (∃ piece ∈ pieces, piece ≠ []) →
    l.label = some label ∧ l.rule = some ⟨kind, f, pieces.filter (! ·.isEmpty), false⟩
  no_rule : (∀ piece ∈ pieces, piece = []) → l.label = none ∧ l.rule = none

theorem not_mem_of_isPiece {piece : Text} {c : Char} (h : IsPiece piece) (hc : c ∈ reserved) :
    c ∉ piece := by
  intro hin
  exact h c hin hc

/-- Neither a repetition marker nor what ends a label or a line stands in the parentheses. -/
theorem not_mem_parenthesized (hd : d = '&' ∨ d = '|') (h : ∀ piece ∈ pieces, IsPiece piece)
    {c : Char} (hc : c ∈ ['*', '?', '+', ':', '/']) : c ∉ parenthesized d pieces := by
  have hreserved : ['*', '?', '+', ':', '/'] ⊆ reserved := by simp [reserved]
  have hframe : c ∉ ['('] ∧ c ∉ [' ', d, d, ' '] ∧ c ∉ [')'] := by
    rcases hd with rfl | rfl <;> simp only [List.mem_cons, List.not_mem_nil] at hc ⊢ <;> grind
  unfold parenthesized
  rw [List.mem_append, List.mem_append]
  rintro ((hopen | hin) | hclose)
  · exact hframe.1 hopen
  · rcases mem_sep_or_piece_of_mem_intercalate hin with hmark | ⟨piece, hmem, hin⟩
    · exact hframe.2.1 hmark
    · exact not_mem_of_isPiece (h piece hmem) (hreserved hc) hin
  · exact hframe.2.2 hclose

theorem not_mem_writtenBody (hd : d = '&' ∨ d = '|') (h : ∀ piece ∈ pieces, IsPiece piece)
    (f : Frequency) {c : Char} (hc : c ∈ [':', '/']) : c ∉ writtenBody d pieces f := by
  have hparenthesized : [':', '/'] ⊆ ['*', '?', '+', ':', '/'] := by simp
  have hsign : ∀ c ∈ [':', '/'], c ∉ sign f := by cases f <;> simp [sign]
  unfold writtenBody
  rw [List.mem_append, not_or]
  exact ⟨not_mem_parenthesized hd h (hparenthesized hc), hsign c hc⟩

theorem trimmed_writtenBody (f : Frequency) : Trimmed (writtenBody d pieces f) where
  head := by
    intro c hc
    obtain rfl : '(' = c := Option.some.inj hc
    decide
  last := by
    intro c hc
    unfold writtenBody parenthesized at hc
    rw [List.getLast?_append, List.getLast?_concat] at hc
    cases f <;> cases hc <;> decide

theorem sameMarkers_writtenBody (hd : d = '&' ∨ d = '|') (h : ∀ piece ∈ pieces, IsPiece piece)
    (f : Frequency) : SameMarkers (writtenBody d pieces f) (sign f) := by
  have hmarkers : repetitionMarkers ⊆ ['*', '?', '+', ':', '/'] := by simp [repetitionMarkers]
  apply sameMarkers_append
  intro m hm
  exact not_mem_parenthesized hd h (hmarkers hm)

theorem bareBody_writtenBody (hd : d = '&' ∨ d = '|') (h : ∀ piece ∈ pieces, IsPiece piece)
    (f : Frequency) : bareBody (writtenBody d pieces f) = List.intercalate [d, d] pieces := by
  have hmark : bareBody [' ', d, d, ' '] = [d, d] := by
    rcases hd with rfl | rfl <;> rfl
  have hplain : ['(', ')', '*', '?', '+', ' '] ⊆ reserved := by simp [reserved]
  have hpieces : pieces.map bareBody = pieces := by
    have hsame : pieces.map bareBody = pieces.map id := by
      apply List.map_congr_left
      intro piece hpiece
      apply bareBody_of_plain
      intro c hc hdecoration
      exact h piece hpiece c hc (hplain hdecoration)
    rwa [List.map_id] at hsame
  have hopen : bareBody ['('] = [] := rfl
  have hclose : bareBody [')'] = [] := rfl
  unfold writtenBody parenthesized
  rw [bareBody_append, bareBody_append, bareBody_append, bareBody_intercalate, bareBody_sign,
    hmark, hpieces, hopen, hclose, List.nil_append, List.append_nil, List.append_nil]

theorem ofBare_bars (h : 2 ≤ pieces.length) :
    Kind.ofBare (List.intercalate ['|', '|'] pieces) = .disjunction := by
  apply ofBare_of_bars
  match pieces, h with
  | first :: second :: others, _ =>
    rw [List.intercalate_cons_cons]
    exact List.infix_append _ _ _

/-- Only the first piece can make a token of what is written with `&&`. -/
theorem ofBare_ands (h : ∀ piece ∈ pieces, IsPiece piece) :
    Kind.ofBare (List.intercalate ['&', '&'] pieces) =
      if (pieces.headD []).head? = some '_' then .token else .conjunction := by
  have hbars : ¬['|', '|'] <:+: List.intercalate ['&', '&'] pieces := by
    apply no_pair_of_not_mem
    intro hbar
    rcases mem_sep_or_piece_of_mem_intercalate hbar with hmark | ⟨piece, hmem, hin⟩
    · exact absurd hmark (by decide)
    · exact not_mem_of_isPiece (h piece hmem) (by decide) hin
  rw [ofBare_of_no_bars hbars]
  match pieces with
  | [] => rfl
  | [first] => rw [List.intercalate_singleton]; rfl
  | [] :: second :: others => rw [List.intercalate_cons_cons]; rfl
  | (c :: first) :: second :: others => rw [List.intercalate_cons_cons]; rfl

theorem ofBody?_writtenBody {kind : Kind}
    (hkind : Kind.ofBare (List.intercalate [d, d] pieces) = kind) (hseparator : kind.separator = d)
    (hne : pieces ≠ []) (h : ∀ piece ∈ pieces, IsPiece piece) (f : Frequency) :
    Rule.ofBody? (writtenBody d pieces f) =
      if pieces.filter (! ·.isEmpty) = [] then none
      else some ⟨kind, f, pieces.filter (! ·.isEmpty), false⟩ := by
  have hd : d = '&' ∨ d = '|' := by
    rw [← hseparator]
    cases kind <;> decide
  have hbare := bareBody_writtenBody hd h f
  have hseparable : Separable d pieces := by
    apply separable_of_not_mem
    intro piece hpiece
    apply not_mem_of_isPiece (h piece hpiece)
    rcases hd with rfl | rfl <;> decide
  have hsplit : splitDoubled kind.separator (bareBody (writtenBody d pieces f)) = pieces := by
    rw [hbare, hseparator, splitDoubled_intercalate hne hseparable]
  have hsign : hasMixedMarkers (sign f) = false := by
    cases f <;> rfl
  rw [← hbare] at hkind
  rw [ofBody?_eq (sameMarkers_writtenBody hd h f) hkind (congrArg _ hsplit), ofBody_sign, hsign]

/-- The part of the line before its comment. -/
def writtenBefore (label : Text) (d : Char) (pieces : List Text) (f : Frequency)
    (comment : Option Text) : Text :=
  label ++ ':' :: ([' '] ++ writtenBody d pieces f ++ comment.elim [] (fun _ => [' ']))

theorem no_slashes_writtenBefore (hlabel : IsLabel label) (hd : d = '&' ∨ d = '|')
    (h : ∀ piece ∈ pieces, IsPiece piece) (f : Frequency) (comment : Option Text) :
    ¬['/', '/'] <:+: writtenBefore label d pieces f comment := by
  have hbody := not_mem_writtenBody hd h f (c := '/') (by decide)
  have hblank : '/' ∉ comment.elim [] (fun _ => [' ']) := by
    cases comment with
    | none => simp
    | some c => simp
  have hbehind : '/' ∉ ':' :: ([' '] ++ writtenBody d pieces f ++
      comment.elim [] (fun _ => [' '])) := by
    simp [hbody, hblank]
  unfold writtenBefore
  rw [pair_infix_append_iff]
  rintro (hslashes | hslashes | ⟨-, hcolon⟩)
  · exact hlabel.no_slashes hslashes
  · exact no_pair_of_not_mem hbehind hslashes
  · exact absurd (Option.some.inj hcolon) (by decide)

/-- The comment opens right behind the blank, whatever it begins with. -/
theorem commentCut_writtenLine (hlabel : IsLabel label) (hd : d = '&' ∨ d = '|')
    (h : ∀ piece ∈ pieces, IsPiece piece) (f : Frequency) (comment : Option Text) :
    CommentCut (writtenLine label d pieces f comment) (writtenBefore label d pieces f comment)
      (comment.map (['/', '/'] ++ ·)) := by
  have hslashes := no_slashes_writtenBefore hlabel hd h f comment
  unfold writtenLine
  cases comment with
  | none =>
    refine Or.inl ⟨?_, hslashes, rfl⟩
    simp [writtenBefore, writtenComment]
  | some c =>
    refine Or.inr ⟨['/', '/'] ++ c, ?_, List.prefix_append _ _, ?_, rfl⟩
    · simp [writtenBefore, writtenComment]
    · have hblank : (writtenBefore label d pieces f (some c)).getLast? = some ' ' := by
        unfold writtenBefore
        rw [Option.elim_some, ← List.cons_append, ← List.append_assoc, List.getLast?_concat]
      rw [pair_infix_concat_iff, hblank]
      rintro (hin | hlast)
      · exact hslashes hin
      · exact absurd (Option.some.inj hlast) (by decide)

theorem definition_writtenBefore (hlabel : IsLabel label) (hd : d = '&' ∨ d = '|')
    (h : ∀ piece ∈ pieces, IsPiece piece) (f : Frequency) (comment : Option Text) :
    (Reading.ofText (writtenBefore label d pieces f comment)).definition? =
      (Rule.ofBody? (writtenBody d pieces f)).map (Definition.mk label) := by
  have hblank : isBlank (comment.elim [] (fun _ => [' '])) = true := by
    cases comment with
    | none => rfl
    | some c => rfl
  have htrimLabel : trim label = label := by
    have htrim : trim ([] ++ label ++ []) = label := trim_padded rfl rfl hlabel.trimmed
    rwa [List.append_nil] at htrim
  have htrimBody : trim ([' '] ++ writtenBody d pieces f ++ comment.elim [] (fun _ => [' '])) =
      writtenBody d pieces f :=
    trim_padded rfl hblank (trimmed_writtenBody f)
  have hbody := not_mem_writtenBody hd h f (c := ':') (by decide)
  have hbehind : ':' ∉ [' '] ++ writtenBody d pieces f ++ comment.elim [] (fun _ => [' ']) := by
    cases comment with
    | none => simp [hbody]
    | some c => simp [hbody]
  have hnonempty : writtenBody d pieces f ≠ [] := by
    unfold writtenBody parenthesized
    simp
  unfold writtenBefore
  rw [definition?_ofText hlabel.no_colon hbehind (by rw [htrimLabel]; exact hlabel.nonempty)
    (by rw [htrimBody]; exact hnonempty), htrimLabel, htrimBody]

theorem readBack_written {kind : Kind} (number : Nat) (hlabel : IsLabel label)
    (hkind : Kind.ofBare (List.intercalate [d, d] pieces) = kind)
    (hseparator : kind.separator = d) (hne : pieces ≠ []) (h : ∀ piece ∈ pieces, IsPiece piece)
    (f : Frequency) (comment : Option Text) :
    ReadBack (Line.parse number (writtenLine label d pieces f comment)) label kind pieces f
      comment := by
  have hd : d = '&' ∨ d = '|' := by
    rw [← hseparator]
    cases kind <;> decide
  have hcut := (commentCut_iff _ _ _).mp (commentCut_writtenLine hlabel hd h f comment)
  have hrule := ofBody?_writtenBody hkind hseparator hne h f
  have hdefinition : (Line.parse number (writtenLine label d pieces f comment)).definition =
      (Rule.ofBody? (writtenBody d pieces f)).map (Definition.mk label) := by
    change (Reading.ofText (cutDoubled '/' _).1).definition? = _
    rw [hcut]
    exact definition_writtenBefore hlabel hd h f comment
  refine ⟨congrArg Prod.snd hcut, ?_, ?_⟩
  · rintro ⟨piece, hpiece, hfull⟩
    have hkept : pieces.filter (! ·.isEmpty) ≠ [] :=
      List.ne_nil_of_mem (List.mem_filter.mpr ⟨hpiece, by simp [hfull]⟩)
    rw [if_neg hkept] at hrule
    unfold Line.label Line.rule
    rw [hdefinition, hrule]
    exact ⟨rfl, rfl⟩
  · intro hempty
    have hkept : pieces.filter (! ·.isEmpty) = [] := by
      rw [List.filter_eq_nil_iff]
      intro piece hpiece
      simp [hempty piece hpiece]
    rw [if_pos hkept] at hrule
    unfold Line.label Line.rule
    rw [hdefinition, hrule]
    exact ⟨rfl, rfl⟩

/-- What is written in the documented syntax is read back: with `&&` as a token if the first piece
starts as one and else as a conjunction, with `||` as a disjunction. -/
theorem parse_written (number : Nat) (hlabel : IsLabel label) (hne : pieces ≠ [])
    (hpieces : ∀ piece ∈ pieces, IsPiece piece) (f : Frequency) (comment : Option Text) :
    ReadBack (Line.parse number (writtenLine label '&' pieces f comment)) label
      (if (pieces.headD []).head? = some '_' then .token else .conjunction) pieces f comment ∧
    (2 ≤ pieces.length →
      ReadBack (Line.parse number (writtenLine label '|' pieces f comment)) label .disjunction
        pieces f comment) := by
  constructor
  · apply readBack_written number hlabel (ofBare_ands hpieces) _ hne hpieces
    split <;> rfl
  · intro hlength
    exact readBack_written number hlabel (ofBare_bars hlength) rfl hne hpieces f comment

/-- A single slash in the label, a comment that begins with one, and a first piece that is empty, so
that the underscore makes no token. -/
theorem parse_written_with_slashes :
    IsLabel "a/b".toList ∧ (∀ piece ∈ [[], "_x".toList, []], IsPiece piece) ∧
    (Line.parse 7 "a/b: ( && _x && )* ///: ||".toList).comment = some "///: ||".toList ∧
    (Line.parse 7 "a/b: ( && _x && )* ///: ||".toList).label = some "a/b".toList ∧
    (Line.parse 7 "a/b: ( && _x && )* ///: ||".toList).rule =
      some ⟨.conjunction, .zeroOrMore, ["_x".toList], false⟩ := by
  have hlabel : IsLabel "a/b".toList := by
    refine ⟨by decide, ⟨?_, ?_⟩, by decide, by decide⟩
    · intro c hc
      cases hc
      decide
    · intro c hc
      cases hc
      decide
  have hpieces : ∀ piece ∈ [[], "_x".toList, []], IsPiece piece := by
    simp [IsPiece, reserved]
  obtain ⟨hread, -⟩ := parse_written 7 hlabel (by simp) hpieces .zeroOrMore (some "/: ||".toList)
  obtain ⟨hname, hrule⟩ := hread.rule ⟨"_x".toList, by simp, by decide⟩
  exact ⟨hlabel, hpieces, hread.comment, hname, hrule⟩

end RuleTable.WrittenRule
