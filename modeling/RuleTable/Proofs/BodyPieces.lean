import Mathlib.Data.List.Infix
import RuleTable.Proofs.Bodies

/-!
The pieces of a body. Without what only decorates it, a body falls apart between its marks in one
way, since no piece may hold a mark and none but the last may end in half of one. The pieces with
something in them are the operands, in their order, and which markers occur anywhere in the body
settles how often the rule matches. Nothing else about the body has a say.
-/
namespace RuleTable.BodyPieces

open Text Doubled Reading Bodies

variable {body s : Text} {d : Char} {pieces : List Text}

/-- The body without parentheses, repetition markers and spaces. -/
def undecorated (body : Text) : Text :=
  body.filter (fun c => c ∉ ['(', ')', '*', '?', '+', ' '])

/-- Operands are parted by `||` if that occurs, and else by `&&`. -/
def operandMark (bare : Text) : Char := if ['|', '|'] <:+: bare then '|' else '&'

/-- The text is these pieces with doubled `d` between them, and they come apart there again. -/
structure IsCut (d : Char) (s : Text) (pieces : List Text) : Prop where
  some_piece : pieces ≠ []
  joined : s = List.intercalate [d, d] pieces
  separable : Separable d pieces

/-- The rule that a body with these pieces is about. -/
structure Expresses (body : Text) (pieces : List Text) (r : Rule) : Prop where
  operands : r.operands = pieces.filter (fun piece => piece ≠ [])
  disjunction : r.kind = .disjunction ↔ ['|', '|'] <:+: undecorated body
  token : r.kind = .token ↔
    (undecorated body).head? = some '_' ∧ ¬['|', '|'] <:+: undecorated body
  frequency : sign r.frequency = (['*', '?', '+'].find? (fun m => m ∈ body)).toList
  mixed : r.mixedMarkers = true ↔
    ∃ m ∈ ['*', '?', '+'], ∃ m' ∈ ['*', '?', '+'], m ≠ m' ∧ m ∈ body ∧ m' ∈ body

theorem undecorated_eq (body : Text) : undecorated body = bareBody body :=
  (bareBody_eq_filter body).symm

theorem operandMark_eq (bare : Text) : operandMark bare = (Kind.ofBare bare).separator := by
  unfold operandMark
  by_cases hbars : ['|', '|'] <:+: bare
  · rw [if_pos hbars, ofBare_of_bars hbars]
    rfl
  · have hkind : Kind.ofBare bare ≠ .disjunction := by
      rwa [ne_eq, ofBare_eq_disjunction_iff]
    rw [if_neg hbars, separator_of_ne_disjunction hkind]

/-- Splitting from the left gives the only cut. -/
theorem isCut_iff : IsCut d s pieces ↔ pieces = splitDoubled d s := by
  constructor
  · intro h
    rw [h.joined, splitDoubled_intercalate h.some_piece h.separable]
  · intro h
    subst h
    exact ⟨splitDoubled_ne_nil d s, (intercalate_splitDoubled d s).symm,
      separable_splitDoubled d s⟩

theorem operandsOf_eq (h : IsCut (operandMark (undecorated body)) (undecorated body) pieces) :
    operandsOf body = pieces.filter (fun piece => piece ≠ []) := by
  rw [isCut_iff, operandMark_eq, undecorated_eq] at h
  subst h
  apply List.filter_congr
  intro piece _
  cases piece <;> rfl

theorem sign_ofBody (body : Text) :
    sign (Frequency.ofBody body) = (['*', '?', '+'].find? (fun m => m ∈ body)).toList := by
  unfold Frequency.ofBody
  by_cases hstar : '*' ∈ body
  · simp [hstar, sign]
  · by_cases hquestion : '?' ∈ body
    · simp [hstar, hquestion, sign]
    · by_cases hplus : '+' ∈ body
      · simp [hstar, hquestion, hplus, sign]
      · simp [hstar, hquestion, hplus, sign]

theorem sign_injective : Function.Injective sign :=
  Function.LeftInverse.injective ofBody_sign

theorem hasMixedMarkers_iff (body : Text) :
    hasMixedMarkers body = true ↔
      ∃ m ∈ ['*', '?', '+'], ∃ m' ∈ ['*', '?', '+'], m ≠ m' ∧ m ∈ body ∧ m' ∈ body := by
  unfold hasMixedMarkers repetitionMarkers
  by_cases hstar : '*' ∈ body <;> by_cases hquestion : '?' ∈ body <;>
    by_cases hplus : '+' ∈ body <;> simp [hstar, hquestion, hplus]

theorem kind_eq_iff (k k' : Kind) :
    k = k' ↔ (k = .disjunction ↔ k' = .disjunction) ∧ (k = .token ↔ k' = .token) := by
  cases k <;> cases k' <;> simp

/-- A body is about one rule only. -/
theorem expresses_iff (r : Rule) :
    Expresses body pieces r ↔
      r = ⟨Kind.ofBare (bareBody body), Frequency.ofBody body,
        pieces.filter (fun piece => piece ≠ []), hasMixedMarkers body⟩ := by
  constructor
  · intro h
    obtain ⟨kind, frequency, operands, mixed⟩ := r
    obtain ⟨rfl, hdisjunction, htoken, hfrequency, hmixed⟩ := h
    rw [undecorated_eq, ← ofBare_eq_disjunction_iff] at hdisjunction
    rw [undecorated_eq, ← ofBare_eq_token_iff] at htoken
    rw [← sign_ofBody] at hfrequency
    rw [← hasMixedMarkers_iff, ← Bool.eq_iff_iff] at hmixed
    rw [Rule.mk.injEq]
    exact ⟨(kind_eq_iff _ _).mpr ⟨hdisjunction, htoken⟩, sign_injective hfrequency, rfl, hmixed⟩
  · intro h
    subst h
    refine ⟨rfl, ?_, ?_, sign_ofBody body, hasMixedMarkers_iff body⟩
    · rw [undecorated_eq]
      exact ofBare_eq_disjunction_iff _
    · rw [undecorated_eq]
      exact ofBare_eq_token_iff _

theorem ofBody?_eq_none_iff (body : Text) : Rule.ofBody? body = none ↔ operandsOf body = [] := by
  rw [Option.eq_none_iff_forall_ne_some]
  simp only [ne_eq, ofBody?_eq_some_iff, not_and]
  constructor
  · intro h
    by_contra hne
    exact h _ hne rfl
  · intro h r hne
    exact absurd h hne

/-- Decoration says nothing by its place or its number. -/
theorem ofBody?_congr {body' : Text} (hbare : bareBody body = bareBody body')
    (hmarkers : SameMarkers body body') : Rule.ofBody? body = Rule.ofBody? body' := by
  have hself : SameMarkers body' body' := fun _ _ => Iff.rfl
  rw [ofBody?_eq hmarkers rfl rfl, ofBody?_eq hself rfl rfl, hbare]

/-- A body is cut into its pieces in one way. It has no rule if all of them are empty, and else the
rule that it expresses by the pieces that are not. Bodies that differ in decoration alone, with the
same markers, say the same. -/
theorem ofBody?_pieces (body : Text) :
    (∃! pieces, IsCut (operandMark (undecorated body)) (undecorated body) pieces) ∧
    (∀ pieces, IsCut (operandMark (undecorated body)) (undecorated body) pieces →
      (Rule.ofBody? body = none ↔ ∀ piece ∈ pieces, piece = []) ∧
      ∀ r, Rule.ofBody? body = some r ↔
        (∃ piece ∈ pieces, piece ≠ []) ∧ Expresses body pieces r) ∧
    ∀ body', undecorated body = undecorated body' → SameMarkers body body' →
      Rule.ofBody? body = Rule.ofBody? body' := by
  refine ⟨⟨_, isCut_iff.mpr rfl, fun _ => isCut_iff.mp⟩, ?_, ?_⟩
  · intro pieces hcut
    have hoperands := operandsOf_eq hcut
    have hempty : operandsOf body = [] ↔ ∀ piece ∈ pieces, piece = [] := by
      rw [hoperands, List.filter_eq_nil_iff]
      simp
    refine ⟨(ofBody?_eq_none_iff body).trans hempty, ?_⟩
    intro r
    have hsome : operandsOf body ≠ [] ↔ ∃ piece ∈ pieces, piece ≠ [] := by
      rw [ne_eq, hempty]
      simp
    rw [ofBody?_eq_some_iff, hsome, expresses_iff, hoperands]
  · intro body' hbare hmarkers
    rw [undecorated_eq, undecorated_eq] at hbare
    exact ofBody?_congr hbare hmarkers

/-- Of three bars, with decoration between them, the first two are the mark, so the last operand
begins with a bar; that the text starts as a token does is of no account. Decoration elsewhere, and
a marker written more often, change nothing. -/
theorem ofBody?_pieces_of_three_bars :
    IsCut '|' "_a|||b&&c".toList ["_a".toList, "|b&&c".toList] ∧
    Rule.ofBody? "_a| |(|b+)*&&c".toList =
      some ⟨.disjunction, .zeroOrMore, ["_a".toList, "|b&&c".toList], true⟩ ∧
    SameMarkers "_a| |(|b+)*&&c".toList "+* _a|(||)b++ && c+".toList ∧
    Rule.ofBody? "+* _a|(||)b++ && c+".toList =
      some ⟨.disjunction, .zeroOrMore, ["_a".toList, "|b&&c".toList], true⟩ := by
  have hcut : IsCut '|' "_a|||b&&c".toList ["_a".toList, "|b&&c".toList] := isCut_iff.mpr rfl
  have hmarkers : SameMarkers "_a| |(|b+)*&&c".toList "+* _a|(||)b++ && c+".toList := by
    simp [SameMarkers, repetitionMarkers]
  obtain ⟨-, hpieces, hsame⟩ := ofBody?_pieces "_a| |(|b+)*&&c".toList
  have hrule := ((hpieces _ hcut).2 _).mpr
    ⟨⟨_, List.mem_cons_self .., by decide⟩, (expresses_iff _).mpr rfl⟩
  have hmoved := hsame "+* _a|(||)b++ && c+".toList rfl hmarkers
  exact ⟨hcut, hrule, hmarkers, hmoved.symm.trans hrule⟩

end RuleTable.BodyPieces
