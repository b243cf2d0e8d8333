import RuleTable.Line
import RuleTable.Proofs.Doubled
import RuleTable.Proofs.Trimming

/-!
When a line defines a rule, and where what it says comes from. A definition is read from exactly
one colon with a label and operands around it, and its texts are made of characters of the line,
so whatever the line does not hold is in no label, no operand and no comment.
-/
namespace RuleTable.Reading

open Text Splitting Doubled Trimming

theorem mem_of_mem_trim {s : Text} {c : Char} (h : c ∈ trim s) : c ∈ s :=
  (trim_isInfix s).subset h

/-- Trimming leaves nothing exactly of a blank text. -/
theorem trim_eq_nil_iff (s : Text) : trim s = [] ↔ isBlank s = true := by
  unfold trim trimEnd trimStart isBlank
  rw [List.reverse_eq_nil_iff, List.dropWhile_eq_nil_iff, List.all_eq_true]
  simp only [List.mem_reverse]
  constructor
  · intro h c hc
    rw [← List.takeWhile_append_dropWhile (p := isBlankChar) (l := s)] at hc
    rcases List.mem_append.mp hc with hblank | hrest
    · exact List.mem_takeWhile_imp hblank
    · exact h c hrest
  · intro h c hc
    exact h c (List.dropWhile_subset _ hc)

theorem mem_of_mem_splitDoubled {d c : Char} {s piece : Text} (h : piece ∈ splitDoubled d s)
    (hc : c ∈ piece) : c ∈ s := by
  rw [← intercalate_splitDoubled d s]
  exact mem_intercalate_of_mem h hc

/-- The pieces of a body that name something. -/
def operandsOf (body : Text) : List Text :=
  (splitDoubled (Kind.ofBare (bareBody body)).separator (bareBody body)).filter (! ·.isEmpty)

theorem ofBody?_eq_some_iff (body : Text) (r : Rule) :
    Rule.ofBody? body = some r ↔
      operandsOf body ≠ [] ∧ r = ⟨Kind.ofBare (bareBody body), Frequency.ofBody body,
        operandsOf body, hasMixedMarkers body⟩ := by
  unfold Rule.ofBody?
  change (if (operandsOf body).isEmpty then none else
    some (Rule.mk (Kind.ofBare (bareBody body)) (Frequency.ofBody body) (operandsOf body)
      (hasMixedMarkers body))) = some r ↔ _
  by_cases hnone : operandsOf body = []
  · simp [hnone]
  · rw [if_neg (by simpa using hnone), Option.some.injEq]
    exact ⟨fun h => ⟨hnone, h.symm⟩, fun h => h.2.symm⟩

theorem mem_of_mem_operand {body operand : Text} {r : Rule} {c : Char}
    (h : Rule.ofBody? body = some r) (hoperand : operand ∈ r.operands) (hc : c ∈ operand) :
    c ∈ body := by
  obtain ⟨-, rfl⟩ := (ofBody?_eq_some_iff body r).mp h
  have hpiece := (List.mem_filter.mp hoperand).1
  exact (List.mem_filter.mp (mem_of_mem_splitDoubled hpiece hc)).1

/-- A text defines a rule exactly if it is two texts around its only colon, the first with a label
and the second with a rule in it. -/
theorem ofText_eq_defines_iff (s : Text) (d : Definition) :
    Reading.ofText s = .defines d ↔
      ∃ left right, s = left ++ ':' :: right ∧ ':' ∉ left ∧ ':' ∉ right ∧ trim left ≠ [] ∧
        d.label = trim left ∧ trim right ≠ [] ∧ Rule.ofBody? (trim right) = some d.rule := by
  constructor
  · intro h
    unfold Reading.ofText at h
    split at h
    · next left right hsplit =>
      obtain ⟨hs, hleft, hright⟩ := splitOn_eq_pair_iff.mp hsplit
      dsimp only at h
      split at h
      · cases h
      · next hparts =>
        simp only [Bool.or_eq_true, List.isEmpty_iff, not_or] at hparts
        split at h
        · next rule hrule =>
          cases h
          exact ⟨left, right, hs, hleft, hright, hparts.1, rfl, hparts.2, hrule⟩
        · cases h
    · split at h <;> cases h
  · intro h
    obtain ⟨left, right, hs, hleft, hright, hlabel, hd, hbody, hrule⟩ := h
    unfold Reading.ofText
    rw [splitOn_eq_pair_iff.mpr ⟨hs, hleft, hright⟩]
    obtain ⟨label, rule⟩ := d
    dsimp only at hd hrule ⊢
    subst hd
    simp [hlabel, hbody, hrule]

theorem definition?_eq_some_iff (r : Reading) (d : Definition) :
    r.definition? = some d ↔ r = .defines d := by
  cases r <;> simp [Reading.definition?]

/-- Two parts around the only colon define what there is in the second. -/
theorem definition?_ofText {left right : Text} (hleft : ':' ∉ left) (hright : ':' ∉ right)
    (hlabel : trim left ≠ []) (hbody : trim right ≠ []) :
    (Reading.ofText (left ++ ':' :: right)).definition? =
      (Rule.ofBody? (trim right)).map (Definition.mk (trim left)) := by
  unfold Reading.ofText
  rw [splitOn_eq_pair_iff.mpr ⟨rfl, hleft, hright⟩]
  dsimp only
  rw [if_neg (by simp [hlabel, hbody])]
  cases Rule.ofBody? (trim right) <;> rfl

/-- A definition has exactly one colon. -/
theorem definition?_eq_none_of_count {s : Text} (h : s.count ':' ≠ 1) :
    (Reading.ofText s).definition? = none := by
  unfold Reading.ofText
  split
  · next left right hsplit =>
    have hlength := length_splitOn ':' s
    rw [hsplit] at hlength
    exact absurd (Nat.succ.inj hlength).symm h
  · split <;> rfl

theorem ofText_eq_blank_iff (s : Text) : Reading.ofText s = .blank ↔ isBlank s = true := by
  unfold Reading.ofText
  split
  · next left right hsplit =>
    obtain ⟨rfl, -, -⟩ := splitOn_eq_pair_iff.mp hsplit
    have hcolon : ¬isBlank (left ++ ':' :: right) = true := by
      intro hblank
      have := List.all_eq_true.mp hblank ':' (by simp)
      exact absurd this (by decide)
    refine iff_of_false ?_ hcolon
    dsimp only
    split
    · simp
    · split <;> simp
  · split <;> simp_all

theorem colon_not_mem_operand {s : Text} {d : Definition} (h : Reading.ofText s = .defines d) :
    ∀ operand ∈ d.rule.operands, ':' ∉ operand := by
  obtain ⟨left, right, -, -, hright, -, -, -, hrule⟩ := (ofText_eq_defines_iff s d).mp h
  intro operand hoperand hcolon
  exact hright (mem_of_mem_trim (mem_of_mem_operand hrule hoperand hcolon))

/-- Labels and operands say nothing that the line does not say. -/
theorem mem_of_definition {s : Text} {d : Definition} {c : Char}
    (h : Reading.ofText s = .defines d)
    (hc : c ∈ d.label ∨ ∃ operand ∈ d.rule.operands, c ∈ operand) : c ∈ s := by
  obtain ⟨left, right, rfl, -, -, -, hlabel, -, hrule⟩ := (ofText_eq_defines_iff s d).mp h
  rcases hc with hc | ⟨operand, hoperand, hc⟩
  · rw [hlabel] at hc
    have hleft := mem_of_mem_trim hc
    simp [hleft]
  · have hright := mem_of_mem_trim (mem_of_mem_operand hrule hoperand hc)
    simp [hright]

theorem mem_of_parse_definition {number : Nat} {raw : Text} {d : Definition} {c : Char}
    (h : (Line.parse number raw).definition = some d)
    (hc : c ∈ d.label ∨ ∃ operand ∈ d.rule.operands, c ∈ operand) : c ∈ raw := by
  have hreading := (definition?_eq_some_iff _ _).mp h
  have hbefore := mem_of_definition hreading hc
  rw [← cutDoubled_append '/' raw]
  exact List.mem_append_left _ hbefore

/-- A comment is the end of the line from a doubled slash on. -/
theorem parse_comment_eq_some {number : Nat} {raw comment : Text}
    (h : (Line.parse number raw).comment = some comment) :
    ∃ before, raw = before ++ comment ∧ ['/', '/'] <+: comment := by
  obtain ⟨hraw, hmark, -⟩ := cutDoubled_some (Prod.ext rfl h)
  exact ⟨_, hraw, hmark⟩

/-- What a line has behind its definition is nothing or its comment. -/
theorem comment_getD (number : Nat) (raw : Text) :
    (Line.parse number raw).comment.getD [] = [] ∨
      ['/', '/'] <+: (Line.parse number raw).comment.getD [] := by
  cases h : (Line.parse number raw).comment with
  | none => exact Or.inl rfl
  | some comment =>
    obtain ⟨-, -, hmark⟩ := parse_comment_eq_some h
    exact Or.inr hmark

end RuleTable.Reading
