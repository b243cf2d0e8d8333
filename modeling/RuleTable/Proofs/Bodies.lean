import RuleTable.Proofs.Reading

/-!
What a body says. Its bare text settles the kind and the operands: a body names an operand unless
nothing is left of it but one kind of mark, any number of times.
-/
namespace RuleTable.Bodies

open Text Doubled Reading

variable {body : Text}

theorem isDecoration_iff (c : Char) :
    isDecoration c = true ↔ c ∈ ['(', ')', '*', '?', '+', ' '] := by
  unfold isDecoration repetitionMarkers
  simp only [decide_eq_true_eq, List.mem_cons]
  grind

theorem bareBody_eq_filter (body : Text) :
    bareBody body = body.filter (fun c => c ∉ ['(', ')', '*', '?', '+', ' ']) := by
  unfold bareBody
  congr 1
  funext c
  have hsame : decide (c ∈ ['(', ')', '*', '?', '+', ' ']) = isDecoration c := by
    rw [Bool.eq_iff_iff, decide_eq_true_eq, isDecoration_iff]
  rw [decide_not, hsame]

theorem mem_bareBody_iff {c : Char} :
    c ∈ bareBody body ↔ c ∈ body ∧ c ∉ ['(', ')', '*', '?', '+', ' '] := by
  rw [bareBody_eq_filter, List.mem_filter, decide_eq_true_eq]

theorem ofBare_of_bars {bare : Text} (h : ['|', '|'] <:+: bare) :
    Kind.ofBare bare = .disjunction :=
  if_pos ((hasDoubled_iff _ _).mpr h)

theorem ofBare_of_no_bars {bare : Text} (h : ¬['|', '|'] <:+: bare) :
    Kind.ofBare bare = if bare.head? = some '_' then .token else .conjunction :=
  if_neg (mt (hasDoubled_iff _ _).mp h)

theorem ofBare_eq_disjunction_iff (bare : Text) :
    Kind.ofBare bare = .disjunction ↔ ['|', '|'] <:+: bare := by
  refine ⟨?_, ofBare_of_bars⟩
  intro hkind
  by_contra hbars
  rw [ofBare_of_no_bars hbars] at hkind
  split at hkind <;> cases hkind

theorem ofBare_eq_token_iff (bare : Text) :
    Kind.ofBare bare = .token ↔ bare.head? = some '_' ∧ ¬['|', '|'] <:+: bare := by
  by_cases hbars : ['|', '|'] <:+: bare
  · simp [ofBare_of_bars hbars, hbars]
  · simp [ofBare_of_no_bars hbars, hbars]

theorem separator_of_ne_disjunction {kind : Kind} (h : kind ≠ .disjunction) :
    kind.separator = '&' := by
  cases kind with
  | disjunction => exact absurd rfl h
  | token => rfl
  | conjunction => rfl

/-- A text of marks and nothing else. -/
def IsMarks (d : Char) (s : Text) : Prop := ∃ k, s = (List.replicate k [d, d]).flatten

/-- Something is left of the body that is not the marks of one kind only. -/
def NamesOperand (body : Text) : Prop :=
  let bare := body.filter (fun c => c ∉ ['(', ')', '*', '?', '+', ' '])
  bare ≠ [] ∧ ¬IsMarks '|' bare ∧ ¬IsMarks '&' bare

theorem eq_of_mem_marks {c d : Char} {s : Text} (h : IsMarks d s) (hc : c ∈ s) : c = d := by
  obtain ⟨k, rfl⟩ := h
  obtain ⟨mark, hmark, hin⟩ := List.mem_flatten.mp hc
  rw [List.eq_of_mem_replicate hmark] at hin
  simpa using hin

/-- Marks of the other kind never decide how a text of marks is split. -/
theorem isMarks_separator_iff (bare : Text) :
    IsMarks (Kind.ofBare bare).separator bare ↔
      bare = [] ∨ IsMarks '|' bare ∨ IsMarks '&' bare := by
  constructor
  · intro h
    cases hkind : Kind.ofBare bare <;> rw [hkind] at h
    · exact Or.inr (Or.inr h)
    · exact Or.inr (Or.inr h)
    · exact Or.inr (Or.inl h)
  · rintro (rfl | ⟨k, hk⟩ | h)
    · exact ⟨0, rfl⟩
    · cases k with
      | zero => exact ⟨0, hk⟩
      | succ k =>
        have hbars : ['|', '|'] <:+: bare := by
          rw [hk, List.replicate_succ, List.flatten_cons]
          exact List.infix_append_of_infix_left List.infix_rfl
        rw [ofBare_of_bars hbars]
        exact ⟨k + 1, hk⟩
    · have hkind : Kind.ofBare bare ≠ .disjunction := by
        rw [ne_eq, ofBare_eq_disjunction_iff]
        apply no_pair_of_not_mem
        intro hbar
        exact absurd (eq_of_mem_marks h hbar) (by decide)
      rw [separator_of_ne_disjunction hkind]
      exact h

theorem operandsOf_eq_nil_iff :
    operandsOf body = [] ↔
      IsMarks (Kind.ofBare (bareBody body)).separator (bareBody body) := by
  unfold operandsOf IsMarks
  rw [← splitDoubled_all_nil_iff, List.filter_eq_nil_iff]
  simp

/-- There is a rule in a body exactly if the body names an operand. -/
theorem exists_ofBody?_iff (body : Text) :
    (∃ r, Rule.ofBody? body = some r) ↔ NamesOperand body := by
  have hsome : (∃ r, Rule.ofBody? body = some r) ↔ operandsOf body ≠ [] := by
    simp only [ofBody?_eq_some_iff, exists_and_left, exists_eq, and_true]
  rw [hsome, ne_eq, operandsOf_eq_nil_iff, isMarks_separator_iff, not_or, not_or,
    bareBody_eq_filter]
  rfl

/-- The same repetition markers stand in both bodies, wherever they do. -/
def SameMarkers (body body' : Text) : Prop :=
  ∀ m ∈ repetitionMarkers, m ∈ body ↔ m ∈ body'

theorem SameMarkers.frequency {body' : Text} (h : SameMarkers body body') :
    Frequency.ofBody body = Frequency.ofBody body' := by
  have hstar := h '*' (by decide)
  have hquestion := h '?' (by decide)
  have hplus := h '+' (by decide)
  unfold Frequency.ofBody
  simp only [hstar, hquestion, hplus]

theorem SameMarkers.mixed {body' : Text} (h : SameMarkers body body') :
    hasMixedMarkers body = hasMixedMarkers body' := by
  unfold hasMixedMarkers
  rw [List.filter_congr]
  intro m hm
  rw [decide_eq_decide]
  exact h m hm

theorem sameMarkers_append {s : Text} (h : ∀ m ∈ repetitionMarkers, m ∉ s) (t : Text) :
    SameMarkers (s ++ t) t := by
  intro m hm
  rw [List.mem_append]
  exact or_iff_right (h m hm)

/-- The marker that a body of this frequency ends in. -/
def sign : Frequency → Text
  | .one => []
  | .oneOrMore => ['+']
  | .zeroOrOne => ['?']
  | .zeroOrMore => ['*']

theorem ofBody_sign (f : Frequency) : Frequency.ofBody (sign f) = f := by
  cases f <;> rfl

theorem bareBody_sign (f : Frequency) : bareBody (sign f) = [] := by
  cases f <;> rfl

/-- Mixed markers never leave the least of them to take effect. -/
theorem frequency_of_mixed (h : hasMixedMarkers body = true) :
    Frequency.ofBody body = .zeroOrMore ∨ Frequency.ofBody body = .zeroOrOne := by
  unfold Frequency.ofBody
  by_cases hstar : '*' ∈ body
  · exact Or.inl (if_pos hstar)
  · by_cases hquestion : '?' ∈ body
    · exact Or.inr (by rw [if_neg hstar, if_pos hquestion])
    · by_cases hplus : '+' ∈ body
      · simp [hasMixedMarkers, repetitionMarkers, hstar, hquestion, hplus] at h
      · simp [hasMixedMarkers, repetitionMarkers, hstar, hquestion, hplus] at h

theorem bareBody_append (s t : Text) : bareBody (s ++ t) = bareBody s ++ bareBody t :=
  List.filter_append s t

theorem bareBody_of_plain {s : Text} (h : ∀ c ∈ s, c ∉ ['(', ')', '*', '?', '+', ' ']) :
    bareBody s = s := by
  rw [bareBody_eq_filter, List.filter_eq_self]
  intro c hc
  exact decide_eq_true (h c hc)

theorem bareBody_intercalate (sep : Text) (pieces : List Text) :
    bareBody (List.intercalate sep pieces) =
      List.intercalate (bareBody sep) (pieces.map bareBody) := by
  induction pieces with
  | nil => rfl
  | cons first others ih =>
    cases others with
    | nil => rw [List.map_singleton, List.intercalate_singleton, List.intercalate_singleton]
    | cons second others =>
      rw [List.map_cons, List.map_cons, List.intercalate_cons_cons, List.intercalate_cons_cons,
        bareBody_append, bareBody_append, ih, List.map_cons]

/-- The kind and the pieces of the bare body and the markers settle what a body says. -/
theorem ofBody?_eq {markers : Text} {kind : Kind} {operands : List Text}
    (hmarkers : SameMarkers body markers) (hkind : Kind.ofBare (bareBody body) = kind)
    (hoperands :
      (splitDoubled kind.separator (bareBody body)).filter (! ·.isEmpty) = operands) :
    Rule.ofBody? body = if operands = [] then none else
      some ⟨kind, Frequency.ofBody markers, operands, hasMixedMarkers markers⟩ := by
  have hsame : operandsOf body = operands := by
    unfold operandsOf
    rw [hkind, hoperands]
  have hempty : operands.isEmpty = decide (operands = []) := by
    cases operands <;> rfl
  unfold Rule.ofBody?
  change (if (operandsOf body).isEmpty then none else some (Rule.mk _ _ (operandsOf body) _)) = _
  rw [hsame, hkind, hmarkers.frequency, hmarkers.mixed]
  simp only [hempty, decide_eq_true_eq]

end RuleTable.Bodies
