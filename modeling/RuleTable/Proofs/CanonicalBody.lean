import RuleTable.Proofs.Bodies

/-!
Which rules come from bodies. Splitting from the left leaves no mark in an operand and no half of
one at its end, except at the end of the last, and what the kind and the markers of a body say about
a rule leaves the rest free. Every such rule has a canonical body that is read as the rule again.
-/
namespace RuleTable.CanonicalBody

open Text Splitting Doubled Reading Bodies

/-- The operands with marks between them. A disjunction of one operand still needs a mark, and one
in front keeps a conjunction from becoming a token. -/
def canonicalBare (r : Rule) : Text :=
  match r.kind with
  | .disjunction => ['|', '|'] ++ List.intercalate ['|', '|'] r.operands
  | .conjunction => ['&', '&'] ++ List.intercalate ['&', '&'] r.operands
  | .token => List.intercalate ['&', '&'] r.operands

/-- The marker of the frequency, and the least one behind it if markers are mixed. -/
def canonicalMarkers (r : Rule) : Text :=
  sign r.frequency ++ if r.mixedMarkers then ['+'] else []

def canonicalBody (r : Rule) : Text := canonicalBare r ++ canonicalMarkers r

/-- The form of a rule that some body has. -/
structure Readable (r : Rule) : Prop where
  some_operand : r.operands ≠ []
  operand_ne : ∀ operand ∈ r.operands, operand ≠ []
  operand_plain : ∀ operand ∈ r.operands, ∀ c ∈ operand, c ∉ ['(', ')', '*', '?', '+', ' ']
  separable : Separable r.kind.separator r.operands
  no_bars : r.kind ≠ .disjunction → ∀ operand ∈ r.operands, ¬['|', '|'] <:+: operand
  token_head : r.kind = .token → ∃ first others, r.operands = ('_' :: first) :: others
  mixed : r.mixedMarkers = true → r.frequency = .zeroOrMore ∨ r.frequency = .zeroOrOne

theorem readable_of_ofBody? {body : Text} {r : Rule} (h : Rule.ofBody? body = some r) :
    Readable r := by
  obtain ⟨hne, rfl⟩ := (ofBody?_eq_some_iff body r).mp h
  have hsplit : ∀ operand ∈ operandsOf body,
      operand <:+: bareBody body := by
    intro operand hoperand
    rw [← intercalate_splitDoubled (Kind.ofBare (bareBody body)).separator (bareBody body)]
    exact infix_intercalate_of_mem (List.mem_filter.mp hoperand).1
  refine ⟨hne, ?_, ?_, (separable_splitDoubled _ _).filter _, ?_, ?_, frequency_of_mixed⟩
  · intro operand hoperand
    simpa using (List.mem_filter.mp hoperand).2
  · intro operand hoperand c hc
    exact (mem_bareBody_iff.mp ((hsplit operand hoperand).subset hc)).2
  · intro hkind operand hoperand hbars
    exact hkind (ofBare_of_bars (hbars.trans (hsplit operand hoperand)))
  · intro hkind
    dsimp only at hkind ⊢
    have hhead := ((ofBare_eq_token_iff _).mp hkind).1
    obtain ⟨first, others, hpieces⟩ := exists_piece_of_head (d := '&') (by decide) hhead
    unfold operandsOf
    rw [hkind, Kind.separator, hpieces]
    exact ⟨first, _, List.filter_cons_of_pos rfl⟩

theorem bareBody_canonicalMarkers (r : Rule) : bareBody (canonicalMarkers r) = [] := by
  unfold canonicalMarkers
  rw [bareBody_append, bareBody_sign]
  cases r.mixedMarkers <;> rfl

theorem ofBody_canonicalMarkers {r : Rule} (h : Readable r) :
    Frequency.ofBody (canonicalMarkers r) = r.frequency := by
  unfold canonicalMarkers
  cases hmixed : r.mixedMarkers with
  | false => rw [if_neg (by simp), List.append_nil, ofBody_sign]
  | true => rcases h.mixed hmixed with hf | hf <;> rw [hf] <;> rfl

theorem hasMixedMarkers_canonicalMarkers {r : Rule} (h : Readable r) :
    hasMixedMarkers (canonicalMarkers r) = r.mixedMarkers := by
  unfold canonicalMarkers
  cases hmixed : r.mixedMarkers with
  | false => cases r.frequency <;> rfl
  | true => rcases h.mixed hmixed with hf | hf <;> rw [hf] <;> rfl

/-- One form for the three kinds. -/
theorem canonicalBare_eq (r : Rule) :
    canonicalBare r =
      (if r.kind = .token then [] else [r.kind.separator, r.kind.separator]) ++
        List.intercalate [r.kind.separator, r.kind.separator] r.operands := by
  unfold canonicalBare
  cases r.kind <;> rfl

theorem canonicalBare_plain {r : Rule} (h : Readable r) :
    ∀ c ∈ canonicalBare r, c ∉ ['(', ')', '*', '?', '+', ' '] := by
  have hseparator : r.kind.separator ∉ ['(', ')', '*', '?', '+', ' '] := by
    cases r.kind <;> decide
  have hmark : ∀ c ∈ [r.kind.separator, r.kind.separator], c ∉ ['(', ')', '*', '?', '+', ' '] := by
    intro c hc
    obtain rfl : c = r.kind.separator := by simpa using hc
    exact hseparator
  intro c hc
  rw [canonicalBare_eq, List.mem_append] at hc
  rcases hc with hfront | hjoined
  · split at hfront
    · cases hfront
    · exact hmark c hfront
  · rcases mem_sep_or_piece_of_mem_intercalate hjoined with hbetween | ⟨operand, hoperand, hc⟩
    · exact hmark c hbetween
    · exact h.operand_plain operand hoperand c hc

theorem bareBody_canonicalBody {r : Rule} (h : Readable r) :
    bareBody (canonicalBody r) = canonicalBare r := by
  unfold canonicalBody
  rw [bareBody_append, bareBody_of_plain (canonicalBare_plain h), bareBody_canonicalMarkers,
    List.append_nil]

theorem sameMarkers_canonicalBody {r : Rule} (h : Readable r) :
    SameMarkers (canonicalBody r) (canonicalMarkers r) := by
  apply sameMarkers_append
  intro m hm hin
  have hdecoration : m ∈ ['(', ')', '*', '?', '+', ' '] := by
    rw [← isDecoration_iff]
    unfold isDecoration
    simp [hm]
  exact canonicalBare_plain h m hin hdecoration

/-- Marks of one character are none of another. -/
theorem no_mark_of_ne {d e : Char} (hde : d ≠ e) : ¬[d, d] <:+: [e, e] :=
  no_pair_of_not_mem (by simp [hde])

theorem no_mark_intercalate {d e : Char} {pieces : List Text} (hde : d ≠ e)
    (h : ∀ piece ∈ pieces, ¬[d, d] <:+: piece) :
    ¬[d, d] <:+: List.intercalate [e, e] pieces := by
  induction pieces with
  | nil => exact not_pair_infix_short d _ (by simp)
  | cons first others ih =>
    have hfirst := h first (List.mem_cons_self ..)
    cases others with
    | nil => rwa [List.intercalate_singleton]
    | cons second others =>
      have hothers := ih (fun piece hpiece => h piece (List.mem_cons_of_mem _ hpiece))
      rw [List.intercalate_cons_cons, List.append_assoc, pair_infix_append_iff,
        pair_infix_append_iff]
      simp [hfirst, no_mark_of_ne hde, hothers, Ne.symm hde]

theorem ofBare_canonicalBare {r : Rule} (h : Readable r) :
    Kind.ofBare (canonicalBare r) = r.kind := by
  unfold canonicalBare
  cases hkind : r.kind with
  | disjunction => exact ofBare_of_bars (List.infix_append_of_infix_left List.infix_rfl)
  | conjunction =>
    have hbars := no_mark_intercalate (e := '&') (by decide) (h.no_bars (by simp [hkind]))
    have hwhole : ¬['|', '|'] <:+: ['&', '&'] ++ List.intercalate ['&', '&'] r.operands := by
      rw [pair_infix_append_iff]
      simp [hbars, no_mark_of_ne]
    rw [ofBare_of_no_bars hwhole]
    rfl
  | token =>
    have hbars := no_mark_intercalate (e := '&') (by decide) (h.no_bars (by simp [hkind]))
    obtain ⟨first, others, hoperands⟩ := h.token_head hkind
    rw [ofBare_of_no_bars hbars, hoperands, if_pos]
    cases others with
    | nil => rw [List.intercalate_singleton]; rfl
    | cons second others => rw [List.intercalate_cons_cons]; rfl

/-- The operands come back, behind an empty piece where a mark stands in front of them. -/
theorem operands_canonicalBare {r : Rule} (h : Readable r) :
    (splitDoubled r.kind.separator (canonicalBare r)).filter (! ·.isEmpty) = r.operands := by
  have hkept : r.operands.filter (! ·.isEmpty) = r.operands := by
    rw [List.filter_eq_self]
    intro operand hoperand
    simpa using h.operand_ne operand hoperand
  have hsplit := splitDoubled_intercalate h.some_operand h.separable
  rw [canonicalBare_eq]
  by_cases hkind : r.kind = .token
  · rw [if_pos hkind, List.nil_append, hsplit, hkept]
  · have hfront := splitDoubled_append_mark (d := r.kind.separator)
      (not_pair_infix_short _ ([] ++ [r.kind.separator]) (by simp))
    rw [if_neg hkind]
    rw [List.nil_append] at hfront
    rw [hfront, hsplit, List.filter_cons_of_neg (by simp), hkept]

theorem ofBody?_canonicalBody {r : Rule} (h : Readable r) :
    Rule.ofBody? (canonicalBody r) = some r := by
  have hbare := bareBody_canonicalBody h
  have hkind : Kind.ofBare (bareBody (canonicalBody r)) = r.kind := by
    rw [hbare]
    exact ofBare_canonicalBare h
  have hoperands := operands_canonicalBare h
  rw [← hbare] at hoperands
  rw [ofBody?_eq (sameMarkers_canonicalBody h) hkind hoperands, if_neg h.some_operand,
    ofBody_canonicalMarkers h, hasMixedMarkers_canonicalMarkers h]

/-- The rules that bodies have are those of the readable form, and the canonical body of each is
read as that rule. -/
theorem ofBody?_image (r : Rule) :
    ((∃ body, Rule.ofBody? body = some r) ↔ Readable r) ∧
    (Readable r ↔ Rule.ofBody? (canonicalBody r) = some r) := by
  have hreadable : (∃ body, Rule.ofBody? body = some r) → Readable r := by
    rintro ⟨body, hbody⟩
    exact readable_of_ofBody? hbody
  exact ⟨⟨hreadable, fun h => ⟨_, ofBody?_canonicalBody h⟩⟩,
    ⟨ofBody?_canonicalBody, fun h => hreadable ⟨_, h⟩⟩⟩

/-- Operands may begin with half a mark, and only the last may end in one. -/
example : Rule.ofBody? "|||a&&||&|?+".toList =
    some ⟨.disjunction, .zeroOrOne, ["|a&&".toList, "&|".toList], true⟩ := rfl

end RuleTable.CanonicalBody
