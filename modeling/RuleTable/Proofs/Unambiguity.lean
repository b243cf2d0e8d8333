import RuleTable.Proofs.CanonicalBody
import RuleTable.Proofs.Generation

/-!
Labels and operands are pasted into a registration as they are, and yet it tells them apart.
Operands hold no space, so a space in a call is followed by `v` or by a quote, and the last space
followed by `c` parts the label from the call. What stands before the first bracket of a call is its
entry of the table, and the spaces behind are those between operands.
-/
namespace RuleTable.Unambiguity

open Text Splitting Doubled Reading Bodies Generation

variable {operands operands' : List Text}

theorem operandText_cons_cons (first second : Text) (others : List Text) :
    operandText (first :: second :: others) =
      (quote first ++ [',']) ++ ' ' :: operandText (second :: others) := by
  simp [operandText]

theorem operandText_singleton (operand : Text) : operandText [operand] = quote operand := rfl

theorem space_not_mem_quote {operand : Text} (h : ' ' ∉ operand) : ' ' ∉ quote operand := by
  unfold quote
  simp [h]

theorem head?_operandText (first : Text) (others : List Text) :
    (operandText (first :: others)).head? = some '"' := by
  cases others with
  | nil => rfl
  | cons second others => rw [operandText_cons_cons]; rfl

theorem quote_injective {operand operand' : Text} (h : quote operand = quote operand') :
    operand = operand' :=
  List.append_cancel_left (List.append_cancel_right h)

/-- The operands come back from their list, whatever else they hold besides spaces. -/
theorem operandText_injective (h : ∀ operand ∈ operands, ' ' ∉ operand)
    (h' : ∀ operand ∈ operands', ' ' ∉ operand)
    (heq : operandText operands = operandText operands') : operands = operands' := by
  induction operands generalizing operands' with
  | nil =>
    cases operands' with
    | nil => rfl
    | cons first' others' =>
      have hhead := head?_operandText first' others'
      rw [← heq] at hhead
      cases hhead
  | cons first others ih =>
    have hfirst := space_not_mem_quote (h first (List.mem_cons_self ..))
    cases operands' with
    | nil =>
      have hhead := head?_operandText first others
      rw [heq] at hhead
      cases hhead
    | cons first' others' =>
      have hfirst' := space_not_mem_quote (h' first' (List.mem_cons_self ..))
      -- The comma behind an operand is there only if another follows; with it comes a space.
      match others, others' with
      | [], [] =>
        rw [operandText_singleton, operandText_singleton] at heq
        rw [quote_injective heq]
      | [], second' :: others' =>
        rw [operandText_singleton, operandText_cons_cons] at heq
        rw [heq] at hfirst
        simp at hfirst
      | second :: others, [] =>
        rw [operandText_singleton, operandText_cons_cons] at heq
        rw [← heq] at hfirst'
        simp at hfirst'
      | second :: others, second' :: others' =>
        rw [operandText_cons_cons, operandText_cons_cons] at heq
        obtain ⟨hquote, hrest⟩ := cut_unique (by simp [hfirst]) (by simp [hfirst']) heq
        have hothers := ih (fun operand hmem => h operand (List.mem_cons_of_mem _ hmem))
          (fun operand hmem => h' operand (List.mem_cons_of_mem _ hmem)) hrest
        rw [quote_injective (List.append_cancel_right hquote), hothers]

/-- Every space between operands is followed by a quote. -/
theorem no_call_in_operandText (h : ∀ operand ∈ operands, ' ' ∉ operand) :
    ¬[' ', 'c'] <:+: operandText operands := by
  induction operands with
  | nil => exact no_pair_of_not_mem (by simp [operandText])
  | cons first others ih =>
    have hfirst := space_not_mem_quote (h first (List.mem_cons_self ..))
    cases others with
    | nil =>
      rw [operandText_singleton]
      exact no_pair_of_not_mem hfirst
    | cons second others =>
      have hothers := ih (fun operand hmem => h operand (List.mem_cons_of_mem _ hmem))
      have hbefore : ¬[' ', 'c'] <:+: quote first ++ [','] := by
        apply no_pair_of_not_mem
        simp [hfirst]
      have hspace : ¬[' ', 'c'] <:+: [' '] ++ operandText (second :: others) := by
        have hshort : ¬[' ', 'c'] <:+: [' '] := by decide
        rw [pair_infix_append_iff, head?_operandText]
        simp [hshort, hothers]
      have hcomma : (quote first ++ [',']).getLast? ≠ some ' ' := by
        rw [List.getLast?_concat]
        decide
      rw [operandText_cons_cons, pair_infix_append_iff]
      rintro (hin | hin | ⟨hlast, -⟩)
      · exact hbefore hin
      · exact hspace hin
      · exact hcomma hlast

/-- How calls begin: with `c`, up to the only bracket, and not with `c` behind a space. -/
theorem callOpening_form {kind : Kind} {frequency : Frequency} {opening : Text}
    (h : callOpening? kind frequency = some opening) :
    ∃ name, opening = ('c' :: name) ++ ['['] ∧ '[' ∉ 'c' :: name ∧ ¬[' ', 'c'] <:+: opening := by
  refine ⟨opening.tail.dropLast, ?_⟩
  cases kind <;> cases frequency <;> cases h <;> rw [String.toList_ofList] <;> decide +kernel

/-- The table of calls read backwards. -/
def entry? (opening : Text) : Option (Kind × Frequency) :=
  let entries := [Kind.token, .conjunction, .disjunction].flatMap (fun kind =>
    [Frequency.one, .oneOrMore, .zeroOrOne, .zeroOrMore].map (fun frequency => (kind, frequency)))
  entries.find? (fun entry => callOpening? entry.1 entry.2 = some opening)

theorem entry?_callOpening {kind : Kind} {frequency : Frequency} {opening : Text}
    (h : callOpening? kind frequency = some opening) : entry? opening = some (kind, frequency) := by
  cases kind <;> cases frequency <;> cases h <;> decide +kernel

/-- The call of a registration with what closes it. -/
def callText (opening : Text) (d : Definition) : Text :=
  opening ++ operandText d.rule.operands ++ "]));"

theorem registration_eq (opening : Text) (d : Definition) :
    registration opening d =
      ("result.insert(\"" ++ d.label ++ ['"', ',']) ++ ' ' :: callText opening d := by
  unfold registration callText
  have hcomma : ("\", " : Text) = ['"', ',', ' '] := rfl
  rw [hcomma]
  simp

theorem no_call_in_callText {kind : Kind} {frequency : Frequency} {opening : Text} {d : Definition}
    (hopening : callOpening? kind frequency = some opening)
    (h : ∀ operand ∈ d.rule.operands, ' ' ∉ operand) : ¬[' ', 'c'] <:+: callText opening d := by
  obtain ⟨name, hform, -, hname⟩ := callOpening_form hopening
  have hclosing : ¬[' ', 'c'] <:+: ("]));" : Text) := by decide +kernel
  have hlist := no_call_in_operandText h
  have hbracket : opening.getLast? = some '[' := by
    rw [hform, List.getLast?_concat]
  unfold callText
  rw [pair_infix_append_iff, pair_infix_append_iff, hbracket]
  rintro ((hin | hin | ⟨hlast, -⟩) | hin | ⟨-, hhead⟩)
  · exact hname hin
  · exact hlist hin
  · exact absurd (Option.some.inj hlast) (by decide)
  · exact hclosing hin
  · exact absurd (Option.some.inj hhead) (by decide)

/-- A call is told from its text: its entry of the table and its operands. -/
theorem callText_injective {kind kind' : Kind} {frequency frequency' : Frequency}
    {opening opening' : Text} {d d' : Definition}
    (hopening : callOpening? kind frequency = some opening)
    (hopening' : callOpening? kind' frequency' = some opening')
    (h : ∀ operand ∈ d.rule.operands, ' ' ∉ operand)
    (h' : ∀ operand ∈ d'.rule.operands, ' ' ∉ operand)
    (heq : callText opening d = callText opening' d') :
    kind = kind' ∧ frequency = frequency' ∧ d.rule.operands = d'.rule.operands := by
  obtain ⟨name, hform, hbracket, -⟩ := callOpening_form hopening
  obtain ⟨name', hform', hbracket', -⟩ := callOpening_form hopening'
  unfold callText at heq
  have hcut : ('c' :: name) ++ '[' :: (operandText d.rule.operands ++ "]));") =
      ('c' :: name') ++ '[' :: (operandText d'.rule.operands ++ "]));") := by
    simpa [hform, hform'] using heq
  obtain ⟨hname, hlist⟩ := cut_unique hbracket hbracket' hcut
  have hentry := entry?_callOpening hopening
  rw [hform, hname, ← hform', entry?_callOpening hopening'] at hentry
  obtain ⟨rfl, rfl⟩ := Prod.mk.inj (Option.some.inj hentry)
  exact ⟨rfl, rfl, operandText_injective h h' (List.append_cancel_right hlist)⟩

theorem exists_callText_eq_cons {kind : Kind} {frequency : Frequency} {opening : Text}
    (hopening : callOpening? kind frequency = some opening) (d : Definition) :
    ∃ rest, callText opening d = 'c' :: rest := by
  obtain ⟨name, rfl, -⟩ := callOpening_form hopening
  exact ⟨_, rfl⟩

/-- The label ends before the last space that `c` follows, whatever the label holds. -/
theorem registration_injective {kind kind' : Kind} {frequency frequency' : Frequency}
    {opening opening' : Text} {d d' : Definition}
    (hopening : callOpening? kind frequency = some opening)
    (hopening' : callOpening? kind' frequency' = some opening')
    (h : ∀ operand ∈ d.rule.operands, ' ' ∉ operand)
    (h' : ∀ operand ∈ d'.rule.operands, ' ' ∉ operand)
    (heq : registration opening d = registration opening' d') :
    d.label = d'.label ∧ kind = kind' ∧ frequency = frequency' ∧
      d.rule.operands = d'.rule.operands := by
  have hno := no_call_in_callText hopening h
  have hno' := no_call_in_callText hopening' h'
  obtain ⟨rest, hrest⟩ := exists_callText_eq_cons hopening d
  obtain ⟨rest', hrest'⟩ := exists_callText_eq_cons hopening' d'
  rw [registration_eq, registration_eq, hrest, hrest'] at heq
  rw [hrest] at hno
  rw [hrest'] at hno'
  obtain ⟨hbefore, rfl⟩ := last_pair_unique hno hno' heq
  have hlabel : d.label = d'.label :=
    List.append_cancel_left (List.append_cancel_right hbefore)
  exact ⟨hlabel, callText_injective hopening hopening' h h' (hrest.trans hrest'.symm)⟩

theorem space_not_mem_operand {number : Nat} {raw : Text} {d : Definition}
    (h : (Line.parse number raw).definition = some d) :
    ∀ operand ∈ d.rule.operands, ' ' ∉ operand := by
  have hreading := (definition?_eq_some_iff _ _).mp h
  obtain ⟨left, right, -, -, -, -, -, -, hrule⟩ := (ofText_eq_defines_iff _ _).mp hreading
  intro operand hoperand hspace
  exact (CanonicalBody.readable_of_ofBody? hrule).operand_plain operand hoperand ' ' hspace
    (by decide)

/-- The second piece of the code for a line with a definition is its registration. -/
theorem second_fragment {g : Generator} {l : Line} {d : Definition} {pieces : List Text}
    (hd : l.definition = some d) (h : g.fragments l = .ok pieces) :
    ∃ opening, callOpening? d.rule.kind d.rule.frequency = some opening ∧
      pieces[1]? = some (g.indentation ++ registration opening d) := by
  unfold Generator.fragments Generator.statement at h
  rw [hd] at h
  dsimp only at h
  rw [statement?_eq] at h
  cases hopening : callOpening? d.rule.kind d.rule.frequency with
  | none =>
    rw [hopening] at h
    cases h
  | some opening =>
    rw [hopening] at h
    obtain rfl := Except.ok.inj h
    exact ⟨opening, rfl, rfl⟩

/-- Two lines that were read have equal registrations exactly if these register the same: whether
markers were mixed is all that does not show. -/
theorem registration_eq_iff {number number' : Nat} {raw raw' : Text} {d d' : Definition}
    (g : Generator) {pieces pieces' : List Text}
    (hd : (Line.parse number raw).definition = some d)
    (hd' : (Line.parse number' raw').definition = some d')
    (h : g.fragments (Line.parse number raw) = .ok pieces)
    (h' : g.fragments (Line.parse number' raw') = .ok pieces') :
    ∃ code code', pieces[1]? = some code ∧ pieces'[1]? = some code' ∧
      (code = code' ↔ d.label = d'.label ∧ d.rule.kind = d'.rule.kind ∧
        d.rule.frequency = d'.rule.frequency ∧ d.rule.operands = d'.rule.operands) := by
  obtain ⟨opening, hopening, hcode⟩ := second_fragment hd h
  obtain ⟨opening', hopening', hcode'⟩ := second_fragment hd' h'
  refine ⟨_, _, hcode, hcode', ?_⟩
  constructor
  · intro heq
    exact registration_injective hopening hopening' (space_not_mem_operand hd)
      (space_not_mem_operand hd') (List.append_cancel_left heq)
  · rintro ⟨hlabel, hkind, hfrequency, hoperands⟩
    rw [hkind, hfrequency, hopening'] at hopening
    obtain rfl := Option.some.inj hopening
    unfold registration
    rw [hlabel, hoperands]

/-- A label that reads like the end of one registration, and two rules of it that differ in nothing
but mixed markers. -/
theorem registration_eq_of_mixed_markers :
    ∃ pieces pieces' code,
      ({} : Generator).fragments (Line.parse 1 "A\", f([\"b: (C)*".toList) = .ok pieces ∧
      ({} : Generator).fragments (Line.parse 2 "A\", f([\"b: (C+)*".toList) = .ok pieces' ∧
      pieces[1]? = some code ∧ pieces'[1]? = some code ∧
      (Line.parse 1 "A\", f([\"b: (C)*".toList).rule ≠
        (Line.parse 2 "A\", f([\"b: (C+)*".toList).rule := by
  have hd : (Line.parse 1 "A\", f([\"b: (C)*".toList).definition =
      some ⟨"A\", f([\"b".toList, ⟨.conjunction, .zeroOrMore, [['C']], false⟩⟩ := rfl
  have hd' : (Line.parse 2 "A\", f([\"b: (C+)*".toList).definition =
      some ⟨"A\", f([\"b".toList, ⟨.conjunction, .zeroOrMore, [['C']], true⟩⟩ := rfl
  obtain ⟨code, code', hcode, hcode', hiff⟩ := registration_eq_iff {} hd hd' rfl rfl
  obtain rfl := hiff.mpr ⟨rfl, rfl, rfl, rfl⟩
  refine ⟨_, _, code, rfl, rfl, hcode, hcode', ?_⟩
  unfold Line.rule
  rw [hd, hd']
  simp

end RuleTable.Unambiguity
