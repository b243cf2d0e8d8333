import RuleTable.Registration

/-!
What the generator makes of a grammar, in closed form. Each line has two lines of code, whatever
the lines around it are: its echo, and its statement with its comment behind. A line is refused if
its rule is a token that repeats, and the first line refused decides the result of the whole.
-/
namespace RuleTable.Generation

variable (g : Generator)

/-- Why a line has no code, if it has none. -/
def refusal? (l : Line) : Option RepeatedToken :=
  l.definition.bind (fun d =>
    if d.rule.isRepeatedToken then some ⟨d.label, l.number, d.rule.frequency⟩ else none)

/-- The table of calls: how the call for a rule begins, up to the list of its operands. -/
def callOpening? : Kind → Frequency → Option Text
  | .token, .one => some "create_label_match(vec!["
  | .token, _ => none
  | .conjunction, .one => some "create_and_rule_once( vec!["
  | .conjunction, .oneOrMore => some "create_and_rule(RuleRepeats::OneOrMore, vec!["
  | .conjunction, .zeroOrOne => some "create_and_rule(RuleRepeats::ZeroOrOne, vec!["
  | .conjunction, .zeroOrMore => some "create_and_rule(RuleRepeats::ZeroOrMore, vec!["
  | .disjunction, .one => some "create_or_rule_once( vec!["
  | .disjunction, .oneOrMore => some "create_or_rule(RuleRepeats::OneOrMore, vec!["
  | .disjunction, .zeroOrOne => some "create_or_rule(RuleRepeats::ZeroOrOne, vec!["
  | .disjunction, .zeroOrMore => some "create_or_rule(RuleRepeats::ZeroOrMore, vec!["

def quote (operand : Text) : Text := ['"'] ++ operand ++ ['"']

/-- The operands in double quotes, with a comma and a space from one to the next. -/
def operandText : List Text → Text
  | [] => []
  | [operand] => quote operand
  | operand :: next :: others => quote operand ++ [',', ' '] ++ operandText (next :: others)

/-- A registration whose call begins with `opening`. -/
def registration (opening : Text) (d : Definition) : Text :=
  "result.insert(\"" ++ d.label ++ "\", " ++ opening ++ operandText d.rule.operands ++ "]));"

/-- The first line of code for a line, without its newline. -/
def echo (l : Line) : Text := g.indentation ++ "// " ++ l.text

/-- The second line of code for a line that is not refused, without its newline. -/
def statementLine (l : Line) : Text :=
  (match l.definition with
    | none => []
    | some d =>
      g.indentation ++ registration ((callOpening? d.rule.kind d.rule.frequency).getD []) d) ++
    l.comment.getD []

def rendering (l : Line) : Text := echo g l ++ '\n' :: statementLine g l ++ ['\n']

/-- The statement of a line that is not refused, if the line has a definition. -/
def statementOf (l : Line) : Option Text :=
  l.definition.map (fun d =>
    g.indentation ++ registration ((callOpening? d.rule.kind d.rule.frequency).getD []) d)

/-- The pieces of the code for a line around its statement: the echo in front, then the comment if
there is one, and a newline. -/
def piecesAround (l : Line) (statement : Option Text) : List Text :=
  (g.indentation ++ "// " ++ l.text ++ "\n") :: statement.toList ++ l.comment.toList ++ [['\n']]

theorem callOpening?_eq_none_iff (r : Rule) :
    callOpening? r.kind r.frequency = none ↔ r.isRepeatedToken = true := by
  obtain ⟨kind, frequency, operands, mixed⟩ := r
  unfold Rule.isRepeatedToken
  cases kind with
  | token =>
    cases frequency with
    | one => exact iff_of_false nofun (by simp)
    | oneOrMore | zeroOrOne | zeroOrMore => exact iff_of_true rfl rfl
  | conjunction | disjunction => cases frequency <;> exact iff_of_false nofun (by simp)

/-- The table agrees with the argument that a repeated rule has. -/
theorem callOpening?_of_marker (kind : Kind) (frequency : Frequency) :
    callOpening? kind frequency =
      match kind, frequency.marker? with
      | .token, none => some "create_label_match(vec!["
      | .token, some _ => none
      | .conjunction, none => some "create_and_rule_once( vec!["
      | .conjunction, some marker => some ("create_and_rule(" ++ marker ++ ", vec![")
      | .disjunction, none => some "create_or_rule_once( vec!["
      | .disjunction, some marker => some ("create_or_rule(" ++ marker ++ ", vec![") := by
  cases kind <;> cases frequency <;> dsimp only [callOpening?, Frequency.marker?] <;>
    repeat rw [String.toList_ofList]
  all_goals rfl

/-- No call breaks a line or opens a comment, and two colons stand in front of its frequency. -/
theorem opening_chars (kind : Kind) (frequency : Frequency) :
    '\n' ∉ (callOpening? kind frequency).getD [] ∧ '/' ∉ (callOpening? kind frequency).getD [] ∧
      ((callOpening? kind frequency).getD []).count ':' ≠ 1 := by
  cases hcall : callOpening? kind frequency with
  | none => decide
  | some opening =>
    rw [Option.getD_some]
    cases kind <;> cases frequency <;> cases hcall <;> rw [String.toList_ofList] <;> decide

theorem operandList_eq (r : Rule) : r.operandList = operandText r.operands := by
  unfold Rule.operandList
  induction r.operands using operandText.induct with
  | case1 => rfl
  | case2 operand => exact List.intercalate_singleton
  | case3 operand next others ih =>
    have hquote : ("\"" : Text) ++ operand ++ "\"" = quote operand := rfl
    have hcomma : (", " : Text) = [',', ' '] := rfl
    rw [List.map_cons] at ih
    rw [List.map_cons, List.map_cons, List.intercalate_cons_cons, ih, hquote, hcomma]
    rfl

theorem call?_eq (r : Rule) :
    r.call? = (callOpening? r.kind r.frequency).map (· ++ operandText r.operands ++ "])") := by
  rw [callOpening?_of_marker, ← operandList_eq]
  unfold Rule.call?
  cases r.kind <;> cases r.frequency.marker? <;> rfl

theorem statement?_eq (d : Definition) :
    d.statement? = (callOpening? d.rule.kind d.rule.frequency).map (registration · d) := by
  have hclosing : ("])" : Text) ++ (");" : Text) = "]));" := rfl
  have hregroup : ∀ start opening operands inner outer : Text,
      start ++ (opening ++ operands ++ inner) ++ outer =
        start ++ opening ++ operands ++ (inner ++ outer) := by
    simp
  unfold Definition.statement?
  rw [call?_eq]
  cases callOpening? d.rule.kind d.rule.frequency with
  | none => rfl
  | some opening =>
    rw [Option.map_some, Option.map_some, Option.map_some]
    rw [hregroup, hclosing]
    rfl

theorem refusal?_eq_some_iff (l : Line) (e : RepeatedToken) :
    refusal? l = some e ↔ ∃ d, l.definition = some d ∧ d.rule.isRepeatedToken = true ∧
      e = ⟨d.label, l.number, d.rule.frequency⟩ := by
  unfold refusal?
  cases l.definition with
  | none => simp
  | some d =>
    simp only [Option.bind_some, Option.some.injEq]
    constructor
    · intro h
      by_cases hd : d.rule.isRepeatedToken = true
      · rw [if_pos hd] at h
        exact ⟨d, rfl, hd, (Option.some.inj h).symm⟩
      · rw [if_neg hd] at h
        cases h
    · intro h
      obtain ⟨d', rfl, hd, rfl⟩ := h
      rw [if_pos hd]

/-- A line is refused, or its pieces are those around its statement. -/
theorem fragments_eq (l : Line) :
    g.fragments l =
      match refusal? l with
      | some e => .error e
      | none => .ok (piecesAround g l (statementOf g l)) := by
  unfold Generator.fragments Generator.statement refusal? statementOf
  cases l.definition with
  | none => rfl
  | some d =>
    dsimp only [Option.bind_some, Option.map_some]
    rw [statement?_eq]
    cases hopening : callOpening? d.rule.kind d.rule.frequency with
    | none =>
      have htoken := (callOpening?_eq_none_iff d.rule).mp hopening
      rw [if_pos htoken]
      rfl
    | some opening =>
      have htoken : ¬d.rule.isRepeatedToken = true := by
        rw [← callOpening?_eq_none_iff, hopening]
        simp
      rw [if_neg htoken]
      rfl

theorem statementLine_eq (l : Line) :
    statementLine g l = (statementOf g l).getD [] ++ l.comment.getD [] := by
  unfold statementLine statementOf
  cases l.definition <;> rfl

theorem flatten_piecesAround (l : Line) :
    (piecesAround g l (statementOf g l)).flatten = rendering g l := by
  have hoption : ∀ piece : Option Text, piece.toList.flatten = piece.getD [] := by
    intro piece
    cases piece <;> simp
  have hnewline : ("\n" : Text) = ['\n'] := rfl
  unfold piecesAround rendering echo
  rw [statementLine_eq]
  simp only [List.flatten_append, List.flatten_cons, List.flatten_nil, hoption, hnewline,
    List.append_assoc, List.cons_append, List.nil_append, List.append_nil]

/-- A line is refused, or its pieces make up its two lines of code. -/
theorem fragments_flatten (l : Line) :
    (g.fragments l).map List.flatten =
      match refusal? l with
      | some e => .error e
      | none => .ok (rendering g l) := by
  rw [fragments_eq]
  cases refusal? l with
  | some e => rfl
  | none => exact congrArg Except.ok (flatten_piecesAround g l)

theorem fragments_eq_error_iff (l : Line) (e : RepeatedToken) :
    g.fragments l = .error e ↔ refusal? l = some e := by
  have hflatten := fragments_flatten g l
  cases hfragments : g.fragments l with
  | error e' =>
    cases hrefusal : refusal? l with
    | none => simp [hfragments, hrefusal, Except.map] at hflatten
    | some e'' =>
      obtain rfl : e' = e'' := by simpa [hfragments, hrefusal, Except.map] using hflatten
      simp
  | ok pieces =>
    cases hrefusal : refusal? l with
    | none => simp
    | some e' => simp [hfragments, hrefusal, Except.map] at hflatten

theorem exists_fragments_iff (l : Line) :
    (∃ pieces, g.fragments l = .ok pieces) ↔ refusal? l = none := by
  rw [Option.eq_none_iff_forall_ne_some]
  constructor
  · intro h e he
    obtain ⟨pieces, hpieces⟩ := h
    rw [← fragments_eq_error_iff g, hpieces] at he
    cases he
  · intro h
    cases hfragments : g.fragments l with
    | ok pieces => exact ⟨pieces, rfl⟩
    | error e => exact absurd ((fragments_eq_error_iff g l e).mp hfragments) (h e)

theorem code_cons (l : Line) (lines : Grammar) :
    g.code (l :: lines) =
      ((g.fragments l).map List.flatten).bind (fun first => (g.code lines).map (first ++ ·)) := by
  unfold Generator.code
  rw [List.mapM_cons]
  cases g.fragments l with
  | error e => rfl
  | ok pieces =>
    cases hrest : lines.mapM g.fragments with
    | error e => rfl
    | ok rest => simp [Except.map, Except.bind, bind, pure, Except.pure]

/-- All lines are rendered in order, or the first refusal is the result. -/
theorem code_eq (lines : Grammar) :
    g.code lines =
      match lines.findSome? refusal? with
      | some e => .error e
      | none => .ok (lines.flatMap (rendering g)) := by
  induction lines with
  | nil => rfl
  | cons l lines ih =>
    rw [code_cons, fragments_flatten, List.findSome?_cons]
    cases refusal? l with
    | some e => rfl
    | none =>
      rw [ih]
      cases lines.findSome? refusal? with
      | some e => rfl
      | none => rfl

theorem code_eq_error_iff (lines : Grammar) (e : RepeatedToken) :
    g.code lines = .error e ↔ lines.findSome? refusal? = some e := by
  rw [code_eq]
  cases lines.findSome? refusal? <;> simp

/-- Code fails as the first line that has no code does. -/
theorem code_eq_error_iff_fragments (lines : Grammar) (e : RepeatedToken) :
    g.code lines = .error e ↔
      ∃ before l after, lines = before ++ l :: after ∧ g.fragments l = .error e ∧
        ∀ earlier ∈ before, ∃ pieces, g.fragments earlier = .ok pieces := by
  rw [code_eq_error_iff, List.findSome?_eq_some_iff]
  simp only [fragments_eq_error_iff, exists_fragments_iff]

theorem code_eq_ok_iff (lines : Grammar) (code : Text) :
    g.code lines = .ok code ↔
      lines.findSome? refusal? = none ∧ code = lines.flatMap (rendering g) := by
  rw [code_eq]
  cases lines.findSome? refusal? <;> simp [eq_comm]

end RuleTable.Generation
