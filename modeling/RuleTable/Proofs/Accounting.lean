import RuleTable.Proofs.Concatenation
import RuleTable.Proofs.Delivery
import RuleTable.Proofs.Layout
import RuleTable.Proofs.Refusal

/-!
What the log says of the lines. A line that is only a comment is not mentioned, a rule has one
event, with a warning in front of it if its markers are mixed, and any other line has one warning
that it is passed through. So no line goes by unseen, and the numbers of rules that are reported in
the end agree with each other, with the events and with the code.
-/
namespace RuleTable.Accounting

open Text Doubled Splitting Reading Refusal Generation Layout LineNumbering Delivery Concatenation

/-! ### What one line reports -/

/-- In front of its comment the line has only blanks. -/
def CommentOnly (l : Line) : Prop :=
  ∃ before, IsBeforeComment l.text before ∧ ∀ c ∈ before, isBlankChar c = true

theorem commentOnly_iff (l : Line) : CommentOnly l ↔ isBlank (cutDoubled '/' l.text).1 = true := by
  unfold CommentOnly isBlank
  simp only [isBeforeComment_iff, List.all_eq_true]
  exact exists_eq_left'

instance : DecidablePred CommentOnly := fun l => decidable_of_iff' _ (commentOnly_iff l)

/-- What a record of the event has behind its time. -/
structure Shows (e : Event) (level : Level) (message : Text) (fields : List (Text × FieldValue)) :
    Prop where
  level : e.level = level
  message : e.message = message
  fields : e.fields = fields

/-- What records call a kind. -/
def kindName : Kind → Text
  | .token => "Token"
  | .conjunction => "Conjunction"
  | .disjunction => "Disjunction"

/-- What records call a frequency. -/
def frequencyName : Frequency → Text
  | .one => "one"
  | .oneOrMore => "one_or_more"
  | .zeroOrOne => "zero_or_one"
  | .zeroOrMore => "zero_or_more"

theorem tag_eq_kindName (kind : Kind) : kind.tag = kindName kind := by
  cases kind <;> rfl

theorem name_eq_frequencyName (frequency : Frequency) :
    frequency.name = frequencyName frequency := by
  cases frequency <;> rfl

def Parsed (l : Line) (d : Definition) (e : Event) : Prop :=
  Shows e .debug "Parsed rule" [("line", .number l.number), ("label", .quoted d.label),
    ("kind", .text (kindName d.rule.kind)), ("frequency", .text (frequencyName d.rule.frequency)),
    ("operands", .number d.rule.operands.length)]

def Mixes (l : Line) (d : Definition) (e : Event) : Prop :=
  Shows e .warn ("Rule '" ++ d.label ++ "' mixes repetition markers, using " ++
    frequencyName d.rule.frequency) [("line", .number l.number)]

theorem parsed_parsedRule (l : Line) (d : Definition) :
    Parsed l d (.parsedRule l.number d.label d.rule.kind d.rule.frequency
      d.rule.operands.length) where
  level := rfl
  message := rfl
  fields := by
    rw [← tag_eq_kindName, ← name_eq_frequencyName]
    rfl

theorem mixes_mixedMarkers (l : Line) (d : Definition) :
    Mixes l d (.mixedMarkers l.number d.label d.rule.frequency) where
  level := rfl
  message := by
    rw [← name_eq_frequencyName]
    rfl
  fields := rfl

def notDefinition : Text := "Not a rule definition, passing through: "

def missingPart : Text := "Rule is missing its label or body, passing through: "

def noOperands : Text := "' has no operands, passing through"

def Passes (l : Line) (e : Event) : Prop :=
  ∃ message, Shows e .warn message [("line", .number l.number)] ∧
    (message = notDefinition ++ l.text ∨ message = missingPart ++ l.text ∨
      ∃ label : Text, message = "Rule '" ++ label ++ noOperands)

/-- The events of a line. A line is of one kind only, and its kind fixes how many it has. -/
inductive Accounts (l : Line) : List Event → Prop
  | comment (hcomment : CommentOnly l) (hd : l.definition = none) : Accounts l []
  | passed {e : Event} (hcomment : ¬CommentOnly l) (hd : l.definition = none) (he : Passes l e) :
    Accounts l [e]
  | plain {d : Definition} {e : Event} (hcomment : ¬CommentOnly l) (hd : l.definition = some d)
    (hplain : d.rule.mixedMarkers = false) (he : Parsed l d e) : Accounts l [e]
  | mixed {d : Definition} {warning e : Event} (hcomment : ¬CommentOnly l)
    (hd : l.definition = some d) (hmixed : d.rule.mixedMarkers = true)
    (hwarning : Mixes l d warning) (he : Parsed l d e) : Accounts l [warning, e]

theorem accounts_events (number : Nat) (raw : Text) :
    Accounts (Line.parse number raw) (Line.events number raw) := by
  have hblank : CommentOnly (Line.parse number raw) ↔ Line.reading raw = .blank :=
    (commentOnly_iff _).trans (ofText_eq_blank_iff _).symm
  have hdefinition : (Line.parse number raw).definition = (Line.reading raw).definition? := rfl
  unfold Line.events
  cases hreading : Line.reading raw with
  | blank =>
    rw [hreading] at hblank hdefinition
    exact .comment (hblank.mpr rfl) hdefinition
  | notDefinition =>
    rw [hreading] at hblank hdefinition
    exact .passed (by simp [hblank]) hdefinition ⟨_, ⟨rfl, rfl, rfl⟩, .inl rfl⟩
  | missingPart =>
    rw [hreading] at hblank hdefinition
    exact .passed (by simp [hblank]) hdefinition ⟨_, ⟨rfl, rfl, rfl⟩, .inr (.inl rfl)⟩
  | noOperands label =>
    rw [hreading] at hblank hdefinition
    exact .passed (by simp [hblank]) hdefinition ⟨_, ⟨rfl, rfl, rfl⟩, .inr (.inr ⟨label, rfl⟩)⟩
  | defines d =>
    rw [hreading] at hblank hdefinition
    unfold Reading.events
    dsimp only
    unfold Definition.events
    by_cases hmixed : d.rule.mixedMarkers = true
    · rw [if_pos hmixed]
      exact .mixed (by simp [hblank]) hdefinition hmixed (mixes_mixedMarkers _ d)
        (parsed_parsedRule _ d)
    · rw [if_neg hmixed]
      exact .plain (by simp [hblank]) hdefinition (Bool.eq_false_iff.mpr hmixed)
        (parsed_parsedRule _ d)

theorem exists_accounts (s : Text) :
    ∃ chunks, Grammar.parseEvents s = chunks.flatten ∧
      List.Forall₂ Accounts (Grammar.parse s) chunks := by
  refine ⟨(Grammar.numberedLines s).map (fun numbered => Line.events numbered.1 numbered.2),
    rfl, ?_⟩
  unfold Grammar.parse
  rw [List.forall₂_map_left_iff, List.forall₂_map_right_iff, List.forall₂_same]
  intro numbered _
  exact accounts_events numbered.1 numbered.2

/-! ### What all lines report -/

def SaysParsed (e : Event) : Prop := e.message = "Parsed rule"

def SaysPassing (e : Event) : Prop :=
  notDefinition <+: e.message ∨ missingPart <+: e.message ∨ noOperands <:+ e.message

instance : DecidablePred SaysParsed := fun _ => inferInstanceAs (Decidable (_ = _))

instance : DecidablePred SaysPassing := fun _ => inferInstanceAs (Decidable (_ ∨ _))

/-- No other event of a line has a message that begins with this letter. -/
theorem not_saysParsed_of_head {e : Event} {c : Char} (h : e.message.head? = some c)
    (hc : c ≠ 'P') : ¬SaysParsed e := by
  intro hsame
  unfold SaysParsed at hsame
  rw [hsame] at h
  exact hc (Option.some.inj h).symm

theorem Parsed.says {l : Line} {d : Definition} {e : Event} (h : Parsed l d e) :
    SaysParsed e ∧ ¬SaysPassing e := by
  refine ⟨h.message, ?_⟩
  unfold SaysPassing
  rw [h.message]
  decide

theorem Passes.says {l : Line} {e : Event} (h : Passes l e) : SaysPassing e ∧ ¬SaysParsed e := by
  obtain ⟨message, hshows, hmessage⟩ := h
  rw [← hshows.message] at hmessage
  rcases hmessage with hmessage | hmessage | ⟨label, hmessage⟩
  · refine ⟨.inl ⟨l.text, hmessage.symm⟩, not_saysParsed_of_head (c := 'N') ?_ (by decide)⟩
    rw [hmessage]
    rfl
  · refine ⟨.inr (.inl ⟨l.text, hmessage.symm⟩),
      not_saysParsed_of_head (c := 'R') ?_ (by decide)⟩
    rw [hmessage]
    rfl
  · refine ⟨.inr (.inr ⟨_, hmessage.symm⟩), not_saysParsed_of_head (c := 'R') ?_ (by decide)⟩
    rw [hmessage]
    rfl

theorem getLast?_frequencyName (frequency : Frequency) :
    (frequencyName frequency).getLast? = some 'e' := by
  cases frequency <;> decide

theorem Mixes.says {l : Line} {d : Definition} {e : Event} (h : Mixes l d e) :
    ¬SaysParsed e ∧ ¬SaysPassing e := by
  have hmessage := h.message
  have hhead : e.message.head? = some 'R' := by
    rw [hmessage]
    rfl
  have hquote : e.message[5]? = some '\'' := by
    rw [hmessage]
    rfl
  have hlast : e.message.getLast? = some 'e' := by
    rw [hmessage, List.getLast?_append, getLast?_frequencyName]
    rfl
  refine ⟨not_saysParsed_of_head hhead (by decide), ?_⟩
  rintro (⟨rest, hrest⟩ | ⟨rest, hrest⟩ | ⟨before, hbefore⟩)
  · rw [← hrest] at hhead
    cases hhead
  · rw [← hrest] at hquote
    cases hquote
  · have hno : noOperands.getLast? = some 'h' := by decide
    rw [← hbefore, List.getLast?_append, hno] at hlast
    cases hlast

/-- A line that is no comment has one event of the two kinds, and a rule has the one. -/
theorem Accounts.counts {l : Line} {events : List Event} (h : Accounts l events) :
    events.countP SaysParsed = (if l.definition.isSome then 1 else 0) ∧
    events.countP SaysParsed + events.countP SaysPassing + (if CommentOnly l then 1 else 0) =
      1 := by
  cases h with
  | comment hcomment hd => simp [hcomment, hd]
  | passed hcomment hd he =>
    obtain ⟨hpassing, hparsed⟩ := he.says
    simp [hcomment, hd, hpassing, hparsed]
  | plain hcomment hd _ he =>
    obtain ⟨hparsed, hpassing⟩ := he.says
    simp [hcomment, hd, hpassing, hparsed]
  | mixed hcomment hd _ hwarning he =>
    obtain ⟨hparsed, hpassing⟩ := he.says
    obtain ⟨hnotParsed, hnotPassing⟩ := hwarning.says
    simp [hcomment, hd, hpassing, hparsed, hnotParsed, hnotPassing]

theorem counts_flatten {lines : Grammar} {chunks : List (List Event)}
    (h : List.Forall₂ Accounts lines chunks) :
    chunks.flatten.countP SaysParsed = lines.countP (·.definition.isSome) ∧
    lines.length = chunks.flatten.countP SaysParsed + chunks.flatten.countP SaysPassing +
      lines.countP CommentOnly := by
  induction h with
  | nil => exact ⟨rfl, rfl⟩
  | cons hl _ ih =>
    obtain ⟨hparsed, hone⟩ := hl.counts
    obtain ⟨ihparsed, ihall⟩ := ih
    simp only [List.flatten_cons, List.countP_append, List.countP_cons, List.length_cons,
      decide_eq_true_eq]
    refine ⟨by omega, by omega⟩

/-! ### Statements in the code -/

/-- The line of code registers a rule. -/
def IsStatement (codeLine : Text) : Prop := "\tresult.insert(\"".toList <+: codeLine

instance : DecidablePred IsStatement := fun _ => inferInstanceAs (Decidable (_ <+: _))

theorem not_isStatement_echo (l : Line) : ¬IsStatement (echo {} l) := by
  rintro ⟨rest, hrest⟩
  have hslash : (echo {} l)[1]? = some '/' := rfl
  rw [← hrest] at hslash
  cases hslash

theorem isStatement_statementLine_iff {l : Line}
    (hcomment : l.comment.getD [] = [] ∨ ['/', '/'] <+: l.comment.getD []) :
    IsStatement (statementLine {} l) ↔ l.definition.isSome = true := by
  unfold statementLine
  cases hd : l.definition with
  | none =>
    refine iff_of_false ?_ (by simp)
    intro hstatement
    obtain ⟨rest, hrest⟩ := hstatement
    rcases hcomment with hnone | ⟨tail, hmark⟩
    · rw [hnone] at hrest
      cases hrest
    · rw [← hmark] at hrest
      cases hrest
  | some d =>
    refine iff_of_true ?_ rfl
    have hopening : "\tresult.insert(\"".toList = ['\t'] ++ "result.insert(\"".toList := rfl
    unfold IsStatement registration
    simp only [hopening, List.append_assoc]
    exact ⟨_, rfl⟩

theorem countP_codeLines {lines : Grammar}
    (h : ∀ l ∈ lines, l.comment.getD [] = [] ∨ ['/', '/'] <+: l.comment.getD []) :
    (codeLines {} lines).countP IsStatement = lines.countP (·.definition.isSome) := by
  induction lines with
  | nil => rfl
  | cons l lines ih =>
    rw [codeLines_cons]
    simp only [List.countP_cons, decide_eq_true_eq, not_isStatement_echo, if_false,
      isStatement_statementLine_iff (h l List.mem_cons_self),
      ih (fun l' hl' => h l' (List.mem_cons_of_mem l hl'))]
    omega

/-- The code of a text has one statement for each definition in it. -/
theorem countP_statements {s code : Text}
    (h : ({} : Generator).code (Grammar.parse s) = .ok code) :
    (code.splitOn '\n').countP IsStatement = (Grammar.parse s).countP (·.definition.isSome) := by
  obtain ⟨-, rfl⟩ := (code_eq_ok_iff _ _ _).mp h
  have hcomment : ∀ l ∈ Grammar.parse s,
      l.comment.getD [] = [] ∨ ['/', '/'] <+: l.comment.getD [] := by
    intro l hl
    obtain ⟨number, raw, -, rfl⟩ := exists_of_mem_parse hl
    exact comment_getD number raw
  have hlast : ¬IsStatement [] := by decide
  rw [splitOn_flatMap_rendering {} (by decide) (fun l => oneLine_of_mem_parse),
    List.countP_append, countP_codeLines hcomment]
  simp [hlast]

/-! ### A whole file -/

theorem length_rules (lines : Grammar) :
    lines.rules.length = lines.countP (·.rule.isSome) := by
  unfold Grammar.rules
  exact List.length_filterMap_eq_countP ..

theorem length_definitions (lines : Grammar) :
    lines.definitions.length = lines.countP (·.definition.isSome) := by
  unfold Grammar.definitions
  exact List.length_filterMap_eq_countP ..

theorem isSome_rule (l : Line) : l.rule.isSome = l.definition.isSome := Option.isSome_map

/-- What is counted when a file is read is what is counted when code is made of it. -/
theorem length_rules_eq_length_definitions (lines : Grammar) :
    lines.rules.length = lines.definitions.length := by
  rw [length_rules, length_definitions]
  simp only [isSome_rule]

/-- A call that succeeds has written the whole code of its file. -/
theorem written_of_ok {read : FileReader} {path : Text} {sink sink' : Sink}
    (h : (transpile read path sink).result = (.ok (), sink')) :
    ∃ bytes code, read path = .ok bytes ∧
      ({} : Generator).code (Grammar.ofBytes bytes) = .ok code ∧
      sink'.written = sink.written ++ Utf8.encode code := by
  have hperform : (Call.transpile read path).perform sink = (.ok (), sink') := h
  cases hcode : (Call.transpile read path).code with
  | error e =>
    rw [perform_of_error hcode] at hperform
    cases hperform
  | ok code =>
    obtain ⟨bytes, hread, hok⟩ := code_transpile_eq_ok_iff.mp hcode
    have hdelivered := perform_of_ok hcode sink
    rw [hperform] at hdelivered
    have hwritten := hdelivered.written_eq
    rw [(hdelivered.ok_iff.mp rfl).1, List.take_length] at hwritten
    exact ⟨bytes, code, hread, hok, hwritten⟩

theorem events_of_ok {read : FileReader} {path : Text} {bytes : Bytes} {code : Text}
    (hread : read path = .ok bytes)
    (hcode : ({} : Generator).code (Grammar.ofBytes bytes) = .ok code) (sink : Sink) :
    (transpile read path sink).events = Grammar.ofBytesEvents path bytes ++
      [.generatedCode (Grammar.ofBytes bytes).length
        (Grammar.ofBytes bytes).definitions.length] := by
  unfold transpile Grammar.load
  rw [hread]
  dsimp only
  unfold Generator.codeEvents
  rw [hcode]

/-- What is reported of the file as a whole is not reported of a rule. -/
theorem countP_ofBytesEvents (path : Text) (bytes : Bytes) :
    (Grammar.ofBytesEvents path bytes).countP SaysParsed =
      (Grammar.ofBytes bytes).countP (·.definition.isSome) := by
  obtain ⟨chunks, hchunks, haccounts⟩ := exists_accounts (Utf8.decode bytes)
  have hreplaced : ¬SaysParsed (.replacedBytes path) :=
    not_saysParsed_of_head (c := 'G') rfl (by decide)
  have hgrammar (lines rules : Nat) : ¬SaysParsed (.parsedGrammar path lines rules) := by
    have hmessage : ("Parsed grammar definition" : Text) ≠ "Parsed rule" := by decide
    exact hmessage
  unfold Grammar.ofBytesEvents Grammar.ofBytes
  rw [List.countP_append, List.countP_append, hchunks, (counts_flatten haccounts).1]
  simp only [List.countP_singleton, hgrammar, decide_false]
  split <;> simp [hreplaced]

/-- The numbers that the last two events show, and what there are as many of. -/
structure Tally (path : Text) (lines : Grammar) (code : Text) (events : List Event) (n : Nat) :
    Prop where
  summaries : ∃ before parsed generated, events = before ++ [parsed, generated] ∧
    Shows parsed .info "Parsed grammar definition"
      [("path", .text path), ("lines", .number lines.length), ("rules", .number n)] ∧
    Shows generated .info "Generated registration code"
      [("lines", .number lines.length), ("statements", .number n)]
  rules : lines.countP (·.rule.isSome) = n
  definitions : lines.countP (·.definition.isSome) = n
  reported : events.countP SaysParsed = n
  statements : (code.splitOn '\n').countP IsStatement = n

theorem tally_of_ok (path : Text) {bytes : Bytes} {code : Text}
    (hcode : ({} : Generator).code (Grammar.ofBytes bytes) = .ok code) :
    Tally path (Grammar.ofBytes bytes) code (Grammar.ofBytesEvents path bytes ++
      [.generatedCode (Grammar.ofBytes bytes).length (Grammar.ofBytes bytes).definitions.length])
      (Grammar.ofBytes bytes).definitions.length where
  summaries := by
    unfold Grammar.ofBytesEvents
    rw [List.append_assoc, length_rules_eq_length_definitions]
    exact ⟨_, _, _, rfl, ⟨rfl, rfl, rfl⟩, ⟨rfl, rfl, rfl⟩⟩
  rules := by rw [← length_rules, length_rules_eq_length_definitions]
  definitions := (length_definitions _).symm
  reported := by
    have hgenerated (lines statements : Nat) : ¬SaysParsed (.generatedCode lines statements) :=
      not_saysParsed_of_head (c := 'G') rfl (by decide)
    rw [List.countP_append, countP_ofBytesEvents, length_definitions]
    simp [hgenerated]
  statements := (countP_statements hcode).trans (length_definitions _).symm

/-- Every line that is read is accounted for by its events, in order, so the lines are as many as
the rules and the warnings reported and the comments together. What a file that is transpiled
reports at last are the numbers of its lines and of its rules, and of rules there are as many
events and as many statements. -/
theorem accounting :
    (∀ s, ∃ chunks, Grammar.parseEvents s = chunks.flatten ∧
      List.Forall₂ Accounts (Grammar.parse s) chunks) ∧
    (∀ s, (Grammar.parse s).length = (Grammar.parseEvents s).countP SaysParsed +
      (Grammar.parseEvents s).countP SaysPassing + (Grammar.parse s).countP CommentOnly) ∧
    ∀ read path sink sink', (transpile read path sink).result = (.ok (), sink') →
      ∃ lines code n, (Grammar.load read path).result = .ok lines ∧
        sink'.written = sink.written ++ Utf8.encode code ∧
        Tally path lines code (transpile read path sink).events n := by
  refine ⟨exists_accounts, ?_, ?_⟩
  · intro s
    obtain ⟨chunks, hevents, haccounts⟩ := exists_accounts s
    rw [hevents]
    exact (counts_flatten haccounts).2
  · intro read path sink sink' h
    obtain ⟨bytes, code, hread, hcode, hwritten⟩ := written_of_ok h
    have htally := tally_of_ok path hcode
    rw [← events_of_ok hread hcode sink] at htally
    exact ⟨Grammar.ofBytes bytes, code, _, load_of_read hread, hwritten, htally⟩

/-- A comment, a token, a rule with two different markers, and a label without a body. -/
def assorted : Directory := .ofFiles [(['g'], Utf8.encode "//\nA:_B\nC:D+?\nE:")]

theorem accounting_assorted :
    ∃ lines code, (Grammar.load assorted.read ['g']).result = .ok lines ∧ lines.length = 4 ∧
      Tally ['g'] lines code (transpile assorted.read ['g'] {}).events 2 := by
  have hread : assorted.read ['g'] = .ok (Utf8.encode "//\nA:_B\nC:D+?\nE:") := rfl
  have hok := (transpile_eq_ok_iff hread unlimited_default).mpr ⟨_, rfl, rfl⟩
  obtain ⟨lines, code, n, hload, -, htally⟩ := accounting.2.2 _ _ _ _ hok
  have hlines := hload
  rw [load_of_read hread] at hlines
  obtain rfl : _ = lines := Except.ok.inj hlines
  have hn : n = 2 := htally.definitions.symm.trans rfl
  rw [hn] at htally
  exact ⟨_, code, hload, rfl, htally⟩

end RuleTable.Accounting
