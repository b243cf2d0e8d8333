import Mathlib.Data.List.Forall2
import RuleTable.Dump
import RuleTable.Proofs.JsonReading

/-!
What a dump keeps. Each part of a grammar is read back from the JSON value that stands for it, by
the names of its members and whatever their order. The printed dump spells that value and no other
one, so nothing of a grammar is lost in it.
-/
namespace RuleTable.DumpReading

open Json JsonText JsonReading

def member? (v : Json) (key : String) : Option Json :=
  match v with
  | .object members => members.lookup key.toList
  | _ => none

def number? : Json → Option Nat
  | .number n => some n
  | _ => none

def bool? : Json → Option Bool
  | .bool b => some b
  | _ => none

def string? : Json → Option Text
  | .string s => some s
  | _ => none

def items? : Json → Option (List Json)
  | .array items => some items
  | _ => none

/-- Null stands for what is absent. -/
def optional? {α : Type} (decode : Json → Option α) : Json → Option (Option α)
  | .null => some none
  | v => (decode v).map some

def kind? (v : Json) : Option Kind :=
  (string? v).bind (fun t => [Kind.token, .conjunction, .disjunction].find? (·.tag = t))

def frequency? (v : Json) : Option Frequency :=
  (string? v).bind (fun t =>
    [Frequency.one, .oneOrMore, .zeroOrOne, .zeroOrMore].find? (·.tag = t))

def rule? (v : Json) : Option Rule := do
  let kind ← (member? v "kind").bind kind?
  let frequency ← (member? v "frequency").bind frequency?
  let operands ← ((member? v "operands").bind items?).bind (·.mapM string?)
  let mixedMarkers ← (member? v "mixed_markers").bind bool?
  return ⟨kind, frequency, operands, mixedMarkers⟩

/-- A label and a rule make a definition; one without the other is no line of a dump. -/
def definition? : Option Text → Option Rule → Option (Option Definition)
  | some label, some rule => some (some ⟨label, rule⟩)
  | none, none => some none
  | _, _ => none

def line? (v : Json) : Option Line := do
  let number ← (member? v "line_number").bind number?
  let text ← (member? v "original").bind string?
  let comment ← (member? v "trailing_comment").bind (optional? string?)
  let label ← (member? v "label").bind (optional? string?)
  let rule ← (member? v "rule").bind (optional? rule?)
  let definition ← definition? label rule
  return ⟨number, text, comment, definition⟩

def grammar? (v : Json) : Option Grammar := (items? v).bind (·.mapM line?)

theorem mapM_map_of_inverse {α β : Type} {encode : α → β} {decode : β → Option α}
    (h : ∀ a, decode (encode a) = some a) (as : List α) :
    (as.map encode).mapM decode = some as := by
  induction as with
  | nil => rfl
  | cons a as ih => simp [h, ih]

theorem string?_string (t : Text) : string? (.string t) = some t := rfl

theorem kind?_tag (k : Kind) : kind? (.string k.tag) = some k := by
  cases k <;> decide

theorem frequency?_tag (f : Frequency) : frequency? (.string f.tag) = some f := by
  cases f <;> decide

section Rule

variable (r : Rule)

theorem member?_kind : member? r.toJson "kind" = some (.string r.kind.tag) := rfl

theorem member?_frequency : member? r.toJson "frequency" = some (.string r.frequency.tag) := rfl

theorem member?_operands :
    member? r.toJson "operands" = some (.array (r.operands.map .string)) := rfl

theorem member?_mixedMarkers :
    member? r.toJson "mixed_markers" = some (.bool r.mixedMarkers) := rfl

theorem rule?_toJson : rule? r.toJson = some r := by
  have hmap : (r.operands.map Json.string).mapM string? = some r.operands :=
    mapM_map_of_inverse string?_string r.operands
  simp [rule?, member?_kind, member?_frequency, member?_operands, member?_mixedMarkers, kind?_tag,
    frequency?_tag, items?, bool?, hmap]

end Rule

theorem optional?_ofOption {α : Type} {encode : α → Json} {decode : Json → Option α}
    (h : ∀ a, decode (encode a) = some a) (hnull : ∀ a, encode a ≠ .null) (o : Option α) :
    optional? decode (.ofOption encode o) = some o := by
  cases o with
  | none => rfl
  | some a => simp [ofOption, optional?, h, hnull]

theorem optional?_string (o : Option Text) : optional? string? (.ofOption .string o) = some o :=
  optional?_ofOption string?_string (fun _ => by simp) o

theorem optional?_rule (o : Option Rule) : optional? rule? (.ofOption Rule.toJson o) = some o :=
  optional?_ofOption rule?_toJson (fun _ => by simp [Rule.toJson]) o

section Line

variable (l : Line)

theorem member?_number : member? l.toJson "line_number" = some (.number l.number) := rfl

theorem member?_text : member? l.toJson "original" = some (.string l.text) := rfl

theorem member?_comment :
    member? l.toJson "trailing_comment" = some (.ofOption .string l.comment) := rfl

theorem member?_label : member? l.toJson "label" = some (.ofOption .string l.label) := rfl

theorem member?_rule : member? l.toJson "rule" = some (.ofOption Rule.toJson l.rule) := rfl

theorem definition?_label_rule : definition? l.label l.rule = some l.definition := by
  unfold Line.label Line.rule
  cases l.definition <;> rfl

theorem line?_toJson : line? l.toJson = some l := by
  have hcomment := optional?_string l.comment
  have hlabel := optional?_string l.label
  have hrule := optional?_rule l.rule
  have hdefinition := definition?_label_rule l
  simp [line?, member?_number, member?_text, member?_comment, member?_label, member?_rule, number?,
    string?_string, hcomment, hlabel, hrule, hdefinition]

/-- Under which names the object of a line has null. -/
structure NullsExactly (l : Line) (item : Json) : Prop where
  comment : member? item "trailing_comment" = some .null ↔ l.comment = none
  label : member? item "label" = some .null ↔ l.label = none
  rule : member? item "rule" = some .null ↔ l.rule = none

theorem ofOption_eq_null_iff {α : Type} {encode : α → Json} (hnull : ∀ a, encode a ≠ .null)
    (o : Option α) : ofOption encode o = .null ↔ o = none := by
  cases o <;> simp [ofOption, hnull]

theorem nullsExactly_toJson : NullsExactly l l.toJson where
  comment := by
    rw [member?_comment, Option.some_inj]
    exact ofOption_eq_null_iff (fun _ => by simp) l.comment
  label := by
    rw [member?_label, Option.some_inj]
    exact ofOption_eq_null_iff (fun _ => by simp) l.label
  rule := by
    rw [member?_rule, Option.some_inj]
    exact ofOption_eq_null_iff (fun _ => by simp [Rule.toJson]) l.rule

end Line

theorem grammar?_toJson (g : Grammar) : grammar? g.toJson = some g :=
  mapM_map_of_inverse line?_toJson g

/-- What is printed is JSON and says one thing only. Reading it gives back the grammar: every line
in its place with its number, text, comment, label and rule, and null only for what a line does not
have. So no two grammars have one dump. -/
theorem dump_lossless (g : Grammar) :
    (∀ v, IsJsonText (g.dump ++ "\n") v ↔ v = g.toJson) ∧
    (read? (g.dump ++ "\n")).bind grammar? = some g ∧
    (∃ items, g.toJson = .array items ∧ List.Forall₂ NullsExactly g items) ∧
    ∀ h : Grammar, h.dump = g.dump ↔ h = g := by
  have hspells (g : Grammar) : IsJsonText (g.dump ++ "\n") g.toJson := isJsonText_print g.toJson
  have hread (g : Grammar) : (read? (g.dump ++ "\n")).bind grammar? = some g := by
    rw [read?_eq_some (hspells g), Option.bind_some, grammar?_toJson]
  refine ⟨fun v => ⟨fun hv => isJsonText_unique hv (hspells g), ?_⟩, hread g, ?_, fun h => ?_⟩
  · rintro rfl
    exact hspells g
  · refine ⟨g.map Line.toJson, rfl, ?_⟩
    exact List.forall₂_map_right_iff.mpr (List.forall₂_same.mpr (fun l _ => nullsExactly_toJson l))
  · refine ⟨fun hdump => ?_, congrArg Grammar.dump⟩
    have hh := hread h
    rw [hdump, hread g] at hh
    exact (Option.some.inj hh).symm

end RuleTable.DumpReading
