import Mathlib.Data.List.Basic
import RuleTable.Dump

/-!
JSON as a grammar: which texts spell which values. The rules are those of RFC 8259, with any
spacing and any of the escapes it allows, so a text may spell a value in many ways. Only in numbers
is less covered, since the values here have no others than the natural numbers. The indented layout
of every value is one of its spellings.
-/
namespace RuleTable.JsonText

open Json

def spaces : List Char := [' ', '\t', '\n', '\r']

def IsSpace (s : Text) : Prop := ∀ c ∈ s, c ∈ spaces

def hexDigit? (c : Char) : Option Nat :=
  if '0' ≤ c ∧ c ≤ '9' then some (c.toNat - '0'.toNat)
  else if 'a' ≤ c ∧ c ≤ 'f' then some (c.toNat - 'a'.toNat + 10)
  else if 'A' ≤ c ∧ c ≤ 'F' then some (c.toNat - 'A'.toNat + 10)
  else none

/-- The code unit that four hexadecimal digits give. -/
def unit? (s : Text) : Option Nat :=
  if s.length = 4 then s.foldlM (fun n c => (hexDigit? c).map (16 * n + ·)) 0 else none

def IsHigh (n : Nat) : Prop := 0xd800 ≤ n ∧ n < 0xdc00

def IsLow (n : Nat) : Prop := 0xdc00 ≤ n ∧ n < 0xe000

instance : DecidablePred IsHigh := fun _ => inferInstanceAs (Decidable (_ ∧ _))

instance : DecidablePred IsLow := fun _ => inferInstanceAs (Decidable (_ ∧ _))

/-- The code point of two surrogates. -/
def joined (high low : Nat) : Nat := 0x10000 + (high - 0xd800) * 0x400 + (low - 0xdc00)

/-- The letters that may follow a backslash, each with the character it stands for. -/
def shortEscapes : List (Char × Char) :=
  [('"', '"'), ('\\', '\\'), ('/', '/'), ('b', '\x08'), ('f', '\x0c'), ('n', '\n'), ('r', '\r'),
    ('t', '\t')]

inductive SpellsChar : Text → Char → Prop
  | plain {c : Char} (hc : 0x20 ≤ c.toNat) (hquote : c ≠ '"') (hslash : c ≠ '\\') :
    SpellsChar [c] c
  | short {letter c : Char} (h : (letter, c) ∈ shortEscapes) : SpellsChar ['\\', letter] c
  | unit {s : Text} {n : Nat} (hs : unit? s = some n) (hn : n.isValidChar) :
    SpellsChar ('\\' :: 'u' :: s) (Char.ofNat n)
  | pair {s t : Text} {high low : Nat} (hs : unit? s = some high) (ht : unit? t = some low)
    (hhigh : IsHigh high) (hlow : IsLow low) :
    SpellsChar ('\\' :: 'u' :: s ++ '\\' :: 'u' :: t) (Char.ofNat (joined high low))

inductive SpellsChars : Text → Text → Prop
  | nil : SpellsChars [] []
  | cons {s t cs : Text} {c : Char} (hs : SpellsChar s c) (ht : SpellsChars t cs) :
    SpellsChars (s ++ t) (c :: cs)

inductive SpellsString : Text → Text → Prop
  | quoted {s cs : Text} (h : SpellsChars s cs) : SpellsString ('"' :: s ++ ['"']) cs

/-- Digits, with no zero in front of others. -/
structure SpellsNumber (s : Text) (n : Nat) : Prop where
  nonempty : s ≠ []
  digits : ∀ c ∈ s, c.isDigit
  lead : s.head? = some '0' → s = ['0']
  value : Nat.ofDigitChars 10 s 0 = n

section Shapes

variable {α : Type} (P : Text → α → Prop)

/-- A spelling with space around it. -/
inductive Padded : Text → α → Prop
  | intro {before s after : Text} {a : α} (hbefore : IsSpace before) (hs : P s a)
    (hafter : IsSpace after) : Padded (before ++ s ++ after) a

/-- Spellings with commas between them. -/
inductive Row : Text → List α → Prop
  | last {s : Text} {a : α} (hs : P s a) : Row s [a]
  | more {s t : Text} {a : α} {rest : List α} (hs : P s a) (ht : Row t rest) :
    Row (s ++ ',' :: t) (a :: rest)

/-- Between two brackets stands a row, or space only. -/
inductive Enclosed (left right : Char) : Text → List α → Prop
  | nothing {s : Text} (hs : IsSpace s) : Enclosed left right (left :: s ++ [right]) []
  | row {s : Text} {items : List α} (hs : Row (Padded P) s items) :
    Enclosed left right (left :: s ++ [right]) items

/-- A key and what it leads to. -/
inductive Member : Text → Text × α → Prop
  | intro {s before after t key : Text} {a : α} (hs : SpellsString s key)
    (hbefore : IsSpace before) (hafter : IsSpace after) (ht : P t a) :
    Member (s ++ before ++ ':' :: after ++ t) (key, a)

end Shapes

/-- The text is a spelling of the value, with no space around it. -/
inductive Spells : Text → Json → Prop
  | null : Spells "null" .null
  | true : Spells "true" (.bool true)
  | false : Spells "false" (.bool false)
  | number {s : Text} {n : Nat} (h : SpellsNumber s n) : Spells s (.number n)
  | string {s cs : Text} (h : SpellsString s cs) : Spells s (.string cs)
  | array {s : Text} {items : List Json} (h : Enclosed Spells '[' ']' s items) :
    Spells s (.array items)
  | object {s : Text} {members : List (Text × Json)}
    (h : Enclosed (Member Spells) '\x7b' '\x7d' s members) : Spells s (.object members)

/-- A whole text that spells the value. -/
def IsJsonText (s : Text) (v : Json) : Prop := Padded Spells s v

/-! ### Spellings of strings and numbers -/

theorem unit?_of_control : ∀ n < 0x20,
    unit? ['0', '0', Nat.digitChar (n / 16), Nat.digitChar (n % 16)] = some n := by decide

theorem isValidChar_of_control {n : Nat} (hn : n < 0x20) : n.isValidChar := Or.inl (by omega)

theorem spellsChar_escape (c : Char) : SpellsChar (escape c) c := by
  unfold escape
  split_ifs with hquote hslash hn hr ht hb hf hcontrol
  · exact hquote ▸ .short (by decide)
  · exact hslash ▸ .short (by decide)
  · exact hn ▸ .short (by decide)
  · exact hr ▸ .short (by decide)
  · exact ht ▸ .short (by decide)
  · exact hb ▸ .short (by decide)
  · exact hf ▸ .short (by decide)
  · have h := SpellsChar.unit (unit?_of_control c.toNat hcontrol) (isValidChar_of_control hcontrol)
    rwa [Char.ofNat_toNat] at h
  · exact .plain (by omega) hquote hslash

theorem spellsChars_escape (cs : Text) : SpellsChars (cs.flatMap escape) cs := by
  induction cs with
  | nil => exact .nil
  | cons c cs ih => exact .cons (spellsChar_escape c) ih

theorem spellsString_quote (cs : Text) : SpellsString (quote cs) cs :=
  .quoted (spellsChars_escape cs)

/-- Only the decimal of zero begins with a zero. -/
theorem eq_zero_of_head?_decimal {n : Nat} (h : (Text.decimal n).head? = some '0') : n = 0 := by
  induction n using Nat.strongRecOn with
  | ind n ih =>
    by_cases hn : n < 10
    · rw [Text.decimal, Nat.toDigits_of_lt_base hn] at h
      exact Nat.digitChar_eq_zero.mp (Option.some.inj h)
    · have hsplit := Nat.toDigits_of_base_le (by decide) (Nat.le_of_not_lt hn)
      rw [Text.decimal, hsplit, List.head?_append_of_ne_nil _ Nat.toDigits_ne_nil] at h
      have hzero : n / 10 = 0 := ih (n / 10) (by omega) h
      omega

theorem spellsNumber_decimal (n : Nat) : SpellsNumber (Text.decimal n) n where
  nonempty := Nat.toDigits_ne_nil
  digits := fun _ hc => Nat.isDigit_of_mem_toDigits (by decide) (by decide) hc
  lead := fun h => by
    rw [eq_zero_of_head?_decimal h]
    rfl
  value := Nat.ofDigitChars_ten_toDigits

/-! ### The layout -/

theorem isSpace_newline (depth : Nat) : IsSpace (newline depth) := by
  intro c hc
  obtain rfl | hc := List.mem_cons.mp hc
  · decide
  · rw [List.eq_of_mem_replicate hc]
    decide

theorem isSpace_nil : IsSpace [] := fun _ hc => absurd hc List.not_mem_nil

theorem isSpace_singleton {c : Char} (h : c ∈ spaces) : IsSpace [c] :=
  fun _ hmem => List.mem_singleton.mp hmem ▸ h

section Shapes

variable {α : Type} {P : Text → α → Prop}

/-- Texts that begin on new lines make a row, and after the last one there may be another one. -/
theorem row_lines {before after t : Text} {ts : List Text} {a : α} {as : List α}
    (hbefore : IsSpace before) (hafter : IsSpace after)
    (h : List.Forall₂ P (t :: ts) (a :: as)) :
    Row (Padded P) (List.intercalate "," ((t :: ts).map (before ++ ·)) ++ after) (a :: as) := by
  induction ts generalizing t a as with
  | nil =>
    obtain ⟨ht, hnil⟩ := List.forall₂_cons.mp h
    cases hnil
    simpa using Row.last (Padded.intro hbefore ht hafter)
  | cons u us ih =>
    obtain ⟨ht, hrest⟩ := List.forall₂_cons.mp h
    cases hrest with
    | cons hu hus =>
      have hfirst : Padded P (before ++ t ++ []) a := .intro hbefore ht isSpace_nil
      have hrow := Row.more hfirst (ih (.cons hu hus))
      simpa [List.intercalate_cons_cons] using hrow

theorem enclosed_enclose (depth : Nat) (left right : Char) {ts : List Text} {as : List α}
    (h : List.Forall₂ P ts as) : Enclosed P left right (enclose depth left right ts) as := by
  cases h with
  | nil => exact .nothing isSpace_nil
  | cons ht hts =>
    have hrow := row_lines (isSpace_newline (depth + 1)) (isSpace_newline depth) (.cons ht hts)
    simpa [enclose] using (Enclosed.row hrow : Enclosed P left right _ _)

theorem member_quote {key t : Text} {a : α} (h : P t a) :
    Member P (quote key ++ ": " ++ t) (key, a) := by
  have hblank : IsSpace [' '] := isSpace_singleton (by decide)
  have hmember := Member.intro (spellsString_quote key) isSpace_nil hblank h
  simpa using hmember

end Shapes

mutual

theorem spells_layout (depth : Nat) : ∀ v : Json, Spells (layout depth v) v
  | .null => .null
  | .bool true => .true
  | .bool false => .false
  | .number n => .number (spellsNumber_decimal n)
  | .string s => .string (spellsString_quote s)
  | .array items => .array (enclosed_enclose depth '[' ']' (spells_layoutItems (depth + 1) items))
  | .object members =>
    .object (enclosed_enclose depth '\x7b' '\x7d' (spells_layoutMembers (depth + 1) members))

theorem spells_layoutItems (depth : Nat) :
    ∀ items : List Json, List.Forall₂ Spells (layoutItems depth items) items
  | [] => .nil
  | item :: rest => .cons (spells_layout depth item) (spells_layoutItems depth rest)

theorem spells_layoutMembers (depth : Nat) : ∀ members : List (Text × Json),
    List.Forall₂ (Member Spells) (layoutMembers depth members) members
  | [] => .nil
  | (_, value) :: rest =>
    .cons (member_quote (spells_layout depth value))
      (spells_layoutMembers depth rest)

end

/-- The printed form of a value, alone on its line, spells it. -/
theorem isJsonText_print (v : Json) : IsJsonText (v.print ++ "\n") v :=
  .intro isSpace_nil (spells_layout 0 v) (isSpace_singleton (by decide))

end RuleTable.JsonText
