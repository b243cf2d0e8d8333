import RuleTable.Proofs.JsonText

/-!
A reader of JSON. Each part takes what it reads from the front of a text and gives back the rest.
A text that spells a value is read as that value, however it is spaced and escaped; so no text
spells two values.
-/
namespace RuleTable.JsonReading

open Json JsonText

def skip (s : Text) : Text := s.dropWhile (· ∈ spaces)

def readUnit (s : Text) : Option (Nat × Text) := (unit? (s.take 4)).map (·, s.drop 4)

/-- The second half of a pair whose first half is `high`. -/
def readLow (high : Nat) : Text → Option (Char × Text)
  | '\\' :: 'u' :: s =>
    (readUnit s).bind (fun (low, rest) =>
      if IsHigh high ∧ IsLow low then some (Char.ofNat (joined high low), rest) else none)
  | _ => none

/-- What stands behind a backslash. -/
def readEscape : Text → Option (Char × Text)
  | [] => none
  | 'u' :: s =>
    (readUnit s).bind (fun (n, rest) =>
      if n.isValidChar then some (Char.ofNat n, rest) else readLow n rest)
  | letter :: rest => (shortEscapes.lookup letter).map (·, rest)

def readChar : Text → Option (Char × Text)
  | [] => none
  | '\\' :: s => readEscape s
  | c :: rest => if c.toNat < 0x20 ∨ c = '"' then none else some (c, rest)

/-- Characters up to a quote, fewer than `fuel`. -/
def readChars : Nat → Text → Option (Text × Text)
  | 0, _ => none
  | _ + 1, '"' :: rest => some ([], rest)
  | fuel + 1, s =>
    (readChar s).bind (fun (c, s) => (readChars fuel s).map (fun (cs, rest) => (c :: cs, rest)))

def readString : Text → Option (Text × Text)
  | '"' :: s => readChars (s.length + 1) s
  | _ => none

def readNumber (s : Text) : Option (Nat × Text) :=
  let digits := s.takeWhile Char.isDigit
  if digits.isEmpty ∨ (digits.head? = some '0' ∧ digits ≠ ['0']) then none
  else some (Nat.ofDigitChars 10 digits 0, s.dropWhile Char.isDigit)

section Shapes

variable {α : Type} (readOne : Text → Option (α × Text))

def readPadded (s : Text) : Option (α × Text) :=
  (readOne (skip s)).map (fun (a, rest) => (a, skip rest))

/-- Items with commas between them, at most `fuel`, up to the bracket that closes them. -/
def readRow (close : Char) : Nat → Text → Option (List α × Text)
  | 0, _ => none
  | fuel + 1, s =>
    (readOne s).bind (fun (a, s) =>
      match s with
      | [] => none
      | c :: rest =>
        if c = ',' then (readRow close fuel rest).map (fun (as, rest) => (a :: as, rest))
        else if c = close then some ([a], rest)
        else none)

/-- What stands behind an opening bracket. -/
def readEnclosed (close : Char) (s : Text) : Option (List α × Text) :=
  match skip s with
  | [] => none
  | c :: rest =>
    if c = close then some ([], rest) else readRow (readPadded readOne) close (s.length + 1) s

def readMember (s : Text) : Option ((Text × α) × Text) :=
  (readString s).bind (fun (key, s) =>
    match skip s with
    | ':' :: s => (readOne (skip s)).map (fun (a, rest) => ((key, a), rest))
    | _ => none)

end Shapes

def words : List (Text × Json) := [("null", .null), ("true", .bool true), ("false", .bool false)]

def readWord (s : Text) : Option (Json × Text) :=
  (words.find? (fun (word, _) => word.isPrefixOf s)).map (fun (word, v) => (v, s.drop word.length))

/-- A value with fewer than `depth` values around each other. -/
def readValue : Nat → Text → Option (Json × Text)
  | 0, _ => none
  | depth + 1, s =>
    match s with
    | '[' :: s =>
      (readEnclosed (readValue depth) ']' s).map (fun (items, rest) => (.array items, rest))
    | '\x7b' :: s =>
      (readEnclosed (readMember (readValue depth)) '\x7d' s).map (fun (members, rest) =>
        (.object members, rest))
    | '"' :: _ => (readString s).map (fun (cs, rest) => (.string cs, rest))
    | _ => (readWord s).or ((readNumber s).map (fun (n, rest) => (.number n, rest)))

/-- The value of a whole text. -/
def read? (s : Text) : Option Json :=
  match readPadded (readValue s.length) s with
  | some (v, []) => some v
  | _ => none

/-! ### Strings -/

theorem length_of_unit? {s : Text} {n : Nat} (h : unit? s = some n) : s.length = 4 := by
  unfold unit? at h
  split at h
  · assumption
  · cases h

theorem readUnit_append {s : Text} {n : Nat} (h : unit? s = some n) (rest : Text) :
    readUnit (s ++ rest) = some (n, rest) := by
  have hlength := length_of_unit? h
  simp only [readUnit, List.take_left' hlength, List.drop_left' hlength, h, Option.map_some]

theorem lookup_shortEscapes : ∀ p ∈ shortEscapes,
    p.1 ≠ 'u' ∧ shortEscapes.lookup p.1 = some p.2 := by decide

/-- The first half of a pair is no character of its own. -/
theorem not_isValidChar_of_isHigh {n : Nat} (h : IsHigh n) : ¬ n.isValidChar := by
  simp only [IsHigh, Nat.isValidChar] at *
  omega

theorem readChar_append {s : Text} {c : Char} (h : SpellsChar s c) (rest : Text) :
    readChar (s ++ rest) = some (c, rest) := by
  cases h with
  | plain hc hquote hslash => simp [readChar, hquote, Nat.not_lt.mpr hc]
  | short h =>
    obtain ⟨hu, hlookup⟩ := lookup_shortEscapes _ h
    simp [readChar, readEscape, hlookup]
  | unit hs hn => simp [readChar, readEscape, readUnit_append hs, hn]
  | pair hs ht hhigh hlow =>
    simp [readChar, readEscape, readLow, readUnit_append hs, readUnit_append ht, hhigh, hlow,
      not_isValidChar_of_isHigh hhigh]

theorem head_of_spellsChar {s : Text} {c : Char} (h : SpellsChar s c) :
    ∃ d t, s = d :: t ∧ d ≠ '"' := by
  cases h with
  | plain _ hquote _ => exact ⟨_, _, rfl, hquote⟩
  | short => exact ⟨_, _, rfl, by decide⟩
  | unit => exact ⟨_, _, rfl, by decide⟩
  | pair => exact ⟨_, _, rfl, by decide⟩

theorem length_le_of_spellsChars {s cs : Text} (h : SpellsChars s cs) : cs.length ≤ s.length := by
  induction h with
  | nil => exact Nat.le_refl 0
  | cons hs _ ih =>
    obtain ⟨d, t, rfl, -⟩ := head_of_spellsChar hs
    simp only [List.length_cons, List.length_append]
    omega

theorem readChars_append {s cs : Text} (h : SpellsChars s cs) {fuel : Nat}
    (hfuel : cs.length < fuel) (rest : Text) :
    readChars fuel (s ++ '"' :: rest) = some (cs, rest) := by
  induction h generalizing fuel with
  | nil =>
    obtain ⟨fuel, rfl⟩ := Nat.exists_eq_add_one_of_ne_zero (Nat.ne_of_gt hfuel)
    rfl
  | @cons s t cs c hs _ ih =>
    obtain ⟨fuel, rfl⟩ := Nat.exists_eq_add_one_of_ne_zero (Nat.ne_of_gt (Nat.zero_lt_of_lt hfuel))
    have hchar := readChar_append hs (t ++ '"' :: rest)
    have hchars := ih (Nat.lt_of_succ_lt_succ hfuel)
    obtain ⟨d, u, rfl, hquote⟩ := head_of_spellsChar hs
    simp only [List.cons_append, List.append_assoc] at hchar ⊢
    simp [readChars, hquote, hchar, hchars]

theorem readString_append {s cs : Text} (h : SpellsString s cs) (rest : Text) :
    readString (s ++ rest) = some (cs, rest) := by
  obtain ⟨hchars⟩ := h
  have hle := length_le_of_spellsChars hchars
  simp only [readString, List.cons_append, List.append_assoc, List.nil_append]
  refine readChars_append hchars ?_ rest
  simp only [List.length_append]
  omega

/-! ### Numbers and space -/

theorem takeWhile_append_stop {p : Char → Bool} {s rest : Text} (hs : ∀ c ∈ s, p c)
    (hrest : ∀ c ∈ rest.head?, p c = false) :
    (s ++ rest).takeWhile p = s ∧ (s ++ rest).dropWhile p = rest := by
  rw [List.takeWhile_append_of_pos hs, List.dropWhile_append_of_pos hs]
  cases rest with
  | nil => simp
  | cons c rest => simp [hrest c rfl]

theorem readNumber_append {s rest : Text} {n : Nat} (h : SpellsNumber s n)
    (hrest : ∀ c ∈ rest.head?, c.isDigit = false) : readNumber (s ++ rest) = some (n, rest) := by
  obtain ⟨htake, hdrop⟩ := takeWhile_append_stop h.digits hrest
  have hlead : ¬ (s.head? = some '0' ∧ s ≠ ['0']) := fun hl => hl.2 (h.lead hl.1)
  simp [readNumber, htake, hdrop, h.nonempty, hlead, h.value]

theorem skip_append {s rest : Text} (hs : IsSpace s) (hrest : ∀ c ∈ rest.head?, c ∉ spaces) :
    skip (s ++ rest) = rest :=
  (takeWhile_append_stop (by simpa [IsSpace] using hs) (by simpa using hrest)).2

/-! ### Items between brackets -/

def closers : List Char := [',', ']', '\x7d']

/-- What may follow a value that has no space around it. -/
def followers : List Char := spaces ++ closers

/-- Whatever is spelled is read in front of the characters that may follow, if it is no longer
than `most`. -/
def Reads {α : Type} (readOne : Text → Option (α × Text)) (P : Text → α → Prop)
    (stop : List Char) (most : Nat) : Prop :=
  ∀ (s : Text) (a : α) (rest : Text), P s a → s.length ≤ most → (∀ c ∈ rest.head?, c ∈ stop) →
    readOne (s ++ rest) = some (a, rest)

/-- A spelling begins with a character that neither is space nor ends an item. -/
def Begins {α : Type} (P : Text → α → Prop) : Prop :=
  ∀ (s : Text) (a : α), P s a → ∃ c t, s = c :: t ∧ c ∉ followers

section Shapes

variable {α : Type} {readOne : Text → Option (α × Text)} {P : Text → α → Prop} {most : Nat}

theorem skip_begins (hP : Begins P) {before s : Text} {a : α} (hbefore : IsSpace before)
    (hs : P s a) (rest : Text) : skip (before ++ s ++ rest) = s ++ rest := by
  obtain ⟨c, t, rfl, hc⟩ := hP s a hs
  rw [List.append_assoc]
  refine skip_append hbefore ?_
  simp only [List.cons_append, List.head?_cons, Option.mem_some_iff]
  rintro _ rfl hspace
  exact hc (List.mem_append_left _ hspace)

theorem not_mem_spaces_of_mem_closers : ∀ c ∈ closers, c ∉ spaces := by simp [closers, spaces]

theorem follows_space {s rest : Text} (hs : IsSpace s) (hrest : ∀ c ∈ rest.head?, c ∈ closers) :
    ∀ c ∈ (s ++ rest).head?, c ∈ followers := by
  intro c hc
  cases s with
  | nil => exact List.mem_append_right _ (hrest c hc)
  | cons d s =>
    obtain rfl := Option.some.inj hc
    exact List.mem_append_left _ (hs d List.mem_cons_self)

theorem reads_padded (hP : Begins P) (h : Reads readOne P followers most) :
    Reads (readPadded readOne) (Padded P) closers most := by
  rintro _ a rest @⟨before, s, after, _, hbefore, hs, hafter⟩ hmost hrest
  simp only [List.length_append] at hmost
  have hskip := skip_begins hP hbefore hs (after ++ rest)
  have hread := h s a (after ++ rest) hs (by omega) (follows_space hafter hrest)
  have hend := skip_append hafter (fun c hc => not_mem_spaces_of_mem_closers c (hrest c hc))
  simp only [List.append_assoc] at hskip ⊢
  simp [readPadded, hskip, hread, hend]

theorem length_le_of_row {s : Text} {items : List α} (h : Row P s items) :
    items.length ≤ s.length + 1 := by
  induction h with
  | last => exact Nat.le_add_left 1 _
  | more _ _ ih =>
    simp only [List.length_cons, List.length_append]
    omega

theorem readRow_append (h : Reads readOne P closers most) {close : Char}
    (hclose : close ∈ closers) (hcomma : close ≠ ',') {s : Text} {items : List α}
    (hs : Row P s items) (hmost : s.length ≤ most) {fuel : Nat} (hfuel : items.length ≤ fuel)
    (rest : Text) : readRow readOne close fuel (s ++ close :: rest) = some (items, rest) := by
  induction hs generalizing fuel with
  | last hs =>
    obtain ⟨fuel, rfl⟩ := Nat.exists_eq_add_one_of_ne_zero (Nat.ne_of_gt hfuel)
    have hread := h _ _ (close :: rest) hs hmost (by simpa using hclose)
    simp [readRow, hread, hcomma]
  | @more s t a items hs _ ih =>
    obtain ⟨fuel, rfl⟩ := Nat.exists_eq_add_one_of_ne_zero (Nat.ne_of_gt (Nat.zero_lt_of_lt hfuel))
    simp only [List.length_append, List.length_cons] at hmost
    have hread := h s a (',' :: (t ++ close :: rest)) hs (by omega) (by simp [closers])
    have hrest := ih (by omega) (Nat.le_of_succ_le_succ hfuel)
    simp only [List.append_assoc, List.cons_append]
    simp [readRow, hread, hrest]

/-- A row does not begin with the bracket that closes it. -/
theorem skip_row (hP : Begins P) {close : Char} (hclose : close ∈ closers) {s : Text}
    {items : List α} (hs : Row (Padded P) s items) (rest : Text) :
    ∃ c t, skip (s ++ rest) = c :: t ∧ c ≠ close := by
  have hfirst : ∀ (u : Text) (a : α) (after : Text), Padded P u a →
      ∃ c t, skip (u ++ after) = c :: t ∧ c ≠ close := by
    rintro _ a after @⟨before, u, space, _, hbefore, hu, -⟩
    have hskip := skip_begins hP hbefore hu (space ++ after)
    rw [← List.append_assoc] at hskip
    obtain ⟨c, t, rfl, hc⟩ := hP u a hu
    exact ⟨c, t ++ (space ++ after), hskip, fun h => hc (List.mem_append_right _ (h ▸ hclose))⟩
  cases hs with
  | last hs => exact hfirst _ _ rest hs
  | more hs _ =>
    rw [List.append_assoc]
    exact hfirst _ _ _ hs

theorem readEnclosed_append (hP : Begins P) (h : Reads readOne P followers most)
    {left close : Char} (hclose : close ∈ closers) (hcomma : close ≠ ',') {s : Text}
    {items : List α} (hs : Enclosed P left close s items) (hmost : s.length ≤ most + 2)
    (rest : Text) :
    ∃ t, s = left :: t ∧ readEnclosed readOne close (t ++ rest) = some (items, rest) := by
  cases hs with
  | @nothing s hs =>
    have hskip : skip (s ++ close :: rest) = close :: rest :=
      skip_append hs (by simpa using not_mem_spaces_of_mem_closers close hclose)
    refine ⟨s ++ [close], rfl, ?_⟩
    simp [readEnclosed, hskip]
  | @row s _ hs =>
    obtain ⟨c, t, hskip, hc⟩ := skip_row hP hclose hs (close :: rest)
    have hle := length_le_of_row hs
    simp only [List.cons_append, List.length_cons, List.length_append, List.length_nil] at hmost
    have hfuel : items.length ≤ (s ++ close :: rest).length + 1 := by
      simp only [List.length_append]
      omega
    have hrow := readRow_append (reads_padded hP h) hclose hcomma hs (by omega) hfuel rest
    refine ⟨s ++ [close], rfl, ?_⟩
    rw [List.append_assoc, List.singleton_append, readEnclosed, hskip]
    simp only [if_neg hc, hrow]

theorem begins_member : Begins (Member P) := by
  rintro _ _ ⟨⟨-⟩, -, -, -⟩
  exact ⟨_, _, rfl, by decide⟩

theorem reads_member (hP : Begins P) (h : Reads readOne P followers most) :
    Reads (readMember readOne) (Member P) followers most := by
  rintro _ _ rest @⟨s, before, after, t, key, a, hs, hbefore, hafter, ht⟩ hmost hrest
  simp only [List.length_append, List.length_cons] at hmost
  have hkey := readString_append hs (before ++ ':' :: (after ++ (t ++ rest)))
  have hcolon : skip (before ++ ':' :: (after ++ (t ++ rest))) = ':' :: (after ++ (t ++ rest)) :=
    skip_append hbefore (by simp [spaces])
  have hvalue := skip_begins hP hafter ht rest
  have hread := h t a rest ht (by omega) hrest
  simp only [List.append_assoc, List.cons_append] at hvalue ⊢
  simp [readMember, hkey, hcolon, hvalue, hread]

end Shapes

/-! ### Values -/

theorem not_mem_followers_of_isDigit {c : Char} (hc : c.isDigit) : c ∉ followers := by
  have hdigits : followers.all (fun d => !d.isDigit) = true := by decide
  intro hmem
  have hno := List.all_eq_true.mp hdigits c hmem
  rw [hc] at hno
  cases hno

theorem begins_enclosed {α : Type} {P : Text → α → Prop} {left right : Char} {s : Text}
    {items : List α} (h : Enclosed P left right s items) (hleft : left ∉ followers) :
    ∃ c t, s = c :: t ∧ c ∉ followers := by
  cases h <;> exact ⟨left, _, rfl, hleft⟩

theorem begins_spells : Begins Spells := by
  intro s v h
  cases h with
  | null => exact ⟨_, _, rfl, by decide⟩
  | true => exact ⟨_, _, rfl, by decide⟩
  | false => exact ⟨_, _, rfl, by decide⟩
  | number h =>
    obtain ⟨c, t, rfl⟩ := List.exists_cons_of_ne_nil h.nonempty
    exact ⟨c, t, rfl, not_mem_followers_of_isDigit (h.digits c List.mem_cons_self)⟩
  | string h =>
    cases h
    exact ⟨_, _, rfl, by decide⟩
  | array h => exact begins_enclosed h (by decide)
  | object h => exact begins_enclosed h (by decide)

/-- Digits begin no other value. -/
theorem readValue_digit {c : Char} (hc : c.isDigit) (depth : Nat) (s : Text) :
    readValue (depth + 1) (c :: s) =
      (readNumber (c :: s)).map (fun (n, rest) => (.number n, rest)) := by
  have hne : ∀ d : Char, d.isDigit = false → c ≠ d := by
    rintro _ hd rfl
    rw [hc] at hd
    cases hd
  have hword : readWord (c :: s) = none := by
    have hn := hne 'n' (by decide)
    have ht := hne 't' (by decide)
    have hf := hne 'f' (by decide)
    simp [readWord, words, List.isPrefixOf, hn.symm, ht.symm, hf.symm]
  rw [readValue, hword, Option.none_or]
  · exact fun _ heq => hne '[' (by decide) (List.cons.inj heq).1
  · exact fun _ heq => hne '\x7b' (by decide) (List.cons.inj heq).1
  · exact fun _ heq => hne '"' (by decide) (List.cons.inj heq).1

theorem reads_value (depth : Nat) : Reads (readValue depth) Spells followers depth := by
  induction depth with
  | zero =>
    intro s v rest hs hmost
    obtain ⟨c, t, rfl, -⟩ := begins_spells s v hs
    cases hmost
  | succ depth ih =>
    intro s v rest hs hmost hrest
    cases hs with
    | null => rfl
    | true => rfl
    | false => rfl
    | number h =>
      have hstop : ∀ c ∈ rest.head?, c.isDigit = false := fun c hc =>
        Bool.eq_false_iff.mpr (fun hd => not_mem_followers_of_isDigit hd (hrest c hc))
      have hread := readNumber_append h hstop
      obtain ⟨c, t, rfl⟩ := List.exists_cons_of_ne_nil h.nonempty
      rw [List.cons_append] at hread ⊢
      rw [readValue_digit (h.digits c List.mem_cons_self), hread]
      rfl
    | string h =>
      have hread := readString_append h rest
      cases h
      simp only [List.cons_append] at hread ⊢
      rw [readValue, hread]
      rfl
    | array h =>
      obtain ⟨t, rfl, hread⟩ := readEnclosed_append begins_spells ih (by decide) (by decide) h
        (by omega) rest
      simp [readValue, hread]
    | object h =>
      obtain ⟨t, rfl, hread⟩ := readEnclosed_append begins_member
        (reads_member begins_spells ih) (by decide) (by decide) h (by omega) rest
      simp [readValue, hread]

/-- A text that spells a value is read as that value. -/
theorem read?_eq_some {s : Text} {v : Json} (h : IsJsonText s v) : read? s = some v := by
  have hread := reads_padded begins_spells (reads_value s.length) s v [] h (Nat.le_refl _) (by simp)
  rw [List.append_nil] at hread
  simp [read?, hread]

-- Spaces and escapes that the layout never writes.
example : read? "[ \"\\ud83d\\ude00\\/\" ,7]" =
    some (.array [.string ['😀', '/'], .number 7]) := rfl

/-- No text spells two values. -/
theorem isJsonText_unique {s : Text} {v w : Json} (hv : IsJsonText s v) (hw : IsJsonText s w) :
    v = w :=
  Option.some.inj ((read?_eq_some hv).symm.trans (read?_eq_some hw))

end RuleTable.JsonReading
