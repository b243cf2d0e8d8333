import RuleTable.Proofs.Bodies
import RuleTable.Proofs.Generation
import RuleTable.Proofs.LineNumbering

/-!
Exactly which texts have no code. A line refuses if what stands before its comment is a label and
a body around one colon, and the body repeats a token. The earliest such line of a text, counted
with the blank ones, gives the error; what follows it has no say.
-/
namespace RuleTable.Refusal

open Text Splitting Doubled Reading Bodies LineNumbering Generation

/-- The part of a line before its first doubled slash, or all of it if there is none. -/
def IsBeforeComment (raw before : Text) : Prop :=
  (raw = before ∧ ¬['/', '/'] <:+: raw) ∨
  ∃ comment, raw = before ++ comment ∧ ['/', '/'] <+: comment ∧ ¬['/', '/'] <:+: before ++ ['/']

/-- The body has a repetition marker, and this frequency is that of the first by priority. -/
inductive Repeats (body : Text) : Frequency → Prop
  | zeroOrMore (h : '*' ∈ body) : Repeats body .zeroOrMore
  | zeroOrOne (hstar : '*' ∉ body) (h : '?' ∈ body) : Repeats body .zeroOrOne
  | oneOrMore (hstar : '*' ∉ body) (hquestion : '?' ∉ body) (h : '+' ∈ body) :
      Repeats body .oneOrMore

/-- What is left of the body starts as a token and does not become a disjunction. -/
def IsTokenBody (body : Text) : Prop :=
  let bare := body.filter (fun c => c ∉ ['(', ')', '*', '?', '+', ' '])
  bare.head? = some '_' ∧ ¬['|', '|'] <:+: bare

/-- The line asks for a token of this label to repeat. -/
def RepeatsToken (raw label : Text) (frequency : Frequency) : Prop :=
  ∃ before left body, IsBeforeComment raw before ∧ before = left ++ ':' :: body ∧ ':' ∉ left ∧
    ':' ∉ body ∧ ¬isBlank left = true ∧ label = trim left ∧ Repeats (trim body) frequency ∧
    IsTokenBody (trim body)

theorem isBeforeComment_iff (raw before : Text) :
    IsBeforeComment raw before ↔ (cutDoubled '/' raw).1 = before := by
  constructor
  · intro h
    rcases h with ⟨rfl, hno⟩ | ⟨comment, hraw, hmark, hfirst⟩
    · rw [cutDoubled_eq_none_iff.mpr ⟨rfl, hno⟩]
    · rw [cutDoubled_eq_some_iff.mpr ⟨hraw, hmark, hfirst⟩]
  · intro h
    cases hcut : cutDoubled '/' raw with
    | mk before' comment =>
      rw [hcut] at h
      dsimp only at h
      subst h
      cases comment with
      | none =>
        obtain ⟨rfl, hno⟩ := cutDoubled_eq_none_iff.mp hcut
        exact Or.inl ⟨rfl, hno⟩
      | some comment => exact Or.inr ⟨comment, cutDoubled_eq_some_iff.mp hcut⟩

theorem repeats_iff (body : Text) (frequency : Frequency) :
    Repeats body frequency ↔ Frequency.ofBody body = frequency ∧ frequency ≠ .one := by
  unfold Frequency.ofBody
  constructor
  · intro h
    rcases h with h | ⟨hstar, h⟩ | ⟨hstar, hquestion, h⟩
    · simp [h]
    · simp [hstar, h]
    · simp [hstar, hquestion, h]
  · intro h
    obtain ⟨rfl, hone⟩ := h
    split at hone
    · next h =>
      rw [if_pos h]
      exact .zeroOrMore h
    · next hstar =>
      rw [if_neg hstar]
      split at hone
      · next h =>
        rw [if_pos h]
        exact .zeroOrOne hstar h
      · next hquestion =>
        rw [if_neg hquestion]
        split at hone
        · next h =>
          rw [if_pos h]
          exact .oneOrMore hstar hquestion h
        · exact absurd rfl hone

/-- A token always has an operand, since a single underscore is one. -/
theorem operandsOf_ne_nil_of_token {body : Text}
    (h : Kind.ofBare (bareBody body) = .token) : operandsOf body ≠ [] := by
  have hhead := ((ofBare_eq_token_iff _).mp h).1
  obtain ⟨piece, pieces, hsplit⟩ := exists_piece_of_head (d := '&') (by decide) hhead
  unfold operandsOf
  rw [h, Kind.separator, hsplit]
  simp

theorem ofBody?_repeated_iff (body : Text) (frequency : Frequency) :
    (∃ r, Rule.ofBody? body = some r ∧ r.isRepeatedToken = true ∧ frequency = r.frequency) ↔
      Repeats body frequency ∧ IsTokenBody body := by
  unfold IsTokenBody
  rw [← bareBody_eq_filter, ← ofBare_eq_token_iff, repeats_iff]
  constructor
  · intro h
    obtain ⟨r, hr, hrepeated, rfl⟩ := h
    obtain ⟨-, rfl⟩ := (ofBody?_eq_some_iff body r).mp hr
    simp only [Rule.isRepeatedToken, decide_eq_true_eq] at hrepeated
    exact ⟨⟨rfl, hrepeated.2⟩, hrepeated.1⟩
  · intro h
    obtain ⟨⟨rfl, hone⟩, htoken⟩ := h
    refine ⟨_, (ofBody?_eq_some_iff body _).mpr ⟨operandsOf_ne_nil_of_token htoken, rfl⟩, ?_, rfl⟩
    simp only [Rule.isRepeatedToken, decide_eq_true_eq]
    exact ⟨htoken, hone⟩

/-- A line is refused exactly if it asks for a token to repeat. -/
theorem refusal?_parse_iff (number : Nat) (raw : Text) (e : RepeatedToken) :
    refusal? (Line.parse number raw) = some e ↔
      RepeatsToken raw e.label e.frequency ∧ e.line = number := by
  rw [refusal?_eq_some_iff]
  constructor
  · intro h
    obtain ⟨d, hd, hrepeated, rfl⟩ := h
    have hreading := (definition?_eq_some_iff _ _).mp hd
    obtain ⟨left, body, hbefore, hleft, hbody, hlabel, hd, -, hrule⟩ :=
      (ofText_eq_defines_iff _ d).mp hreading
    obtain ⟨hrepeats, htoken⟩ :=
      (ofBody?_repeated_iff (trim body) d.rule.frequency).mp ⟨d.rule, hrule, hrepeated, rfl⟩
    rw [ne_eq, trim_eq_nil_iff] at hlabel
    exact ⟨⟨_, left, body, (isBeforeComment_iff _ _).mpr rfl, hbefore, hleft, hbody, hlabel, hd,
      hrepeats, htoken⟩, rfl⟩
  · intro h
    obtain ⟨hrepeatsToken, hline⟩ := h
    obtain ⟨before, left, body, hcut, hbefore, hleft, hbody, hlabel, hd, hrepeats, htoken⟩ :=
      hrepeatsToken
    obtain ⟨r, hrule, hrepeated, hfrequency⟩ :=
      (ofBody?_repeated_iff (trim body) e.frequency).mpr ⟨hrepeats, htoken⟩
    have hnonempty : trim body ≠ [] := by
      intro hempty
      rw [hempty] at htoken
      simp [IsTokenBody] at htoken
    rw [← trim_eq_nil_iff] at hlabel
    have hreading : Line.reading raw = .defines ⟨trim left, r⟩ := by
      rw [Line.reading, (isBeforeComment_iff raw before).mp hcut]
      exact (ofText_eq_defines_iff before _).mpr
        ⟨left, body, hbefore, hleft, hbody, hlabel, rfl, hnonempty, hrule⟩
    refine ⟨⟨trim left, r⟩, (definition?_eq_some_iff _ _).mpr hreading, hrepeated, ?_⟩
    obtain ⟨label, line, frequency⟩ := e
    dsimp only at hd hline hfrequency
    subst hd hline hfrequency
    rfl

theorem refusal?_parse_eq_none_iff (number : Nat) (raw : Text) :
    refusal? (Line.parse number raw) = none ↔
      ∀ label frequency, ¬RepeatsToken raw label frequency := by
  rw [Option.eq_none_iff_forall_ne_some]
  constructor
  · intro h label frequency hrepeats
    exact h ⟨label, number, frequency⟩ ((refusal?_parse_iff _ _ _).mpr ⟨hrepeats, rfl⟩)
  · intro h e he
    exact h _ _ ((refusal?_parse_iff _ _ _).mp he).1

/-- A line that asks for a token to repeat has a colon, so it is not left out as blank. -/
theorem not_blank_of_repeatsToken {raw label : Text} {frequency : Frequency}
    (h : RepeatsToken raw label frequency) : ¬isBlank raw = true := by
  obtain ⟨before, left, body, hcut, hbefore, -⟩ := h
  have hcolon : ':' ∈ raw := by
    rw [← cutDoubled_append '/' raw, (isBeforeComment_iff raw before).mp hcut, hbefore]
    simp
  intro hblank
  exact absurd (List.all_eq_true.mp hblank ':' hcolon) (by decide)

/-- Leaving the blank lines out changes nothing about the first refusal. -/
theorem findSome?_refusal_parse (s : Text) :
    (Grammar.parse s).findSome? refusal? =
      ((lines s).zipIdx 1).findSome? (fun numbered =>
        refusal? (Line.parse numbered.2 numbered.1)) := by
  rw [parse_eq]
  induction (lines s).zipIdx 1 with
  | nil => rfl
  | cons numbered rest ih =>
    by_cases hblank : isBlank numbered.1 = true
    · have hnone : refusal? (Line.parse numbered.2 numbered.1) = none := by
        rw [refusal?_parse_eq_none_iff]
        intro label frequency hrepeats
        exact not_blank_of_repeatsToken hrepeats hblank
      have hskip : keep numbered = none := if_pos hblank
      rw [List.filterMap_cons_none hskip, List.findSome?_cons, hnone]
      exact ih
    · have hkeep : keep numbered = some (Line.parse numbered.2 numbered.1) := if_neg hblank
      rw [List.filterMap_cons_some hkeep, List.findSome?_cons, List.findSome?_cons, ih]

/-- The first result over numbered entries is at the least position that has one. -/
theorem findSome?_zipIdx_eq_some_iff {α β : Type} (l : List α) (k : Nat) (f : α × Nat → Option β)
    (b : β) :
    (l.zipIdx k).findSome? f = some b ↔
      ∃ i a, l[i]? = some a ∧ f (a, k + i) = some b ∧
        ∀ j a', j < i → l[j]? = some a' → f (a', k + j) = none := by
  induction l generalizing k with
  | nil => simp
  | cons first rest ih =>
    rw [List.zipIdx_cons, List.findSome?_cons]
    cases hfirst : f (first, k) with
    | some b' =>
      dsimp only
      constructor
      · intro h
        refine ⟨0, first, rfl, hfirst.trans h, ?_⟩
        intro j a' hj
        omega
      · intro h
        obtain ⟨i, a, hi, ha, hbefore⟩ := h
        cases i with
        | zero =>
          obtain rfl : first = a := by simpa using hi
          exact hfirst.symm.trans ha
        | succ i =>
          have hnone := hbefore 0 first (Nat.succ_pos i) rfl
          rw [Nat.add_zero, hfirst] at hnone
          cases hnone
    | none =>
      dsimp only
      rw [ih]
      constructor
      · intro h
        obtain ⟨i, a, hi, ha, hbefore⟩ := h
        have hshift : k + 1 + i = k + (i + 1) := by omega
        refine ⟨i + 1, a, by simpa using hi, by rwa [← hshift], ?_⟩
        intro j a' hj hja
        cases j with
        | zero =>
          obtain rfl : first = a' := by simpa using hja
          exact hfirst
        | succ j =>
          have hprev := hbefore j a' (by omega) (by simpa using hja)
          rwa [show k + (j + 1) = k + 1 + j by omega]
      · intro h
        obtain ⟨i, a, hi, ha, hbefore⟩ := h
        cases i with
        | zero =>
          obtain rfl : first = a := by simpa using hi
          rw [Nat.add_zero, hfirst] at ha
          cases ha
        | succ i =>
          have hshift : k + 1 + i = k + (i + 1) := by omega
          refine ⟨i, a, by simpa using hi, by rwa [hshift], ?_⟩
          intro j a' hj hja
          have hprev := hbefore (j + 1) a' (by omega) (by simpa using hja)
          rwa [show k + 1 + j = k + (j + 1) by omega]

/-- The code of a text fails with the error of its earliest line that asks for a token to repeat. -/
theorem code_parse_eq_error (g : Generator) (s : Text) (e : RepeatedToken) :
    g.code (Grammar.parse s) = .error e ↔
      ∃ i raw, (lines s)[i]? = some raw ∧ RepeatsToken raw e.label e.frequency ∧ e.line = i + 1 ∧
        ∀ j earlier, j < i → (lines s)[j]? = some earlier →
          ∀ label frequency, ¬RepeatsToken earlier label frequency := by
  rw [code_eq_error_iff, findSome?_refusal_parse, findSome?_zipIdx_eq_some_iff]
  simp only [refusal?_parse_iff, refusal?_parse_eq_none_iff, and_assoc, Nat.add_comm 1]

/-- Code fails exactly for the texts with a line that asks for a token to repeat. The error has the
label, number and frequency of the earliest one, and no line after it matters. -/
theorem code_fails_iff (g : Generator) (s : Text) :
    ((∃ e, g.code (Grammar.parse s) = .error e) ↔
      ∃ raw ∈ lines s, ∃ label frequency, RepeatsToken raw label frequency) ∧
    (∀ e, g.code (Grammar.parse s) = .error e ↔
      ∃ i raw, (lines s)[i]? = some raw ∧ RepeatsToken raw e.label e.frequency ∧ e.line = i + 1 ∧
        ∀ j earlier, j < i → (lines s)[j]? = some earlier →
          ∀ label frequency, ¬RepeatsToken earlier label frequency) ∧
    ∀ e s', g.code (Grammar.parse s) = .error e →
      (lines s').take e.line = (lines s).take e.line → g.code (Grammar.parse s') = .error e := by
  refine ⟨⟨?_, ?_⟩, code_parse_eq_error g s, ?_⟩
  · intro h
    obtain ⟨e, he⟩ := h
    obtain ⟨i, raw, hi, hraw, -⟩ := (code_parse_eq_error g s e).mp he
    exact ⟨raw, List.mem_of_getElem? hi, e.label, e.frequency, hraw⟩
  · intro h
    obtain ⟨raw, hmem, label, frequency, hraw⟩ := h
    obtain ⟨i, hi⟩ := List.mem_iff_getElem?.mp hmem
    have hnumbered : (raw, i + 1) ∈ (lines s).zipIdx 1 :=
      List.mk_mem_zipIdx_iff_le_and_getElem?_sub.mpr ⟨by omega, by simpa using hi⟩
    have hrefused := (refusal?_parse_iff (i + 1) raw ⟨label, i + 1, frequency⟩).mpr ⟨hraw, rfl⟩
    cases hcode : g.code (Grammar.parse s) with
    | error e => exact ⟨e, rfl⟩
    | ok code =>
      have hnone := ((code_eq_ok_iff g _ _).mp hcode).1
      rw [findSome?_refusal_parse, List.findSome?_eq_none_iff] at hnone
      rw [hnone _ hnumbered] at hrefused
      cases hrefused
  · intro e s' he hsame
    obtain ⟨i, raw, hi, hraw, hline, hearlier⟩ := (code_parse_eq_error g s e).mp he
    rw [hline] at hsame
    have hagree : ∀ j, j < i + 1 → (lines s')[j]? = (lines s)[j]? := by
      intro j hj
      rw [← List.getElem?_take_of_lt hj, hsame, List.getElem?_take_of_lt hj]
    apply (code_parse_eq_error g s' e).mpr
    refine ⟨i, raw, by rw [hagree i (by omega), hi], hraw, hline, ?_⟩
    intro j earlier hj hjs
    rw [hagree j (by omega)] at hjs
    exact hearlier j earlier hj hjs

example : ({} : Generator).code (Grammar.parse "A: B\n\nNum: (_DIGIT)+ // twice\nC: _D*".toList) =
    .error ⟨"Num".toList, 3, .oneOrMore⟩ := rfl

end RuleTable.Refusal
