import Mathlib.Data.List.TakeWhile
import RuleTable.Text.Basic

/-!
Trimming takes blanks off the ends of a text and nothing else. What is left is a stretch of the
text without a blank at either end, and such a text is found again between any blanks.
-/
namespace RuleTable.Trimming

open Text

variable {s before after : Text}

/-- No blank stands at either end. -/
structure Trimmed (s : Text) : Prop where
  head : ∀ c, s.head? = some c → isBlankChar c = false
  last : ∀ c, s.getLast? = some c → isBlankChar c = false

theorem trimStart_isSuffix (s : Text) : trimStart s <:+ s := List.dropWhile_suffix _

theorem trimEnd_isPrefix (s : Text) : trimEnd s <+: s := by
  unfold trimEnd
  rw [← List.reverse_suffix, List.reverse_reverse]
  exact List.dropWhile_suffix _

theorem trim_isInfix (s : Text) : trim s <:+: s :=
  (trimEnd_isPrefix _).isInfix.trans (trimStart_isSuffix s).isInfix

theorem not_blank_of_head_dropWhile {c : Char} (h : (s.dropWhile isBlankChar).head? = some c) :
    isBlankChar c = false := by
  have hdrop := List.head?_dropWhile_not isBlankChar s
  rw [h] at hdrop
  exact hdrop

theorem trimmed_trim (s : Text) : Trimmed (trim s) where
  head := by
    intro c hc
    apply not_blank_of_head_dropWhile (s := s)
    obtain ⟨rest, hrest⟩ := trimEnd_isPrefix (trimStart s)
    change (trimStart s).head? = some c
    rw [← hrest, List.head?_append]
    change (trim s).head?.or rest.head? = some c
    rw [hc, Option.some_or]
  last := by
    intro c hc
    apply not_blank_of_head_dropWhile (s := (trimStart s).reverse)
    rw [← List.getLast?_reverse]
    exact hc

theorem trimStart_of_head (h : ∀ c, s.head? = some c → isBlankChar c = false) :
    trimStart s = s := by
  cases s with
  | nil => rfl
  | cons c s => exact List.dropWhile_cons_of_neg (by simp [h c rfl])

theorem trimStart_append (h : isBlank before = true) (s : Text) :
    trimStart (before ++ s) = trimStart s :=
  List.dropWhile_append_of_pos (List.all_eq_true.mp h)

theorem trimEnd_of_last (h : ∀ c, s.getLast? = some c → isBlankChar c = false) :
    trimEnd s = s := by
  have hreverse : trimStart s.reverse = s.reverse := by
    apply trimStart_of_head
    intro c hc
    rw [List.head?_reverse] at hc
    exact h c hc
  exact (congrArg List.reverse hreverse).trans (List.reverse_reverse s)

theorem trimEnd_append (h : isBlank after = true) (s : Text) :
    trimEnd (s ++ after) = trimEnd s := by
  have hreverse : isBlank after.reverse = true := by
    unfold isBlank
    rw [List.all_reverse]
    exact h
  have hstart := trimStart_append hreverse s.reverse
  rw [← List.reverse_append] at hstart
  exact congrArg List.reverse hstart

/-- Blanks around a text are taken off, and the text is left as it is. -/
theorem trim_padded (hbefore : isBlank before = true) (hafter : isBlank after = true)
    (h : Trimmed s) : trim (before ++ s ++ after) = s := by
  unfold trim
  rw [List.append_assoc, trimStart_append hbefore]
  cases s with
  | nil =>
    have hnil := trimStart_append hafter []
    rw [List.append_nil] at hnil
    rw [List.nil_append, hnil]
    rfl
  | cons c s =>
    have hhead : trimStart (c :: s ++ after) = c :: s ++ after := by
      apply trimStart_of_head
      exact h.head
    rw [hhead, trimEnd_append hafter, trimEnd_of_last h.last]

end RuleTable.Trimming
