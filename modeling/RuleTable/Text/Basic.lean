/-!
Texts, and what is done with them whatever they say. A text is the list of its characters. String
literals may stand where a text is expected, so the fixed wording of messages and generated code
reads as it is printed.
-/
namespace RuleTable

abbrev Text := List Char

instance : Coe String Text := ⟨String.toList⟩

namespace Text

def decimal (n : Nat) : Text := Nat.toDigits 10 n

/-- Whether one of the ranges, given by first and last code point, holds the character. -/
def inRanges (ranges : List (Nat × Nat)) (c : Char) : Bool :=
  ranges.any (fun (first, last) => first ≤ c.toNat && c.toNat ≤ last)

/-! ### Blanks

Blank characters are the twenty-five with the Unicode property White_Space. Trimming takes them
off both ends of a text and leaves those inside alone; a text of blanks only trims to nothing.
The separators 1C to 1F, the vowel separator 180E and the zero-width 200B and FEFF are not blank.
-/

def isBlankChar (c : Char) : Bool :=
  let n := c.toNat
  (0x09 ≤ n && n ≤ 0x0D) || n == 0x20 || n == 0x85 || n == 0xA0 || n == 0x1680 ||
    (0x2000 ≤ n && n ≤ 0x200A) || n == 0x2028 || n == 0x2029 || n == 0x202F || n == 0x205F ||
    n == 0x3000

def isBlank (s : Text) : Bool := s.all isBlankChar

def trimStart (s : Text) : Text := s.dropWhile isBlankChar

def trimEnd (s : Text) : Text := (s.reverse.dropWhile isBlankChar).reverse

def trim (s : Text) : Text := trimEnd (trimStart s)

/-! ### Lines

The lines of a text are its segments between newlines. A segment that a newline ends loses one
carriage return before it; the last segment has no newline, keeps its carriage return, and counts
only if something stands in it.
-/

def dropReturn (s : Text) : Text :=
  if s.getLast? = some '\r' then s.dropLast else s

def lines (s : Text) : List Text :=
  let segments := s.splitOn '\n'
  segments.dropLast.map dropReturn ++ segments.getLast?.toList.filter (fun last => !last.isEmpty)

/-! ### Doubled marks

Marks written as one character twice: `//` opens a comment, `||` and `&&` part the operands of a
rule. A text is cut at the first such mark, or split at all of them. Splitting reads from the left
and marks do not overlap, so three in a row are one mark followed by a single character.
-/

def hasDoubled (d : Char) : Text → Bool
  | a :: b :: s => (a == d && b == d) || hasDoubled d (b :: s)
  | _ => false

/-- The text before the first doubled `d`, and the text from there on if there is one. -/
def cutDoubled (d : Char) : Text → Text × Option Text
  | a :: b :: s =>
    if a = d ∧ b = d then ([], some (a :: b :: s))
    else
      let (before, rest) := cutDoubled d (b :: s)
      (a :: before, rest)
  | s => (s, none)

theorem cutDoubled_append (d : Char) (s : Text) :
    (cutDoubled d s).1 ++ (cutDoubled d s).2.getD [] = s := by
  fun_induction cutDoubled d s with
  | case1 => simp
  | case2 a b s h before rest hcut ih => simp [hcut] at ih; simp [ih]
  | case3 => simp

theorem hasDoubled_eq_isSome (d : Char) (s : Text) :
    hasDoubled d s = (cutDoubled d s).2.isSome := by
  fun_induction cutDoubled d s with
  | case1 a b s h => simp [hasDoubled, h]
  | case2 a b s h before rest hcut ih => simp_all [hasDoubled]
  | case3 s hshort =>
    unfold hasDoubled
    split
    · simp_all
    · rfl

/-- The pieces around each doubled `d`. There is at least one, and pieces may be empty. -/
def splitDoubled (d : Char) : Text → List Text
  | a :: b :: s =>
    if a = d ∧ b = d then [] :: splitDoubled d s
    else (splitDoubled d (b :: s)).modifyHead (a :: ·)
  | s => [s]

theorem splitDoubled_ne_nil (d : Char) (s : Text) : splitDoubled d s ≠ [] := by
  fun_induction splitDoubled d s with
  | case1 => simp
  | case2 a b s h ih => simpa [List.modifyHead_eq_nil_iff] using ih
  | case3 => simp

/-- Splitting loses nothing: the pieces joined by the doubled `d` are the text again. -/
theorem intercalate_splitDoubled (d : Char) (s : Text) :
    List.intercalate [d, d] (splitDoubled d s) = s := by
  fun_induction splitDoubled d s with
  | case1 a b s h ih =>
    obtain ⟨piece, pieces, hsplit⟩ := List.exists_cons_of_ne_nil (splitDoubled_ne_nil d s)
    simp_all [List.intercalate]
  | case2 a b s h ih =>
    obtain ⟨piece, pieces, hsplit⟩ := List.exists_cons_of_ne_nil (splitDoubled_ne_nil d (b :: s))
    cases pieces <;> simp_all [List.intercalate]
  | case3 => simp [List.intercalate]

/-! ### Numerals

What counts as the text of a number. An ordinal has digits only, with at most one plus sign before
them. A numeral of either sign may have a fraction and an exponent, with a digit before or after
the point; infinity and the number that is none have names, in any case.
-/

def ordinal? (s : Text) : Option Nat :=
  let digits := if s.head? = some '+' then s.tail else s
  if digits.isEmpty || !digits.all Char.isDigit then none
  else some (digits.foldl (fun n c => n * 10 + (c.toNat - '0'.toNat)) 0)

def unsigned : Text → Text
  | '+' :: rest | '-' :: rest => rest
  | s => s

def isExponent : Text → Bool
  | [] => true
  | 'e' :: rest | 'E' :: rest => !(unsigned rest).isEmpty && (unsigned rest).all Char.isDigit
  | _ => false

/-- Digits with a fraction and an exponent, both optional, and no sign in front. -/
def isDecimal (s : Text) : Bool :=
  match s.dropWhile Char.isDigit with
  | '.' :: rest =>
    (s.head?.any Char.isDigit || rest.head?.any Char.isDigit) &&
      isExponent (rest.dropWhile Char.isDigit)
  | rest => s.head?.any Char.isDigit && isExponent rest

def numberNames : List Text := ["inf", "infinity", "nan"].map String.toList

def isNumeral (s : Text) : Bool :=
  numberNames.contains ((unsigned s).map Char.toLower) || isDecimal (unsigned s)

end Text

end RuleTable
