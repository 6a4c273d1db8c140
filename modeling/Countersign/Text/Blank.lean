import Countersign.Text.Ascii

/-!
# White space and control characters

Two classes of Unicode characters decide where words end and what a header may hold: the
characters with the property `White_Space`, and the control characters (category Cc).

* `Text.isBlank`, `Text.isControl` — the classes;
* `Text.trim`, `Text.trimStart` — blanks cut from the ends;
* `Text.words` — the maximal runs of non-blank characters, in order.
-/

namespace Countersign
namespace Text

/-- A character with the Unicode property `White_Space`. -/
def isBlank (c : Char) : Bool :=
  let n := c.toNat
  (9 ≤ n && n ≤ 13) || n == 0x20 || n == 0x85 || n == 0xA0 || n == 0x1680 ||
  (0x2000 ≤ n && n ≤ 0x200A) || n == 0x2028 || n == 0x2029 || n == 0x202F ||
  n == 0x205F || n == 0x3000

/-- A control character: C0, delete, or C1. -/
def isControl (c : Char) : Bool :=
  let n := c.toNat
  n < 0x20 || (0x7F ≤ n && n ≤ 0x9F)

/-- Blanks at the front are dropped. -/
def trimStartChars (cs : List Char) : List Char := cs.dropWhile isBlank

/-- Blanks at both ends are dropped. -/
def trimChars (cs : List Char) : List Char :=
  ((cs.dropWhile isBlank).reverse.dropWhile isBlank).reverse

/-- Blanks at both ends are dropped. -/
def trim (s : String) : String := String.ofList (trimChars s.toList)

/-- The words of a text: its maximal runs of non-blank characters; `run` holds the open run,
last character first. -/
def wordsFrom (run : List Char) : List Char → List (List Char)
  | [] => if run.isEmpty then [] else [run.reverse]
  | c :: cs =>
    if isBlank c then
      if run.isEmpty then wordsFrom [] cs else run.reverse :: wordsFrom [] cs
    else wordsFrom (c :: run) cs

/-- The words of a text, in order. -/
def words (s : String) : List String := (wordsFrom [] s.toList).map String.ofList

/-- Every blank of core's ASCII class is a blank here. -/
theorem isBlank_of_isWhitespace {c : Char} (h : c.isWhitespace = true) : isBlank c = true := by
  simp only [Char.isWhitespace, Bool.or_eq_true, decide_eq_true_eq] at h
  rcases h with ((h | h) | h) | h <;> subst h <;> decide

end Text
end Countersign
