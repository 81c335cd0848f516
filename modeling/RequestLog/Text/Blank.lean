import RequestLog.Text.Ranges

/-!
# Blanks and trimming

Two sets of blank characters occur.  `isBlank` has the four ASCII information separators besides
the white space of Unicode; `isWhiteSpace` is exactly the Unicode property.  Trimming removes the
blanks at both ends and keeps those inside.
-/

namespace RequestLog
namespace Text

/-- The Unicode property `White_Space`. -/
def whiteSpaceRanges : Ranges := [
  (9, 13), (32, 32), (133, 133), (160, 160), (5760, 5760), (8192, 8202), (8232, 8233), (8239, 8239),
  (8287, 8287), (12288, 12288)]

/-- The character has the Unicode property `White_Space`. -/
def isWhiteSpace (c : Char) : Bool :=
  whiteSpaceRanges.covers c.toNat

/-- White space or one of the four information separators. -/
def isBlank (c : Char) : Bool :=
  isWhiteSpace c || (28 ≤ c.toNat && c.toNat ≤ 31)

/-- Remove the characters of a class from both ends. -/
def trimBy (blank : Char → Bool) (text : List Char) : List Char :=
  ((text.dropWhile blank).reverse.dropWhile blank).reverse

/-- Remove the blanks from both ends. -/
def trim (text : List Char) : List Char :=
  trimBy isBlank text

/-- Remove the blanks from both ends of a string. -/
def trimmed (text : String) : String :=
  String.ofList (trim text.toList)

@[simp]
theorem trim_nil : trim [] = [] := rfl

end Text
end RequestLog
