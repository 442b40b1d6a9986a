import SelectQuery.Text.CharClass

/-!
# Blank characters

The characters that separate words and lines without showing anything: the property White_Space. A
text is trimmed by dropping its blanks at the end, or at both ends.
-/

namespace SelectQuery.Text

/-- The characters with the property White_Space. -/
def blanks : CharClass := ⟨
  [(0x0009, 0x000D), (0x0020, 0x0020), (0x0085, 0x0085), (0x00A0, 0x00A0), (0x1680, 0x1680),
   (0x2000, 0x200A), (0x2028, 0x2029), (0x202F, 0x202F), (0x205F, 0x205F), (0x3000, 0x3000)]⟩

/-- Whether the character is blank. -/
def isBlank (c : Char) : Bool :=
  blanks.contains c

/-- The text without the blanks in front. -/
def dropBlanks (cs : List Char) : List Char :=
  cs.dropWhile isBlank

/-- The text without the blanks at its end. -/
def dropEndBlanks (cs : List Char) : List Char :=
  (cs.reverse.dropWhile isBlank).reverse

/-- The text without the blanks at its end. -/
def trimEnd (s : String) : String :=
  String.ofList (dropEndBlanks s.toList)

/-- The text without the blanks at either end. -/
def trim (s : String) : String :=
  String.ofList (dropBlanks (dropEndBlanks s.toList))

end SelectQuery.Text
