import PartsCatalog.Text.Ranges

/-!
# Blank text

The characters that count as blank, and a text without the blanks at its two ends.  Trimming keeps
a text that neither starts nor ends with a blank, and what it returns is such a text.
-/

namespace PartsCatalog.Text

/-- The ranges of the property `White_Space`. -/
def blankRanges : Ranges := [
  (0x9, 0xD), (0x20, 0x20), (0x85, 0x85), (0xA0, 0xA0), (0x1680, 0x1680), (0x2000, 0x200A),
  (0x2028, 0x2029), (0x202F, 0x202F), (0x205F, 0x205F), (0x3000, 0x3000)]

/-- A blank character. -/
def isBlank (c : Char) : Bool := blankRanges.holds c

/-- The characters of `cs` from the first to the last that is not blank. -/
def trimChars (cs : List Char) : List Char :=
  ((cs.dropWhile isBlank).reverse.dropWhile isBlank).reverse

/-- A text without the blanks at its two ends. -/
def trim (s : String) : String :=
  String.ofList (trimChars s.toList)

/-- Whether a text holds nothing but blanks. -/
def isBlankText (s : String) : Bool :=
  (trim s).isEmpty

end PartsCatalog.Text
