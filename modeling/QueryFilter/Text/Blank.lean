/-
  BLANKS — the characters that separate tokens, and their removal from the ends of a text.

  The class holds the ASCII controls from tab to carriage return and from file separator to unit
  separator, the space, the next-line control, and the Unicode separators.  A zero-width space or a
  byte order mark is NOT blank.
-/
import QueryFilter.Text.Basic
import QueryFilter.Text.Ranges

namespace QueryFilter.Text

/-- The code points of the blank characters. -/
def blankRanges : Ranges := [
  (0x9, 0xD), (0x1C, 0x20), (0x85, 0x85), (0xA0, 0xA0), (0x1680, 0x1680), (0x2000, 0x200A),
  (0x2028, 0x2029), (0x202F, 0x202F), (0x205F, 0x205F), (0x3000, 0x3000)]

/-- A character that may stand between tokens. -/
def isBlank (c : Char) : Bool := blankRanges.covers c.toNat

/-! ## Stripping -/

/-- The text from its first character that is not blank. -/
def trimStart (s : Text) : Text := s.dropWhile isBlank

/-- The text up to its last character that is not blank. -/
def trimEnd (s : Text) : Text := (s.reverse.dropWhile isBlank).reverse

/-- The text without the blanks at its two ends. -/
def strip (s : Text) : Text := trimEnd (trimStart s)

example : strip " \t a b\u3000\n".toList = "a b".toList := by decide
example : isBlank '\u200b' = false ∧ isBlank '\ufeff' = false := by decide

end QueryFilter.Text
