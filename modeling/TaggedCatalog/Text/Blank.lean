import TaggedCatalog.Text.CodeRanges

/-! # Blank characters

The characters that count as blank at the edge of a text: the separators and
spaces of Unicode, the ASCII control characters from tab to carriage return,
and the four information separators. The zero-width space and the byte order
mark are not among them. -/

namespace TaggedCatalog.Text

def blankRanges : CodeRanges :=
  [(0x9, 0xD), (0x1C, 0x20), (0x85, 0x85), (0xA0, 0xA0), (0x1680, 0x1680),
   (0x2000, 0x200A), (0x2028, 0x2029), (0x202F, 0x202F), (0x205F, 0x205F),
   (0x3000, 0x3000)]

def isBlank (c : Char) : Bool := blankRanges.contains c

example : CodeRanges.Ascending blankRanges := by decide
example : isBlank ' ' = true := by decide
example : isBlank (Char.ofNat 0x200B) = false := by decide

section Trimming

variable {α : Type} (drops : α → Bool)

/-- A text without the letters at its end that are to be dropped. -/
def trimEnd (text : List α) : List α := (text.reverse.dropWhile drops).reverse

/-- A text without the letters at either end that are to be dropped. -/
def trim (text : List α) : List α := trimEnd drops (text.dropWhile drops)

end Trimming

/-- The text without its trailing blanks. -/
def dropTrailingBlanks (text : List Char) : List Char := trimEnd isBlank text

/-- The text without the blanks at either end. -/
def stripBlanks (text : List Char) : List Char := trim isBlank text

end TaggedCatalog.Text
