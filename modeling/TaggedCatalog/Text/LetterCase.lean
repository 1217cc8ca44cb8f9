/-! # Capitals and small letters

Names are compared without regard to case, and all names are ASCII. So only the
letters matter whose other form is ASCII; a few of them are not ASCII themselves. -/

namespace TaggedCatalog.Text

/-- The capital form of a character as far as it is ASCII; any other character
stays what it is. -/
def capitalForm (c : Char) : List Char :=
  match c with
  | 'ß' => ['S', 'S']
  | 'ı' => ['I']
  | 'ſ' => ['S']
  | 'ﬀ' => ['F', 'F']
  | 'ﬁ' => ['F', 'I']
  | 'ﬂ' => ['F', 'L']
  | 'ﬃ' => ['F', 'F', 'I']
  | 'ﬄ' => ['F', 'F', 'L']
  | 'ﬅ' => ['S', 'T']
  | 'ﬆ' => ['S', 'T']
  | _ => [c.toUpper]

def inCapitals (text : List Char) : List Char := text.flatMap capitalForm

/-- The small form of a character as far as it is ASCII: the Kelvin sign is a K. -/
def smallForm (c : Char) : Char := if c = '\u212a' then 'k' else c.toLower

def inSmallLetters (text : List Char) : List Char := text.map smallForm

example : inCapitals "ınfo".toList = "INFO".toList := by decide
example : inSmallLetters "MarKdown".toList = "markdown".toList := by decide

end TaggedCatalog.Text
