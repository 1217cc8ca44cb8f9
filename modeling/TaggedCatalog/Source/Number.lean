/-! # Number literals

The number at the start of a text: how many characters it has and whether it is
imaginary. Low lines may stand between two digits. A number may not run into a
name, except into one of the few words that can follow it. -/

namespace TaggedCatalog.Source.Number

def isWordChar (c : Char) : Bool := c.isAlphanum || c == '_' || c.toNat ≥ 0x80

/-- The words that may follow a number without a blank. -/
def followers : List String := ["and", "else", "for", "if", "in", "is", "or", "not"]

/-- Whether a number may end before a text. -/
def endsBefore (rest : List Char) : Bool :=
  followers.any (fun word => word.toList.isPrefixOf rest) ||
    match rest with
    | c :: _ => !isWordChar c
    | [] => true

/-- The rest behind the digits that follow a digit, with single low lines between
them. A low line without a digit behind it is refused. -/
def digitTail (isDigit : Char → Bool) : List Char → Option (List Char)
  | [] => some []
  | '_' :: d :: rest => if isDigit d then digitTail isDigit rest else none
  | c :: rest =>
      if isDigit c then digitTail isDigit rest
      else if c = '_' then none
      else some (c :: rest)

/-- The rest behind a run of digits. -/
def digitRun (isDigit : Char → Bool) : List Char → Option (List Char)
  | [] => none
  | c :: rest => if isDigit c then digitTail isDigit rest else none

/-- Digits behind the letter of a base, with a low line before them allowed. -/
def basedDigits (isDigit : Char → Bool) : List Char → Option (List Char)
  | '_' :: rest => digitRun isDigit rest
  | text => digitRun isDigit text

def isHexDigit (c : Char) : Bool := c.isDigit || ('a' ≤ c && c ≤ 'f') || ('A' ≤ c && c ≤ 'F')

def isOctalDigit (c : Char) : Bool := '0' ≤ c && c ≤ '7'

def isBinaryDigit (c : Char) : Bool := c == '0' || c == '1'

/-- What follows a number, and whether the number is imaginary. -/
structure Reading where
  rest : List Char
  isImaginary : Bool := false
deriving DecidableEq, Repr

def closeAt (rest : List Char) : Option Reading :=
  match rest with
  | c :: after =>
      if c = 'j' || c = 'J' then
        if endsBefore after then some { rest := after, isImaginary := true } else none
      else if endsBefore rest then some { rest } else none
  | [] => some { rest }

/-- The exponent, if there is one, and the end. -/
def exponentAt (rest : List Char) : Option Reading :=
  match rest with
  | c :: after =>
      if c = 'e' || c = 'E' then
        match after with
        | s :: digits =>
            if s = '+' || s = '-' then (digitRun Char.isDigit digits).bind closeAt
            else if s.isDigit then (digitRun Char.isDigit after).bind closeAt
            else if endsBefore rest then some { rest } else none
        | [] => if endsBefore rest then some { rest } else none
      else closeAt rest
  | [] => closeAt rest

/-- What follows the point. -/
def fractionAt (rest : List Char) : Option Reading :=
  match rest with
  | c :: _ =>
      if c.isDigit then (digitRun Char.isDigit rest).bind exponentAt else exponentAt rest
  | [] => exponentAt rest

/-- The decimal digits that an integer may have. -/
def digitLimit : Nat := 4300

/-- Whether digits may be a decimal integer: there are not too many of them, and
only zero starts with a zero. -/
def isInteger (digits : List Char) : Bool :=
  digits.length ≤ digitLimit && (digits.head? != some '0' || digits.all (· == '0'))

/-- A decimal number. What only looks like an exponent belongs to a word behind
an integer. -/
def decimal (text : List Char) : Option Reading :=
  match digitRun Char.isDigit text with
  | none => none
  | some rest =>
      let digits := (text.take (text.length - rest.length)).filter Char.isDigit
      match rest with
      | '.' :: after => fractionAt after
      | _ =>
          match exponentAt rest with
          | none => none
          | some reading =>
              if reading.rest.length = rest.length && !isInteger digits then none
              else some reading

def based (isDigit : Char → Bool) (text : List Char) : Option Reading :=
  (basedDigits isDigit text).bind fun rest => if endsBefore rest then some { rest } else none

/-- The number at the start of a text. The text starts with a digit, or with a
point and a digit. -/
def read (text : List Char) : Option Reading :=
  match text with
  | '.' :: rest => fractionAt rest
  | '0' :: c :: rest =>
      if c = 'x' || c = 'X' then based isHexDigit rest
      else if c = 'o' || c = 'O' then based isOctalDigit rest
      else if c = 'b' || c = 'B' then based isBinaryDigit rest
      else decimal text
  | _ => decimal text

example : read "1_0.5e3j)".toList = some { rest := [')'], isImaginary := true } := by decide +kernel
example : read "0777 ".toList = none := by decide +kernel
example : read "1__0".toList = none := by decide +kernel
example : read "1if x".toList = some { rest := "if x".toList } := by decide +kernel
example : read "00.5".toList = some { rest := [] } := by decide +kernel

end TaggedCatalog.Source.Number
