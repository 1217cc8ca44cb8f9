import TaggedCatalog.Source.Literal

/-! # Tokens -/

namespace TaggedCatalog.Source

/-- The kinds of tokens. -/
inductive TokenKind where
  /-- A word that the grammar reserves. -/
  | keyword (word : String)
  | name (word : String)
  | number (isImaginary : Bool)
  | literal (literal : Literal)
  /-- An operator or a mark of punctuation. -/
  | symbol (text : String)
  /-- The end of a logical line. -/
  | lineEnd
  | indent
  | dedent
  | endOfFile
deriving DecidableEq, Repr

/-- A token and the line that it starts on. -/
structure Token where
  kind : TokenKind
  line : Nat
deriving DecidableEq, Repr

/-- The reserved words. -/
def keywords : List String :=
  ["False", "None", "True", "and", "as", "assert", "async", "await", "break", "class", "continue",
   "def", "del", "elif", "else", "except", "finally", "for", "from", "global", "if", "import", "in",
   "is", "lambda", "nonlocal", "not", "or", "pass", "raise", "return", "try", "while", "with",
   "yield"]

/-- The symbols of three, two and one characters. Longer ones are tried first. -/
def longSymbols : List String := ["**=", "//=", ">>=", "<<=", "..."]

def doubleSymbols : List String :=
  ["!=", "%=", "&=", "**", "*=", "+=", "-=", "->", "//", "/=", ":=", "<<", "<=", "<>", "==", ">=",
   ">>", "@=", "^=", "|="]

def singleSymbols : List Char := "%&()*+,-./:;<=>@[]^\x7b|\x7d~".toList

/-- The symbol at the start of a text. -/
def symbolAt (text : List Char) : Option String :=
  match longSymbols.find? (fun symbol => symbol.toList.isPrefixOf text) with
  | some symbol => some symbol
  | none =>
      match doubleSymbols.find? (fun symbol => symbol.toList.isPrefixOf text) with
      | some symbol => some symbol
      | none =>
          match text with
          | c :: _ => if singleSymbols.contains c then some (String.singleton c) else none
          | [] => none

example : symbolAt "**=x".toList = some "**=" := by decide +kernel
example : symbolAt "..x".toList = some "." := by decide +kernel
example : symbolAt "$".toList = none := by decide +kernel

end TaggedCatalog.Source
