import TaggedCatalog.Text.Printable

/-! # Quoted text

A quoted text stands between single quotes, or between double quotes when it
holds a single quote and no double one. The backslash and the quote in use are
written behind a backslash, tab and the line ends by their letters, and every
other character that cannot be shown by its code in lower-case hexadecimal. -/

namespace TaggedCatalog.Text

/-- The digits of a number in base sixteen, padded with zeros to a width. -/
def hexDigits (width code : Nat) : List Char :=
  let digits := Nat.toDigits 16 code
  List.replicate (width - digits.length) '0' ++ digits

namespace Quoted

/-- The quote that surrounds a text. -/
def quoteFor (text : List Char) : Char :=
  if text.contains '\'' && !text.contains '"' then '"' else '\''

def escapeChar (quote c : Char) : List Char :=
  if c = quote || c = '\\' then ['\\', c]
  else if c = '\n' then ['\\', 'n']
  else if c = '\r' then ['\\', 'r']
  else if c = '\t' then ['\\', 't']
  else if isPrintable c then [c]
  else if c.toNat < 0x100 then '\\' :: 'x' :: hexDigits 2 c.toNat
  else if c.toNat < 0x10000 then '\\' :: 'u' :: hexDigits 4 c.toNat
  else '\\' :: 'U' :: hexDigits 8 c.toNat

def encode (text : List Char) : List Char :=
  let quote := quoteFor text
  quote :: text.flatMap (escapeChar quote) ++ [quote]

end Quoted

/-- A text as it is shown inside a message, quotes included. -/
def quoted (text : String) : String := String.ofList (Quoted.encode text.toList)

example : Quoted.encode "it's".toList = "\"it's\"".toList := by decide +kernel
example : Quoted.encode "a\n\\".toList = "'a\\n\\\\'".toList := by decide +kernel
example : Quoted.encode [Char.ofNat 0x200B] = "'\\u200b'".toList := by decide +kernel

end TaggedCatalog.Text
