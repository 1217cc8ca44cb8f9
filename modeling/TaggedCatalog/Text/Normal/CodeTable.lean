/-! # Tables of code points

A long table is written as lines of entries with blanks between them. An entry is a
code point or a range of them, a colon and numbers with commas between them, all
hexadecimal. -/

namespace TaggedCatalog.Text

structure CodeEntry where
  first : Nat
  last : Nat
  targets : List Nat
deriving DecidableEq, Repr

namespace CodeEntry

def hexDigit (c : Char) : Nat :=
  if c.isDigit then c.toNat - '0'.toNat else c.toNat - 'A'.toNat + 10

def hexNumber (digits : List Char) : Nat :=
  digits.foldl (fun total digit => total * 16 + hexDigit digit) 0

/-- The pieces of a text between separators. -/
def pieces (separator : Char) (text : List Char) : List (List Char) :=
  text.foldr
    (fun c found =>
      if c = separator then [] :: found
      else
        match found with
        | piece :: rest => (c :: piece) :: rest
        | [] => [[c]])
    [[]]

def ofText (text : List Char) : CodeEntry :=
  let codes := pieces '-' (text.takeWhile (· != ':'))
  let first := hexNumber (codes.headD [])
  { first
    last := hexNumber (codes.getLastD [])
    targets := (pieces ',' ((text.dropWhile (· != ':')).drop 1)).map hexNumber }

def contains (entry : CodeEntry) (code : Nat) : Bool := entry.first ≤ code && code ≤ entry.last

/-- The numbers of a code point in the range of the entry, where the last one grows
with the code point. -/
def targetsAt (entry : CodeEntry) (code : Nat) : List Nat :=
  match entry.targets.getLast? with
  | none => []
  | some last => entry.targets.dropLast ++ [last + (code - entry.first)]

example : (ofText "41-5A:61".toList).targetsAt 0x43 = [0x63] := by decide
example : (ofText "132:49,4A".toList).targetsAt 0x132 = [0x49, 0x4A] := by decide

end CodeEntry

/-- The entries of a table. -/
def readCodeTable (lines : List String) : List CodeEntry :=
  lines.flatMap fun line => (CodeEntry.pieces ' ' line.toList).map CodeEntry.ofText

end TaggedCatalog.Text
