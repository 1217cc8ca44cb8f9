/-! # Splitting text

A separator never belongs to a piece, so a text with `n` separators has `n + 1`
pieces, empty ones included. -/

namespace TaggedCatalog.Text

section Letters

variable {α : Type}

/-- The pieces of a text between the separators. -/
def splitOnChar [DecidableEq α] (separator : α) : List α → List (List α)
  | [] => [[]]
  | c :: rest =>
      if c = separator then [] :: splitOnChar separator rest
      else
        match splitOnChar separator rest with
        | [] => [[c]]
        | piece :: pieces => (c :: piece) :: pieces

/-- The pieces joined again, with a separator between neighbours. -/
def joinWith (separator : α) : List (List α) → List α
  | [] => []
  | [piece] => piece
  | piece :: pieces => piece ++ separator :: joinWith separator pieces

/-- Drops the run of empty pieces at the end. -/
def dropTrailingEmpty (pieces : List (List α)) : List (List α) :=
  (pieces.reverse.dropWhile List.isEmpty).reverse

/-- Writes every line end, carriage return and line feed together or alone, as
one line feed. -/
def uniformLineEnds [DecidableEq α] (carriageReturn lineFeed : α) : List α → List α
  | [] => []
  | [c] => [if c = carriageReturn then lineFeed else c]
  | c :: d :: rest =>
      if c = carriageReturn then
        if d = lineFeed then lineFeed :: uniformLineEnds carriageReturn lineFeed rest
        else lineFeed :: uniformLineEnds carriageReturn lineFeed (d :: rest)
      else c :: uniformLineEnds carriageReturn lineFeed (d :: rest)

end Letters

def normalizeLineEnds (text : List Char) : List Char := uniformLineEnds '\r' '\n' text

example : splitOnChar ',' "a,,b,".toList = ["a".toList, [], "b".toList, []] := by decide
example : normalizeLineEnds "a\r\n\rb\r".toList = "a\n\nb\n".toList := by decide

/-- Pieces joined into a `String`. -/
def joinStrings (separator : String) : List String → String
  | [] => ""
  | [piece] => piece
  | piece :: pieces => piece ++ separator ++ joinStrings separator pieces

end TaggedCatalog.Text
