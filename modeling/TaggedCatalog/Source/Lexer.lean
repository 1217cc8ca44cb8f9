import TaggedCatalog.Source.Encoding
import TaggedCatalog.Source.Number
import TaggedCatalog.Source.Token
import TaggedCatalog.Text.Identifier
import TaggedCatalog.Text.Normal.Form

/-! # From text to tokens

Outside brackets the margin of a line opens and closes blocks. It is measured
twice, once with tabs that lead to the next multiple of eight and once with tabs
that count as one, and both measures have to agree on the order of two margins.
Inside brackets, on blank lines and behind a backslash the margin means nothing. -/

namespace TaggedCatalog.Source

/-! ## Margins -/

/-- A margin in both measures. -/
structure Margin where
  column : Nat
  alternate : Nat
deriving DecidableEq, Repr

namespace Margin

def flush : Margin := ⟨0, 0⟩

def afterTab (margin : Margin) : Margin := ⟨(margin.column / 8 + 1) * 8, margin.alternate + 1⟩

def afterSpace (margin : Margin) : Margin := ⟨margin.column + 1, margin.alternate + 1⟩

end Margin

/-- A margin that is being measured. A backslash in it fixes what was measured
before, unless that is nothing. -/
structure MarginReading where
  margin : Margin := Margin.flush
  fixedColumn : Nat := 0
  line : Nat

def readMargin : MarginReading → List Char → Option (MarginReading × List Char)
  | reading, ' ' :: rest => readMargin { reading with margin := reading.margin.afterSpace } rest
  | reading, '\t' :: rest => readMargin { reading with margin := reading.margin.afterTab } rest
  | reading, '\x0c' :: rest => readMargin { reading with margin := Margin.flush } rest
  | reading, '\\' :: '\n' :: rest =>
      if rest.isEmpty then none
      else
        readMargin
          { reading with
            fixedColumn :=
              if reading.fixedColumn = 0 then reading.margin.column else reading.fixedColumn
            line := reading.line + 1 } rest
  | _, '\\' :: _ => none
  | reading, text => some (reading, text)

namespace MarginReading

def result (reading : MarginReading) : Margin :=
  if reading.fixedColumn = 0 then reading.margin else ⟨reading.fixedColumn, reading.fixedColumn⟩

end MarginReading

/-- The margins of the open blocks, innermost first; the last one is flush. -/
abbrev OpenBlocks := List Margin

/-- The blocks that may be open at once, the whole file included. -/
def blockLimit : Nat := 100

/-- Closes blocks until one has the column of the margin; both measures then have
to agree. -/
def closeBlocks (margin : Margin) : OpenBlocks → Option (List TokenKind × OpenBlocks)
  | [] => none
  | top :: outer =>
      if margin.column < top.column then
        (closeBlocks margin outer).map fun closed => (.dedent :: closed.1, closed.2)
      else if margin = top then some ([], top :: outer)
      else none

/-- The tokens that a margin gives, and the blocks that are then open. -/
def applyMargin (margin : Margin) (blocks : OpenBlocks) : Option (List TokenKind × OpenBlocks) :=
  match blocks with
  | [] => none
  | top :: _ =>
      if margin.column > top.column then
        if blocks.length ≥ blockLimit || margin.alternate ≤ top.alternate then none
        else some ([.indent], margin :: blocks)
      else closeBlocks margin blocks

/-! ## Single tokens -/

/-- What stands up to the closing quote, and the rest behind it. A backslash
protects the character behind it; a line ends a literal with single quotes. -/
def literalBody (quote : Char) (isTriple : Bool) : List Char → Option (List Char × List Char)
  | [] => none
  | '\\' :: c :: rest =>
      (literalBody quote isTriple rest).map fun found => ('\\' :: c :: found.1, found.2)
  | c :: rest =>
      if c = quote && (!isTriple || rest.take 2 == [quote, quote]) then
        some ([], if isTriple then rest.drop 2 else rest)
      else if c = '\n' && !isTriple then none
      else (literalBody quote isTriple rest).map fun found => (c :: found.1, found.2)

/-- The literal behind an opening quote. -/
def readLiteral (kind : LiteralKind) (quote : Char) (text : List Char) :
    Option (TokenKind × List Char) :=
  let isTriple := text.take 2 == [quote, quote]
  (literalBody quote isTriple (if isTriple then text.drop 2 else text)).map fun found =>
    (.literal ⟨kind, found.1⟩, found.2)

/-- The token of a word. A name counts in its normal form. -/
def wordToken (word : List Char) : Option TokenKind :=
  match Text.decodeUnits word with
  | none => none
  | some text =>
      if keywords.contains text then some (.keyword text)
      else if Text.isIdentifier text.toList then
        some (.name (String.ofList (Text.normalForm text.toList)))
      else none

/-- The token at the start of a text that starts with no blank. -/
def readToken (text : List Char) : Option (TokenKind × List Char) :=
  match text with
  | [] => none
  | c :: rest =>
      if c = '\'' || c = '"' then readLiteral {} c rest
      else if c.isDigit || (c = '.' && (rest.head?.map Char.isDigit).getD false) then
        (Number.read text).map fun reading => (.number reading.isImaginary, reading.rest)
      else if Number.isWordChar c then
        let word := text.takeWhile Number.isWordChar
        let after := text.dropWhile Number.isWordChar
        match after, LiteralKind.ofLetters word with
        | quote :: body, some kind =>
            if quote = '\'' || quote = '"' then readLiteral kind quote body
            else (wordToken word).map fun token => (token, after)
        | _, _ => (wordToken word).map fun token => (token, after)
      else (symbolAt text).map fun symbol => (.symbol symbol, text.drop symbol.length)

/-! ## Whole texts -/

/-- Where reading stands: the current line, the open brackets, innermost first,
and the open blocks. -/
structure Layout where
  line : Nat := 1
  brackets : List Char := []
  blocks : OpenBlocks := [Margin.flush]

namespace Layout

/-- The layout behind a token. Brackets have to match, and only so many may be
open. -/
def afterToken (layout : Layout) (kind : TokenKind) : Option Layout :=
  match kind with
  | .symbol symbol =>
      match symbol.toList with
      | [c] =>
          if c = '(' || c = '[' || c = '{' then
            if layout.brackets.length ≥ FormatText.bracketLimit then none
            else some { layout with brackets := c :: layout.brackets }
          else if c = ')' || c = ']' || c = '}' then
            match layout.brackets with
            | opening :: outer =>
                if FormatText.closes opening c then some { layout with brackets := outer } else none
            | [] => none
          else some layout
      | _ => some layout
  | .literal literal => some { layout with line := layout.line + literal.body.count '\n' }
  | _ => some layout

end Layout

def placeAt (line : Nat) (kinds : List TokenKind) : List Token :=
  kinds.map fun kind => ⟨kind, line⟩

/-- The tokens of a text, read in at most `fuel` steps. -/
def tokensWithin : Nat → Layout → (atLineStart : Bool) → List Char → Option (List Token)
  | 0, _, _, _ => none
  | fuel + 1, layout, true, text =>
      match readMargin { line := layout.line } text with
      | none => none
      | some (reading, rest) =>
          match rest with
          | [] =>
              if layout.brackets.isEmpty then
                some (placeAt reading.line
                  (List.replicate (layout.blocks.length - 1) .dedent ++ [.endOfFile]))
              else none
          | c :: _ =>
              let here := { layout with line := reading.line }
              if c = '#' || c = '\n' then
                tokensWithin fuel { here with line := here.line + 1 } true
                  ((rest.dropWhile (· != '\n')).drop 1)
              else if !layout.brackets.isEmpty then tokensWithin fuel here false rest
              else
                match applyMargin reading.result layout.blocks with
                | none => none
                | some (kinds, blocks) =>
                    (tokensWithin fuel { here with blocks } false rest).map
                      (placeAt here.line kinds ++ ·)
  | fuel + 1, layout, false, text =>
      match text.dropWhile Encoding.isMargin with
      | [] => none
      | '#' :: rest => tokensWithin fuel layout false (rest.dropWhile (· != '\n'))
      | '\n' :: rest =>
          let next := tokensWithin fuel { layout with line := layout.line + 1 } true rest
          if layout.brackets.isEmpty then next.map (⟨.lineEnd, layout.line⟩ :: ·) else next
      | '\\' :: rest =>
          match rest with
          | '\n' :: after =>
              if after.isEmpty then none
              else tokensWithin fuel { layout with line := layout.line + 1 } false after
          | _ => none
      | c :: rest =>
          match readToken (c :: rest) with
          | none => none
          | some (kind, after) =>
              match layout.afterToken kind with
              | none => none
              | some next =>
                  (tokensWithin fuel next false after).map (⟨kind, layout.line⟩ :: ·)

/-- The tokens of a text whose last line is ended. -/
def tokens (text : List Char) : Option (List Token) :=
  tokensWithin (2 * text.length + 2) {} true text

end TaggedCatalog.Source
