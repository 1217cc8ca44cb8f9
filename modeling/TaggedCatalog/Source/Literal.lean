import TaggedCatalog.Source.Lookup
import TaggedCatalog.Text.CodePoint
import TaggedCatalog.Text.Utf8

/-! # Text literals

A literal is its letters in front, which say how it is read, and what stands
between its quotes. Reading it gives a text, or bytes, or the parts of a format
text: the expressions between its braces, which still have to be parsed. -/

namespace TaggedCatalog.Source

/-- How a literal is read. -/
structure LiteralKind where
  isBytes : Bool := false
  isRaw : Bool := false
  isFormat : Bool := false
deriving DecidableEq, Repr

/-- A literal as it is written, in UTF-8 with one character per byte. -/
structure Literal where
  kind : LiteralKind
  body : List Char
deriving DecidableEq, Repr

namespace LiteralKind

/-- The kind that the letters in front of a quote name. -/
def ofLetters (letters : List Char) : Option LiteralKind :=
  match letters.map Char.toLower with
  | [] => some {}
  | ['u'] => some {}
  | ['b'] => some { isBytes := true }
  | ['r'] => some { isRaw := true }
  | ['f'] => some { isFormat := true }
  | ['b', 'r'] => some { isBytes := true, isRaw := true }
  | ['r', 'b'] => some { isBytes := true, isRaw := true }
  | ['f', 'r'] => some { isFormat := true, isRaw := true }
  | ['r', 'f'] => some { isFormat := true, isRaw := true }
  | _ => none

end LiteralKind

/-! ## Escapes -/

namespace Escape

def hexValue? (c : Char) : Option Nat :=
  if '0' ≤ c ∧ c ≤ '9' then some (c.toNat - '0'.toNat)
  else if 'a' ≤ c ∧ c ≤ 'f' then some (c.toNat - 'a'.toNat + 10)
  else if 'A' ≤ c ∧ c ≤ 'F' then some (c.toNat - 'A'.toNat + 10)
  else none

def isOctal (c : Char) : Bool := decide ('0' ≤ c ∧ c ≤ '7')

/-- The number that a fixed count of hexadecimal digits spells, and the rest. -/
def hexNumber : Nat → Nat → List Char → Option (Nat × List Char)
  | 0, value, text => some (value, text)
  | _ + 1, _, [] => none
  | count + 1, value, c :: rest =>
      match hexValue? c with
      | none => none
      | some digit => hexNumber count (value * 16 + digit) rest

def octalValue (digits : List Char) : Nat :=
  digits.foldl (fun value c => value * 8 + (c.toNat - '0'.toNat)) 0

/-- Escapes that stand for one character each. -/
def simple? : Char → Option Char
  | '\\' => some '\\'
  | '\'' => some '\''
  | '"' => some '"'
  | 'a' => some '\x07'
  | 'b' => some '\x08'
  | 'f' => some '\x0c'
  | 'n' => some '\n'
  | 'r' => some '\r'
  | 't' => some '\t'
  | 'v' => some '\x0b'
  | _ => none

/-- The code point of a number that has been read, and the rest. -/
def numbered (found : Nat × List Char) : Option (CodeText × List Char) :=
  (CodePoint.ofCode? found.1).map fun point => ([point], found.2)

/-- The character whose name stands in braces, and the rest. -/
def named (lookup : Lookup) : List Char → Option (CodeText × List Char)
  | '{' :: text =>
      let name := text.takeWhile (· != '}')
      match text.drop name.length with
      | [] => none
      | _ :: after =>
          if name.isEmpty then none
          else (lookup.character? (String.ofList name)).map fun c => ([.char c], after)
  | _ => none

/-- What stands behind a backslash: the code points it gives and the rest. An
escape that is not known keeps its backslash. -/
def read (lookup : Lookup) (inBytes : Bool) : List Char → Option (CodeText × List Char)
  | [] => some ([.char '\\'], [])
  | '\n' :: rest => some ([], rest)
  | c :: rest =>
      if isOctal c then
        let digits := c :: (rest.take 2).takeWhile isOctal
        numbered (octalValue digits, (c :: rest).drop digits.length)
      else if c = 'x' then (hexNumber 2 0 rest).bind numbered
      else if c = 'u' && !inBytes then (hexNumber 4 0 rest).bind numbered
      else if c = 'U' && !inBytes then (hexNumber 8 0 rest).bind numbered
      else if c = 'N' && !inBytes then named lookup rest
      else
        match simple? c with
        | some meant => some ([.char meant], rest)
        | none => some ([.char '\\', .char c], rest)

/-- Resolves the escapes of a text, at most `fuel` characters of it. -/
def resolveWithin (lookup : Lookup) (inBytes : Bool) : Nat → List Char → Option CodeText
  | 0, text => if text.isEmpty then some [] else none
  | _ + 1, [] => some []
  | fuel + 1, '\\' :: rest =>
      match read lookup inBytes rest with
      | none => none
      | some (meant, after) => (resolveWithin lookup inBytes fuel after).map (meant ++ ·)
  | fuel + 1, c :: rest => (resolveWithin lookup inBytes fuel rest).map (.char c :: ·)

/-- Resolves the escapes of a text; a malformed one has no meaning. -/
def resolve (lookup : Lookup) (inBytes : Bool) (text : List Char) : Option CodeText :=
  resolveWithin lookup inBytes text.length text

example : resolve .empty false "a\\x41\\n\\q\\101".toList = some (.of "aA\n\\qA") := by
  decide +kernel
example : resolve .empty false "\\ud800.".toList = some [.surrogate 0, .char '.'] := by
  decide +kernel
example : resolve .empty false "\\x4".toList = none := by decide +kernel

end Escape

/-! ## Format texts -/

namespace FormatText

/-- What to do at a place in a format text. -/
inductive Step (State : Type) where
  /-- The text is malformed here. -/
  | refuse
  /-- The part ends before this place. -/
  | stop
  /-- So many characters belong to the part, which goes on in a new state. -/
  | take (count : Nat) (next : State)

/-- The part that repeated steps take, and the rest. -/
def takeSteps {State : Type} (step : State → List Char → Step State) :
    Nat → State → List Char → Option (List Char × List Char)
  | 0, _, text => some ([], text)
  | fuel + 1, state, text =>
      match step state text with
      | .refuse => none
      | .stop => some ([], text)
      | .take count next =>
          (takeSteps step fuel next (text.drop count)).map fun part =>
            (text.take count ++ part.1, part.2)

/-- A literal part goes on to the next brace. Behind a backslash a brace is still
a brace, except that of a named character. Outside a format specifier doubled
braces stand for one, and a single closing brace is refused. -/
def literalStep (isRaw inSpecifier : Bool) : Unit → List Char → Step Unit
  | _, [] => .stop
  | _, '\\' :: 'N' :: '{' :: named =>
      if isRaw then .take 1 () else .take (4 + (named.takeWhile (· != '}')).length) ()
  | _, '\\' :: c :: _ => if isRaw || c = '{' || c = '}' then .take 1 () else .take 2 ()
  | _, c :: rest =>
      if c != '{' && c != '}' then .take 1 ()
      else if inSpecifier then .stop
      else if rest.head? = some c then .take 2 ()
      else if c = '}' then .refuse
      else .stop

def literalPart (isRaw inSpecifier : Bool) (text : List Char) : Option (List Char × List Char) :=
  takeSteps (literalStep isRaw inSpecifier) text.length () text

/-- Where the search for the end of an expression stands: the brackets that are
open, innermost first, and the quote of the text it is in, if it is in one,
with the word whether it is tripled. -/
structure Position where
  brackets : List Char := []
  quote : Option (Char × Bool) := none

def closes (opening closing : Char) : Bool :=
  (opening == '(' && closing == ')') || (opening == '[' && closing == ']') ||
    (opening == '{' && closing == '}')

/-- The brackets that may be open at once. -/
def bracketLimit : Nat := 200

/-- Inside a text that started with the given quote. -/
def quotedStep (position : Position) (quote : Char) (isTriple : Bool) (c : Char)
    (rest : List Char) : Step Position :=
  if c != quote then .take 1 position
  else if !isTriple then .take 1 { position with quote := none }
  else if rest.take 2 == [quote, quote] then .take 3 { position with quote := none }
  else .take 1 position

/-- Outside brackets, at a character that ends an expression or starts one of
the operators that look like it. -/
def stopStep (position : Position) (c : Char) (rest : List Char) : Step Position :=
  if rest.head? = some '=' && (c = '!' || c = '=' || c = '<' || c = '>') then .take 2 position
  else if c = '<' || c = '>' then .take 1 position
  else .stop

/-- An expression goes on to the character that ends it. Backslashes and comments
are refused. -/
def expressionStep : Position → List Char → Step Position
  | _, [] => .stop
  | position, c :: rest =>
      if c = '\\' then .refuse
      else
        match position.quote with
        | some (quote, isTriple) => quotedStep position quote isTriple c rest
        | none =>
            if c = '\'' || c = '"' then
              if rest.take 2 == [c, c] then .take 3 { position with quote := some (c, true) }
              else .take 1 { position with quote := some (c, false) }
            else if c = '(' || c = '[' || c = '{' then
              if position.brackets.length ≥ bracketLimit then .refuse
              else .take 1 { position with brackets := c :: position.brackets }
            else if c = '#' then .refuse
            else
              match position.brackets with
              | [] =>
                  if c = '!' || c = ':' || c = '}' || c = '=' || c = '<' || c = '>' then
                    stopStep position c rest
                  else if c = ')' || c = ']' then .refuse
                  else .take 1 position
              | opening :: outer =>
                  if c = ')' || c = ']' || c = '}' then
                    if closes opening c then .take 1 { position with brackets := outer }
                    else .refuse
                  else .take 1 position

/-- The expression behind an opening brace, and the rest from the character that
ends it. -/
def expressionPart (text : List Char) : Option (List Char × List Char) :=
  match takeSteps expressionStep text.length {} text with
  | some (_, []) => none
  | found => found

def isExpressionBlank (c : Char) : Bool := c == ' ' || c == '\t' || c == '\n' || c == '\x0c'

/-- Skips the sign that asks for the expression itself, and the blanks after it. -/
def afterEcho : List Char → List Char
  | '=' :: rest => rest.dropWhile fun c => isExpressionBlank c || c == '\r' || c == '\x0b'
  | text => text

/-- Skips a conversion: an exclamation mark and one of three letters. -/
def afterConversion : List Char → Option (List Char)
  | '!' :: letter :: rest =>
      if (letter = 's' || letter = 'r' || letter = 'a') &&
          (rest.head? = some '}' || rest.head? = some ':') then some rest
      else none
  | '!' :: [] => none
  | text => some text

/-- The expressions of a format text, in order, and the rest of it. A format
specifier is a format text inside another and may hold expressions, but theirs
may not. Literal parts have to resolve. -/
def expressionsWithin (lookup : Lookup) (isRaw : Bool) :
    Nat → Nat → List Char → Option (List (List Char) × List Char)
  | 0, _, _ => none
  | fuel + 1, depth, text =>
      match literalPart isRaw (depth != 0) text with
      | none => none
      | some (part, rest) =>
          let resolves :=
            match Text.decodeUnits part with
            | none => false
            | some decoded => isRaw || (Escape.resolve lookup false decoded.toList).isSome
          if !resolves then none
          else
            match rest with
            | '{' :: inside =>
                if depth ≥ 2 then none
                else
                  match expressionPart inside with
                  | none => none
                  | some (expression, stop) =>
                      if expression.all isExpressionBlank then none
                      else
                        match afterConversion (afterEcho stop) with
                        | none => none
                        | some after =>
                            let specified :=
                              match after with
                              | ':' :: [] => none
                              | ':' :: specifier =>
                                  expressionsWithin lookup isRaw fuel (depth + 1) specifier
                              | _ => some ([], after)
                            match specified with
                            | some (inner, '}' :: following) =>
                                (expressionsWithin lookup isRaw fuel depth following).map
                                  fun others => (expression :: inner ++ others.1, others.2)
                            | _ => none
            | _ => some ([], rest)

/-- The expressions of a whole format text. -/
def expressions (lookup : Lookup) (isRaw : Bool) (text : List Char) : Option (List (List Char)) :=
  match expressionsWithin lookup isRaw (text.length + 1) 0 text with
  | some (found, []) => some found
  | _ => none

end FormatText

/-! ## Reading a literal -/

/-- What a literal stands for. -/
inductive LiteralValue where
  | text (value : CodeText)
  | bytes
  | format (expressions : List (List Char))
deriving DecidableEq, Repr

namespace Literal

def value? (lookup : Lookup) (literal : Literal) : Option LiteralValue :=
  if literal.kind.isFormat then
    (FormatText.expressions lookup literal.kind.isRaw literal.body).map .format
  else if literal.kind.isBytes then
    if literal.body.all (·.toNat < 0x80) &&
        (literal.kind.isRaw || (Escape.resolve lookup true literal.body).isSome)
    then some .bytes else none
  else
    match Text.decodeUnits literal.body with
    | none => none
    | some decoded =>
        if literal.kind.isRaw then some (.text decoded)
        else (Escape.resolve lookup false decoded.toList).map .text

end Literal

end TaggedCatalog.Source
