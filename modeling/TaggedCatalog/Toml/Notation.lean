import TaggedCatalog.Toml.Draft
import TaggedCatalog.Toml.Scalar

/-! # TOML notation

Reading keys and values from the front of a text. A reader gives what it has read
and leaves the rest. -/

namespace TaggedCatalog.Toml

abbrev Read (α : Type) : Type := StateT (List Char) Option α

namespace Read

def fail {α : Type} : Read α := fun _ => none

/-- The next character, which stays. -/
def peek : Read (Option Char) := fun text => some (text.head?, text)

def skip : Read Unit := fun text => some ((), text.drop 1)

def expect (c : Char) : Read Unit := fun text =>
  match text with
  | next :: rest => if next = c then some ((), rest) else none
  | [] => none

/-- Takes the given characters if they are next, and says whether they were. -/
def accept (word : List Char) : Read Bool := fun text =>
  if word.isPrefixOf text then some (true, text.drop word.length) else some (false, text)

def takeWhile (holds : Char → Bool) : Read (List Char) := fun text =>
  some (text.takeWhile holds, text.dropWhile holds)

def lift {α : Type} (value : Option α) : Read α := fun text => value.map fun found => (found, text)

def isBlank (c : Char) : Bool := c == ' ' || c == '\t'

def skipBlanks : Read Unit := do
  let _ ← takeWhile isBlank

/-- Control characters, the tab apart, stand nowhere in a document. -/
def isControl (c : Char) : Bool := (c.toNat < 0x20 && c != '\t') || c.toNat == 0x7f

/-- A comment, if there is one, up to the end of its line. -/
def skipComment : Read Unit := do
  if ← accept ['#'] then
    let comment ← takeWhile (· != '\n')
    if comment.any isControl then fail

/-- Nothing but blanks and a comment up to the end of the line. -/
def endOfLine : Read Unit := do
  skipBlanks
  skipComment
  match ← peek with
  | none => return
  | some _ => expect '\n'

/-! ## Texts -/

/-- The character that a number of hexadecimal digits stands for. -/
def codePoint (width : Nat) : Read Char := fun text => do
  if text.length < width then none
  let value ← Scalar.natural? 16 (text.take width)
  if value.isValidChar then some (Char.ofNat value, text.drop width) else none

/-- What stands behind a backslash. -/
def escaped : Read Char := do
  let next ← peek
  skip
  match next with
  | some 'b' => return '\x08'
  | some 't' => return '\t'
  | some 'n' => return '\n'
  | some 'f' => return '\x0c'
  | some 'r' => return '\r'
  | some '"' => return '"'
  | some '\\' => return '\\'
  | some 'u' => codePoint 4
  | some 'U' => codePoint 8
  | _ => fail

/-- A text on one line, up to its closing quote. -/
def lineText (quote : Char) : Nat → Read (List Char)
  | 0 => fail
  | fuel + 1 => do
      match ← peek with
      | none => fail
      | some c =>
          skip
          if c = quote then return []
          else if isControl c then fail
          else if c = '\\' ∧ quote = '"' then
            return (← escaped) :: (← lineText quote fuel)
          else return c :: (← lineText quote fuel)

/-- A backslash at the end of a line takes the blanks and line ends behind it. -/
def skipLineBreak : Read Bool := fun text =>
  let space := text.takeWhile fun c => isBlank c || c == '\n'
  if space.contains '\n' then some (true, text.drop space.length) else some (false, text)

/-- A text on several lines, up to three closing quotes. One or two quotes more
belong to the text. -/
def linesText (quote : Char) : Nat → Read (List Char)
  | 0 => fail
  | fuel + 1 => do
      match ← peek with
      | none => fail
      | some c =>
          if c = quote then
            let quotes ← takeWhile (· == quote)
            if quotes.length < 3 then return quotes ++ (← linesText quote fuel)
            else if quotes.length < 6 then return quotes.drop 3
            else fail
          else
            skip
            if isControl c ∧ c ≠ '\n' then fail
            else if c = '\\' ∧ quote = '"' then
              if ← skipLineBreak then linesText quote fuel
              else return (← escaped) :: (← linesText quote fuel)
            else return c :: (← linesText quote fuel)

/-- A text in quotes, of which three open a text on several lines. -/
def quotedText (quote : Char) : Read String := do
  let length := (← get).length
  if ← accept [quote, quote, quote] then
    let _ ← accept ['\n']
    return String.ofList (← linesText quote (length + 1))
  else
    expect quote
    return String.ofList (← lineText quote (length + 1))

/-! ## Keys -/

def isBareKeyChar (c : Char) : Bool := c.isAlphanum || c == '_' || c == '-'

def simpleKey : Read String := do
  match ← peek with
  | some '"' => skip; return String.ofList (← lineText '"' ((← get).length + 1))
  | some '\'' => skip; return String.ofList (← lineText '\'' ((← get).length + 1))
  | _ =>
      let key ← takeWhile isBareKeyChar
      if key.isEmpty then fail else return String.ofList key

def dottedKeyWithin : Nat → Read (List String)
  | 0 => fail
  | fuel + 1 => do
      skipBlanks
      let first ← simpleKey
      skipBlanks
      if ← accept ['.'] then return first :: (← dottedKeyWithin fuel)
      else return [first]

/-- Keys with dots between them. -/
def dottedKey : Read (List String) := do dottedKeyWithin ((← get).length + 1)

/-! ## Values -/

def endsWord (c : Char) : Bool := " \t\n\r#,]\x7d".toList.contains c

/-- A time may follow its day after a blank. -/
def bareWord : Read Value := do
  let word ← takeWhile fun c => !endsWord c
  match Scalar.date? word with
  | none => lift (Scalar.ofWord? word)
  | some day =>
      let behind := (← get).takeWhile fun c => c == ' ' || !endsWord c
      let clock := (behind.reverse.dropWhile (· == ' ')).reverse
      if clock.isEmpty then return .date day
      else
        let value ← lift (Scalar.dateTime? (word ++ clock))
        modify fun text => text.drop clock.length
        return value

/-- Skips blanks, line ends and comments inside a list. -/
def skipListSpace : Nat → Read Unit
  | 0 => return
  | fuel + 1 => do
      let _ ← takeWhile fun c => isBlank c || c == '\n'
      match ← peek with
      | some '#' => skipComment; skipListSpace fuel
      | _ => return

/-- The items of a list up to its closing bracket. -/
def listItems (item : Read Value) : Nat → Read (List Value)
  | 0 => fail
  | fuel + 1 => do
      skipListSpace (fuel + 1)
      if ← accept [']'] then return []
      else
        let first ← item
        skipListSpace (fuel + 1)
        if ← accept [','] then return first :: (← listItems item fuel)
        else
          expect ']'
          return [first]

/-- The entries of a table on one line up to its closing brace. -/
def tableEntries (item : Read Value) : Nat → Draft → Read Draft
  | 0, _ => fail
  | fuel + 1, draft => do
      let path ← dottedKey
      expect '='
      skipBlanks
      let value ← item
      let draft ← lift (draft.assign value path)
      skipBlanks
      if ← accept [','] then tableEntries item fuel draft
      else
        expect '\x7d'
        return draft

/-- A value with others inside it, at most so deep. -/
def valueWithin : Nat → Read Value
  | 0 => fail
  | fuel + 1 => do
      match ← peek with
      | some '"' => return .text (← quotedText '"')
      | some '\'' => return .text (← quotedText '\'')
      | some 't' => if ← accept "true".toList then return .boolean true else fail
      | some 'f' => if ← accept "false".toList then return .boolean false else fail
      | some '[' =>
          skip
          return .list (← listItems (valueWithin fuel) ((← get).length + 1))
      | some '\x7b' =>
          skip
          skipBlanks
          if ← accept ['\x7d'] then return .table []
          else
            let draft ← tableEntries (valueWithin fuel) ((← get).length + 1) []
            return .table (Draft.finish draft)
      | _ => bareWord

def value : Read Value := do valueWithin ((← get).length + 1)

end Read

end TaggedCatalog.Toml
