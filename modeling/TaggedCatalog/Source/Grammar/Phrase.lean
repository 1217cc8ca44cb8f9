import TaggedCatalog.Source.Lexer
import TaggedCatalog.Source.Tree

/-! # Phrases

A parser takes tokens from the front of a list and gives what they mean. The
grammar is recursive: a rule that needs another phrase is given a parser for
all phrases, and the knot is tied at the end with a bound on the depth. -/

namespace TaggedCatalog.Source

abbrev Parse (α : Type) : Type := StateT (List Token) Option α

/-- The phrases that rules refer to from within. -/
inductive Phrase : Type → Type where
  | expression : Phrase Expr
  | disjunction : Phrase Expr
  | inversion : Phrase Expr
  | bitwiseOr : Phrase Expr
  | factor : Phrase Expr
  | primary : Phrase Expr
  | starExpressions : Phrase Expr
  | pattern : Phrase Unit
  | block : Phrase (List Stmt)

/-- A parser for every phrase, and what is looked up for the literals in them. -/
structure PhraseParser : Type 1 where
  lookup : Lookup
  parse : {α : Type} → Phrase α → Parse α

instance : CoeFun PhraseParser fun _ => {α : Type} → Phrase α → Parse α := ⟨PhraseParser.parse⟩

namespace Parse

/-- The kind of the next token. -/
def peek : Parse TokenKind := fun tokens =>
  match tokens with
  | [] => some (.endOfFile, [])
  | token :: _ => some (token.kind, tokens)

/-- The kind of the token behind the next one. -/
def peekSecond : Parse TokenKind := fun tokens =>
  match tokens with
  | _ :: token :: _ => some (token.kind, tokens)
  | _ => some (.endOfFile, tokens)

/-- The line of the next token. -/
def line : Parse Nat := fun tokens =>
  match tokens with
  | [] => some (0, [])
  | token :: _ => some (token.line, tokens)

/-- Takes the next token, whatever it is. -/
def skip : Parse Unit := fun tokens =>
  match tokens with
  | [] => none
  | _ :: rest => some ((), rest)

def fail {α : Type} : Parse α := fun _ => none

def require (condition : Bool) : Parse Unit := if condition then pure () else fail

/-- Takes a token of exactly this kind. -/
def expect (kind : TokenKind) : Parse Unit := do
  require ((← peek) == kind)
  skip

/-- Takes a token of this kind if it is next, and says whether it was. -/
def accept (kind : TokenKind) : Parse Bool := do
  if (← peek) == kind then
    skip
    return true
  else return false

def symbol (text : String) : Parse Unit := expect (.symbol text)

def keyword (word : String) : Parse Unit := expect (.keyword word)

def acceptSymbol (text : String) : Parse Bool := accept (.symbol text)

def acceptKeyword (word : String) : Parse Bool := accept (.keyword word)

def isNextSymbol (text : String) : Parse Bool := do return (← peek) == .symbol text

def isNextKeyword (word : String) : Parse Bool := do return (← peek) == .keyword word

/-- Takes a name. -/
def name : Parse String := do
  match ← peek with
  | .name word =>
      skip
      return word
  | _ => fail

/-- Whether a parser succeeds here. Nothing is taken if it does not. -/
def attempt {α : Type} (parser : Parse α) : Parse (Option α) := fun tokens =>
  match parser tokens with
  | some (value, rest) => some (some value, rest)
  | none => some (none, tokens)

/-- As many as there are, at most a given number. -/
def manyWithin {α : Type} : Nat → Parse α → Parse (List α)
  | 0, _ => pure []
  | fuel + 1, parser => do
      match ← attempt parser with
      | none => return []
      | some value => return value :: (← manyWithin fuel parser)

/-- As many as there are. The parser has to take a token. -/
def many {α : Type} (parser : Parse α) : Parse (List α) := fun tokens =>
  manyWithin tokens.length parser tokens

/-- Items behind the first one, each after a comma. A comma that is not followed
by an item is taken too. Gives the items and whether such a comma was there. -/
def afterCommasWithin {α : Type} : Nat → Parse α → Parse (List α × Bool)
  | 0, _ => return ([], false)
  | fuel + 1, item => do
      if ← acceptSymbol "," then
        match ← attempt item with
        | none => return ([], true)
        | some value =>
            let others ← afterCommasWithin fuel item
            return (value :: others.1, others.2)
      else return ([], false)

/-- Items separated by commas, one at least, and whether a comma ends them. -/
def separated {α : Type} (item : Parse α) : Parse (List α × Bool) := do
  let first ← item
  if ← isNextSymbol "," then
    let others ← fun tokens => afterCommasWithin tokens.length item tokens
    return (first :: others.1, others.2)
  else return ([first], false)

/-- Items separated by commas, one at least; the last one ends them. -/
def separatedStrictly {α : Type} (item : Parse α) : Parse (List α) := do
  let (items, hasLastComma) ← separated item
  require !hasLastComma
  return items

end Parse

end TaggedCatalog.Source
