import TaggedCatalog.Source.Grammar.Expression

/-! # Patterns

The patterns of a `case`. A low line alone matches anything and is no name. -/

namespace TaggedCatalog.Source.Grammar

open Parse

/-- A name that a pattern binds. -/
def captureName : Parse Unit := do
  let word ← name
  require (word != "_")
  let followed := match ← peek with
    | .symbol text => text == "." || text == "(" || text == "="
    | _ => false
  require !followed

/-- A number that is or is not imaginary. -/
def numberOf (imaginary : Bool) : Parse Unit := do
  match ← peek with
  | .number isImaginary =>
      require (isImaginary == imaginary)
      skip
  | _ => fail

def anyNumber : Parse Unit := do
  match ← peek with
  | .number _ => skip
  | _ => fail

/-- A number with a sign before it, or the sum of a real and an imaginary one. -/
def signedNumber : Parse Unit := do
  let start ← get
  let _ ← acceptSymbol "-"
  anyNumber
  if (← isNextSymbol "+") || (← isNextSymbol "-") then
    set start
    let _ ← acceptSymbol "-"
    numberOf false
    anySymbol ["+", "-"]
    numberOf true

section Rules

variable (phrase : PhraseParser)

/-- A literal as a pattern or as the key of a mapping pattern. -/
def literalPattern : Parse Unit := do
  match ← peek with
  | .number _ => signedNumber
  | .symbol "-" => signedNumber
  | .literal _ =>
      let _ ← literals phrase
  | .keyword word =>
      require (word == "None" || word == "True" || word == "False")
      skip
  | _ => fail

/-- Names joined by dots; gives whether there is more than one. -/
def dottedPattern : Parse Bool := do
  let _ ← name
  let others ← many (do symbol "."; name)
  return !others.isEmpty

def starPattern : Parse Unit := do
  symbol "*"
  match ← peek with
  | .name "_" => skip
  | _ => captureName

/-- A part of a sequence pattern, and whether it is starred. -/
def sequencePart : Parse Bool := do
  if ← isNextSymbol "*" then
    starPattern
    return true
  else
    phrase .pattern
    return false

/-- What stands behind an opening parenthesis: a pattern, or a sequence, which
has a comma. -/
def parenthesizedPattern : Parse Unit := do
  if ← acceptSymbol ")" then return
  let (parts, hasLastComma) ← separated (sequencePart phrase)
  require (parts.length > 1 || hasLastComma || parts.all (!·))
  symbol ")"

def bracketedPattern : Parse Unit := do
  if ← acceptSymbol "]" then return
  let _ ← separated (sequencePart phrase)
  symbol "]"

/-- A pair of a mapping pattern. -/
def pairPattern : Parse Unit := do
  match ← peek with
  | .name _ => require (← dottedPattern)
  | _ => literalPattern phrase
  symbol ":"
  phrase .pattern

def restPattern : Parse Unit := do
  symbol "**"
  captureName

/-- A pair, or the rest of a mapping; gives whether it is the rest. -/
def mappingPart : Parse Bool := do
  if ← isNextSymbol "**" then
    restPattern
    return true
  else
    pairPattern phrase
    return false

def bracedPattern : Parse Unit := do
  if ← acceptSymbol "\x7d" then return
  let (parts, _) ← separated (mappingPart phrase)
  require (parts.dropLast.all (!·))
  symbol "\x7d"

/-- An argument of a class pattern, and whether it is named. -/
def classPart : Parse Bool := do
  match ← peek, ← peekSecond with
  | .name _, .symbol "=" =>
      skip
      skip
      phrase .pattern
      return true
  | _, _ =>
      phrase .pattern
      return false

/-- The arguments of a class pattern: positional ones first. -/
def classArguments : Parse Unit := do
  symbol "("
  if ← acceptSymbol ")" then return
  let (parts, _) ← separated (classPart phrase)
  require ((parts.dropWhile (!·)).all id)
  symbol ")"

/-- A pattern that starts with a name: a capture, a value, or a class. -/
def namePattern : Parse Unit := do
  let _ ← dottedPattern
  if ← isNextSymbol "(" then classArguments phrase
  else require !(← isNextSymbol "=")

def closedPattern : Parse Unit := do
  match ← peek with
  | .name "_" => skip
  | .name _ => namePattern phrase
  | .symbol "(" =>
      skip
      parenthesizedPattern phrase
  | .symbol "[" =>
      skip
      bracketedPattern phrase
  | .symbol "\x7b" =>
      skip
      bracedPattern phrase
  | _ => literalPattern phrase

/-- Alternatives, and a name for what they match. -/
def pattern : Parse Unit := do
  closedPattern phrase
  let _ ← many (do symbol "|"; closedPattern phrase)
  if ← acceptKeyword "as" then captureName

/-- The patterns of a `case`: one, or a sequence without brackets. -/
def patterns : Parse Unit := do
  let (parts, hasLastComma) ← separated (sequencePart phrase)
  require (parts.length > 1 || hasLastComma || parts.all (!·))

end Rules

end TaggedCatalog.Source.Grammar
