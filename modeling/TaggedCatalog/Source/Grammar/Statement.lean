import TaggedCatalog.Source.Grammar.Pattern

/-! # Statements

Classes keep their decorators and their body, and other compound statements the
statements in their blocks. Of the simple statements only plain expressions keep
anything, since the first of them may be documentation. -/

namespace TaggedCatalog.Source.Grammar

open Parse

/-- Names joined by dots. -/
def dottedName : Parse Unit := do
  let _ ← name
  let _ ← many (do symbol "."; name)

/-- An optional `as` and a name. -/
def optionalAlias : Parse Unit := do
  if ← acceptKeyword "as" then
    let _ ← name

def importStatement : Parse Unit := do
  keyword "import"
  let _ ← separatedStrictly (do dottedName; optionalAlias)

/-- The names that are imported from a module. -/
def importedNames : Parse Unit := do
  let item : Parse Unit := do
    let _ ← name
    optionalAlias
  if ← acceptSymbol "*" then return
  if ← acceptSymbol "(" then
    let _ ← separated item
    symbol ")"
  else
    let _ ← separatedStrictly item

def importFromStatement : Parse Unit := do
  keyword "from"
  let dots ← many (anySymbol [".", "..."])
  if dots.isEmpty then dottedName
  else
    let _ ← attempt dottedName
  keyword "import"
  importedNames

/-- Names behind a word such as `global`. -/
def scopeStatement : Parse Unit := do
  skip
  let _ ← separatedStrictly name

/-- The operators that assign as they compute. -/
def augmentedOperators : List String :=
  ["+=", "-=", "*=", "@=", "/=", "%=", "&=", "|=", "^=", "<<=", ">>=", "**=", "//="]

section Rules

variable (phrase : PhraseParser)

/-! ## Simple statements -/

/-- What may stand on the right of an assignment. -/
def assignedValue : Parse Expr := do
  if ← isNextKeyword "yield" then yieldExpression phrase else phrase .starExpressions

/-- The values behind an equals sign. All but the last are targets too. -/
def assignmentTail : Nat → Parse Unit
  | 0 => fail
  | fuel + 1 => do
      symbol "="
      let value ← assignedValue phrase
      if ← isNextSymbol "=" then
        require value.isTarget
        assignmentTail fuel

/-- A statement that starts with an expression: an assignment, an annotation, or
the expression alone. -/
def expressionStatement : Parse Stmt := do
  let first ← phrase .starExpressions
  match ← peek with
  | .symbol ":" =>
      skip
      require first.isPlace
      let _ ← phrase .expression
      if ← acceptSymbol "=" then
        let _ ← assignedValue phrase
      return .other
  | .symbol "=" =>
      require first.isTarget
      fun tokens => (assignmentTail phrase tokens.length).run tokens
      return .other
  | .symbol text =>
      if augmentedOperators.contains text then
        skip
        require first.isPlace
        let _ ← assignedValue phrase
        return .other
      else return .expression first
  | _ => return .expression first

def deleteStatement : Parse Unit := do
  keyword "del"
  let (items, _) ← separated (phrase .primary)
  require (items.all Expr.isDeletable)

def raiseStatement : Parse Unit := do
  keyword "raise"
  match ← attempt (phrase .expression) with
  | none => return
  | some _ =>
      if ← acceptKeyword "from" then
        let _ ← phrase .expression

def assertStatement : Parse Unit := do
  keyword "assert"
  let _ ← phrase .expression
  if ← acceptSymbol "," then
    let _ ← phrase .expression

def returnStatement : Parse Unit := do
  keyword "return"
  let _ ← attempt (phrase .starExpressions)

/-- A statement that starts with a reserved word, by that word. -/
def wordStatement (word : String) : Option (Parse Unit) :=
  match word with
  | "pass" => some skip
  | "break" => some skip
  | "continue" => some skip
  | "return" => some (returnStatement phrase)
  | "import" => some importStatement
  | "from" => some importFromStatement
  | "raise" => some (raiseStatement phrase)
  | "del" => some (deleteStatement phrase)
  | "assert" => some (assertStatement phrase)
  | "global" => some scopeStatement
  | "nonlocal" => some scopeStatement
  | "yield" => some (do let _ ← yieldExpression phrase)
  | _ => none

def simpleStatement : Parse Stmt := do
  match ← peek with
  | .keyword word =>
      match wordStatement phrase word with
      | some parser =>
          parser
          return .other
      | none => expressionStatement phrase
  | _ => expressionStatement phrase

/-- Simple statements on one line, separated by semicolons. -/
def simpleStatements : Parse (List Stmt) := do
  let first ← simpleStatement phrase
  let others ← many (do symbol ";"; simpleStatement phrase)
  let _ ← acceptSymbol ";"
  expect .lineEnd
  return first :: others

/-! ## Compound statements -/

/-- A colon and a block. -/
def suite : Parse (List Stmt) := do
  symbol ":"
  phrase .block

/-- A suite behind a word, if the word is next. -/
def suiteAfter (word : String) : Parse (List Stmt) := do
  if ← acceptKeyword word then suite phrase else return []

def elifClause : Parse (List Stmt) := do
  keyword "elif"
  let _ ← namedExpression phrase
  suite phrase

def ifStatement : Parse (List Stmt) := do
  keyword "if"
  let _ ← namedExpression phrase
  let first ← suite phrase
  let others ← many (elifClause phrase)
  return first ++ others.flatten ++ (← suiteAfter phrase "else")

def whileStatement : Parse (List Stmt) := do
  keyword "while"
  let _ ← namedExpression phrase
  let body ← suite phrase
  return body ++ (← suiteAfter phrase "else")

def forStatement : Parse (List Stmt) := do
  keyword "for"
  starTargets phrase
  keyword "in"
  let _ ← phrase .starExpressions
  let body ← suite phrase
  return body ++ (← suiteAfter phrase "else")

/-- An item of a `with`, with the target that it is bound to. -/
def withItem : Parse Unit := do
  let _ ← phrase .expression
  if ← acceptKeyword "as" then
    let target ← starTarget phrase
    require target.isTarget

/-- The items of a `with` in parentheses of their own. -/
def parenthesizedItems : Parse Unit := do
  symbol "("
  let _ ← separated (withItem phrase)
  symbol ")"
  require (← isNextSymbol ":")

def withStatement : Parse (List Stmt) := do
  keyword "with"
  match ← attempt (parenthesizedItems phrase) with
  | some _ => pure ()
  | none =>
      let _ ← separatedStrictly (withItem phrase)
  suite phrase

/-- What an `except` catches: nothing in particular, a type, or a group; gives
whether it is a group, and the block. -/
def exceptClause : Parse (Bool × List Stmt) := do
  keyword "except"
  if ← isNextSymbol ":" then return (false, ← suite phrase)
  let isGroup ← acceptSymbol "*"
  let _ ← phrase .expression
  optionalAlias
  return (isGroup, ← suite phrase)

def tryStatement : Parse (List Stmt) := do
  keyword "try"
  let body ← suite phrase
  if ← acceptKeyword "finally" then return body ++ (← suite phrase)
  let first ← exceptClause phrase
  let others ← many (exceptClause phrase)
  require (others.all (·.1 == first.1))
  let handlers := (first :: others).flatMap (·.2)
  let afterwards ← suiteAfter phrase "else"
  return body ++ handlers ++ afterwards ++ (← suiteAfter phrase "finally")

def functionStatement : Parse (List Stmt) := do
  keyword "def"
  let _ ← name
  symbol "("
  parameters phrase true ")"
  symbol ")"
  if ← acceptSymbol "->" then
    let _ ← phrase .expression
  suite phrase

def classStatement (decorators : List Expr) : Parse Stmt := do
  keyword "class"
  let word ← name
  if ← acceptSymbol "(" then
    let _ ← arguments phrase
    symbol ")"
  symbol ":"
  let body ← phrase .block
  return .classDef word decorators body

def decorator : Parse Expr := do
  symbol "@"
  let value ← namedExpression phrase
  expect .lineEnd
  return value

def decorated : Parse Stmt := do
  let decorators ← many (decorator phrase)
  require !decorators.isEmpty
  if ← isNextKeyword "class" then classStatement phrase decorators
  else
    let _ ← acceptKeyword "async"
    return .compound (← functionStatement phrase)

def asyncStatement : Parse (List Stmt) := do
  keyword "async"
  match ← peek with
  | .keyword "def" => functionStatement phrase
  | .keyword "for" => forStatement phrase
  | .keyword "with" => withStatement phrase
  | _ => fail

/-! ## Matching -/

/-- The subject of a `match`; one that is starred needs a comma. -/
def matchSubject : Parse Unit := do
  let (items, hasLastComma) ← separated (starNamedExpression phrase)
  require (items.length > 1 || hasLastComma || items.all (!·.isStarred))

/-- The words `match` and `case` are names everywhere else. -/
def softKeyword (word : String) : Parse Unit := expect (.name word)

def matchHead : Parse Unit := do
  softKeyword "match"
  matchSubject phrase
  symbol ":"
  expect .lineEnd

def caseClause : Parse (List Stmt) := do
  softKeyword "case"
  patterns phrase
  if ← acceptKeyword "if" then
    let _ ← namedExpression phrase
  suite phrase

def matchBody : Parse (List Stmt) := do
  expect .indent
  let clauses ← many (caseClause phrase)
  require !clauses.isEmpty
  expect .dedent
  return clauses.flatten

/-! ## All statements -/

/-- The compound statement that starts with a reserved word. -/
def compoundStatement (word : String) : Option (Parse Stmt) :=
  let compound (parser : Parse (List Stmt)) : Option (Parse Stmt) :=
    some do return .compound (← parser)
  match word with
  | "class" => some (classStatement phrase [])
  | "def" => compound (functionStatement phrase)
  | "if" => compound (ifStatement phrase)
  | "while" => compound (whileStatement phrase)
  | "for" => compound (forStatement phrase)
  | "try" => compound (tryStatement phrase)
  | "with" => compound (withStatement phrase)
  | "async" => compound (asyncStatement phrase)
  | _ => none

/-- One compound statement or a line of simple ones. -/
def statement : Parse (List Stmt) := do
  match ← peek with
  | .keyword word =>
      match compoundStatement phrase word with
      | some parser => return [← parser]
      | none => simpleStatements phrase
  | .symbol "@" => return [← decorated phrase]
  | .name "match" =>
      match ← attempt (matchHead phrase) with
      | some _ => return [.compound (← matchBody phrase)]
      | none => simpleStatements phrase
  | _ => simpleStatements phrase

/-- An indented block, or statements on the same line. -/
def blockBody : Parse (List Stmt) := do
  if ← accept .lineEnd then
    expect .indent
    let lines ← many (statement phrase)
    require !lines.isEmpty
    expect .dedent
    return lines.flatten
  else simpleStatements phrase

/-- A whole file. -/
def file : Parse (List Stmt) := do
  let lines ← many (statement phrase)
  expect .endOfFile
  return lines.flatten

end Rules

end TaggedCatalog.Source.Grammar
