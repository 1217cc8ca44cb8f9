import TaggedCatalog.Source.Grammar.Phrase

/-! # Expressions

One rule per level of binding, loosest last. A rule that finds no operator of
its level gives what the tighter level gave, so that an expression in
parentheses is the expression itself and starts on its own line. -/

namespace TaggedCatalog.Source.Grammar

open Parse

/-- Operands of one level, joined by its operators. -/
def joined (operator : Parse Unit) (operand : Parse Expr) : Parse Expr := do
  let start ← line
  let first ← operand
  match ← attempt operator with
  | none => return first
  | some _ =>
      let _ ← operand
      let _ ← many (do operator; operand)
      return .other start

/-- One of the given symbols. -/
def anySymbol (texts : List String) : Parse Unit := do
  match ← peek with
  | .symbol text =>
      require (texts.contains text)
      skip
  | _ => fail

/-! ## Parts of larger expressions -/

/-- Whether a clause of a comprehension is next. -/
def isNextClause : Parse Bool := do
  return (← isNextKeyword "for") || (← isNextKeyword "async")

section Rules

variable (phrase : PhraseParser)

/-- A value with a name, or an expression. -/
def namedExpression : Parse Expr := do
  let start ← line
  match ← peek, ← peekSecond with
  | .name _, .symbol ":=" =>
      skip
      skip
      let _ ← phrase .expression
      return .other start
  | _, _ => phrase .expression

def yieldExpression : Parse Expr := do
  let start ← line
  keyword "yield"
  if ← acceptKeyword "from" then
    let _ ← phrase .expression
  else
    let _ ← attempt (phrase .starExpressions)
  return .other start

/-- The expressions of a format text, each parsed in parentheses. -/
def formatExpressions : List (List Char) → Parse Unit
  | [] => pure ()
  | text :: rest => do
      match tokens ('(' :: text ++ [')', '\n']) with
      | none => fail
      | some inner =>
          require (((phrase .starExpressions).run inner).isSome)
          formatExpressions rest

/-- The text that literals standing together make up, and which of them are
bytes or format texts. -/
structure Literals where
  text : CodeText := []
  count : Nat := 0
  bytesCount : Nat := 0
  formatCount : Nat := 0

/-- Takes one more literal. -/
def literal (taken : Literals) : Parse Literals := do
  match ← peek with
  | .literal written =>
      skip
      match written.value? phrase.lookup with
      | none => fail
      | some (.text value) =>
          return { taken with text := taken.text ++ value, count := taken.count + 1 }
      | some .bytes =>
          return { taken with bytesCount := taken.bytesCount + 1, count := taken.count + 1 }
      | some (.format expressions) =>
          formatExpressions phrase expressions
          return { taken with formatCount := taken.formatCount + 1, count := taken.count + 1 }
  | _ => fail

def isNextLiteral : Parse Bool := do
  match ← peek with
  | .literal _ => return true
  | _ => return false

def literalsWithin : Nat → Literals → Parse Literals
  | 0, taken => return taken
  | fuel + 1, taken => do
      if ← isNextLiteral then literalsWithin fuel (← literal phrase taken)
      else return taken

/-- Literals standing together are one value. Bytes do not mix with text. -/
def literals : Parse Expr := do
  let start ← line
  let taken ← literal phrase {}
  let taken ←
    if ← isNextLiteral then
      fun tokens => literalsWithin phrase tokens.length taken tokens
    else pure taken
  require (taken.bytesCount == 0 || taken.bytesCount == taken.count)
  if taken.bytesCount == 0 && taken.formatCount == 0 then return .text start taken.text
  else return .other start

/-- What follows a dot, a bracket or a parenthesis behind a value. -/
inductive Trailer where
  | member (word : String)
  | subscript
  | call (positional : List Expr) (named : List (Option String × Expr))

/-- An argument of a call. -/
inductive Argument where
  | positional (value : Expr)
  | starred (value : Expr)
  | named (word : String) (value : Expr)
  | unpacked (value : Expr)

def argument : Parse Argument := do
  let start ← line
  if ← acceptSymbol "*" then return .starred (.starred start (← phrase .expression))
  else if ← acceptSymbol "**" then return .unpacked (← phrase .expression)
  else
    match ← peek, ← peekSecond with
    | .name word, .symbol "=" =>
        skip
        skip
        return .named word (← phrase .expression)
    | _, _ => return .positional (← namedExpression phrase)

/-- Behind a named argument no positional one may stand, and behind an unpacked
mapping no starred one either. -/
def areOrdered : List Argument → Bool
  | [] => true
  | .positional _ :: rest => areOrdered rest
  | .starred _ :: rest => areOrdered rest
  | .named _ _ :: rest =>
      rest.all (fun argument => match argument with | .positional _ => false | _ => true) &&
        areOrdered rest
  | .unpacked _ :: rest =>
      rest.all (fun argument =>
        match argument with | .positional _ => false | .starred _ => false | _ => true) &&
        areOrdered rest

def positionalOf : List Argument → List Expr :=
  List.filterMap fun argument =>
    match argument with
    | .positional value => some value
    | .starred value => some value
    | _ => none

def namedOf : List Argument → List (Option String × Expr) :=
  List.filterMap fun argument =>
    match argument with
    | .named word value => some (some word, value)
    | .unpacked value => some (none, value)
    | _ => none

/-- Arguments up to the closing parenthesis, which stays. -/
def arguments : Parse (List Argument) := do
  if ← isNextSymbol ")" then return []
  let (items, _) ← separated (argument phrase)
  require (areOrdered items)
  require (← isNextSymbol ")")
  return items

/-! ## Targets and comprehensions -/

/-- A target that may be starred. -/
def starTarget : Parse Expr := do
  let start ← line
  if ← acceptSymbol "*" then
    let target ← phrase .primary
    return .starred start target
  else phrase .primary

/-- Targets separated by commas, all of them assignable. -/
def starTargets : Parse Unit := do
  let (items, _) ← separated (starTarget phrase)
  require (items.all Expr.isTarget)

/-- One loop of a comprehension with its conditions. -/
def comprehensionClause : Parse Unit := do
  let _ ← acceptKeyword "async"
  keyword "for"
  starTargets phrase
  keyword "in"
  let _ ← phrase .disjunction
  let _ ← many (do keyword "if"; phrase .disjunction)

def comprehension : Parse Unit := do
  comprehensionClause phrase
  let _ ← many (comprehensionClause phrase)

/-! ## Slices -/

def optionalExpression : Parse Unit := do
  let _ ← attempt (phrase .expression)

/-- What follows the first part of a slice. -/
def sliceTail : Parse Unit := do
  symbol ":"
  optionalExpression phrase
  if ← acceptSymbol ":" then optionalExpression phrase

/-- A slice, an index, or a starred index. -/
def slice : Parse Unit := do
  if ← acceptSymbol "*" then
    let _ ← phrase .expression
  else if ← isNextSymbol ":" then sliceTail phrase
  else
    match ← peek, ← peekSecond with
    | .name _, .symbol ":=" =>
        let _ ← namedExpression phrase
    | _, _ =>
        let _ ← phrase .expression
        if ← isNextSymbol ":" then sliceTail phrase

def slices : Parse Unit := do
  let _ ← separated (slice phrase)

/-! ## Displays -/

/-- An expression that may be starred or named. -/
def starNamedExpression : Parse Expr := do
  let start ← line
  if ← acceptSymbol "*" then
    let value ← phrase .bitwiseOr
    return .starred start value
  else namedExpression phrase

/-- What stands behind an opening parenthesis: nothing, a yield, a generator, a
tuple, or one expression, which is then not starred. -/
def parenthesized (start : Nat) : Parse Expr := do
  if ← acceptSymbol ")" then return .tuple start []
  if ← isNextKeyword "yield" then
    let value ← yieldExpression phrase
    symbol ")"
    return value
  let first ← starNamedExpression phrase
  if ← isNextClause then
    require !first.isStarred
    comprehension phrase
    symbol ")"
    return .other start
  if ← acceptSymbol "," then
    if ← acceptSymbol ")" then return .tuple start [first]
    let (others, _) ← separated (starNamedExpression phrase)
    symbol ")"
    return .tuple start (first :: others)
  require !first.isStarred
  symbol ")"
  return first

/-- What stands behind an opening bracket. -/
def bracketed (start : Nat) : Parse Expr := do
  if ← acceptSymbol "]" then return .list start []
  let (items, hasLastComma) ← separated (starNamedExpression phrase)
  if ← isNextClause then
    require (items.length == 1 && !hasLastComma && items.all (!·.isStarred))
    comprehension phrase
    symbol "]"
    return .other start
  symbol "]"
  return .list start items

/-- A pair of a mapping, or an unpacked mapping. -/
def pair : Parse Unit := do
  if ← acceptSymbol "**" then
    let _ ← phrase .bitwiseOr
  else
    let _ ← phrase .expression
    symbol ":"
    let _ ← phrase .expression

/-- The pairs behind the first one, up to the closing brace. -/
def pairsTail : Parse Unit := do
  if ← acceptSymbol "," then
    if !(← isNextSymbol "\x7d") then
      let _ ← separated (pair phrase)
  symbol "\x7d"

/-- The items behind the first one, up to the closing brace. -/
def itemsTail : Parse Unit := do
  if ← acceptSymbol "," then
    if !(← isNextSymbol "\x7d") then
      let _ ← separated (starNamedExpression phrase)
  symbol "\x7d"

/-- What stands behind an opening brace: a mapping, a set, or a comprehension of
one of them. -/
def braced (start : Nat) : Parse Expr := do
  if ← acceptSymbol "\x7d" then return .other start
  if ← acceptSymbol "**" then
    let _ ← phrase .bitwiseOr
    pairsTail phrase
  else
    let isNamed := match ← peek, ← peekSecond with
      | .name _, .symbol ":=" => true
      | _, _ => false
    let first ← starNamedExpression phrase
    if ← isNextSymbol ":" then
      require (!first.isStarred && !isNamed)
      skip
      let _ ← phrase .expression
      if ← isNextClause then
        comprehension phrase
        symbol "\x7d"
      else pairsTail phrase
    else if ← isNextClause then
      require !first.isStarred
      comprehension phrase
      symbol "\x7d"
    else itemsTail phrase
  return .other start

/-! ## Values -/

def atom : Parse Expr := do
  let start ← line
  match ← peek with
  | .name word =>
      skip
      return .name start word
  | .number _ =>
      skip
      return .other start
  | .literal _ => literals phrase
  | .keyword word =>
      require (word == "True" || word == "False" || word == "None")
      skip
      return .other start
  | .symbol "(" =>
      skip
      parenthesized phrase start
  | .symbol "[" =>
      skip
      bracketed phrase start
  | .symbol "\x7b" =>
      skip
      braced phrase start
  | .symbol "..." =>
      skip
      return .other start
  | _ => fail

/-- The arguments of a call. A generator may stand alone without parentheses of
its own, and then starts with the parentheses of the call. -/
def callTrailer : Parse Trailer := do
  let start ← line
  symbol "("
  if ← acceptSymbol ")" then return .call [] []
  let first ← argument phrase
  match first with
  | .positional _ =>
      if ← isNextClause then
        comprehension phrase
        symbol ")"
        return .call [.other start] []
  | _ => pure ()
  let (others, _) ← fun tokens => afterCommasWithin tokens.length (argument phrase) tokens
  require (areOrdered (first :: others))
  symbol ")"
  return .call (positionalOf (first :: others)) (namedOf (first :: others))

def trailer : Parse Trailer := do
  match ← peek with
  | .symbol "." =>
      skip
      return .member (← name)
  | .symbol "(" => callTrailer phrase
  | .symbol "[" =>
      skip
      slices phrase
      symbol "]"
      return .subscript
  | _ => fail

def applyTrailer (start : Nat) (value : Expr) : Trailer → Expr
  | .member word => .member start value word
  | .subscript => .subscript start
  | .call positional named => .call start value positional named

/-- A value with all that follows it. -/
def primary : Parse Expr := do
  let start ← line
  let value ← atom phrase
  match ← attempt (trailer phrase) with
  | none => return value
  | some first =>
      let others ← many (trailer phrase)
      return others.foldl (applyTrailer start) (applyTrailer start value first)

/-! ## Operators -/

def awaited : Parse Expr := do
  let start ← line
  if ← acceptKeyword "await" then
    let _ ← primary phrase
    return .other start
  else primary phrase

def power : Parse Expr := do
  let start ← line
  let base ← awaited phrase
  if ← acceptSymbol "**" then
    let _ ← phrase .factor
    return .other start
  else return base

def factor : Parse Expr := do
  let start ← line
  match ← attempt (anySymbol ["+", "-", "~"]) with
  | some _ =>
      let _ ← phrase .factor
      return .other start
  | none => power phrase

def term : Parse Expr := joined (anySymbol ["*", "/", "//", "%", "@"]) (factor phrase)

def sum : Parse Expr := joined (anySymbol ["+", "-"]) (term phrase)

def shift : Parse Expr := joined (anySymbol ["<<", ">>"]) (sum phrase)

def bitwiseAnd : Parse Expr := joined (symbol "&") (shift phrase)

def bitwiseXor : Parse Expr := joined (symbol "^") (bitwiseAnd phrase)

def bitwiseOr : Parse Expr := joined (symbol "|") (bitwiseXor phrase)

/-- An operator of comparison, which may be two words. -/
def comparisonOperator : Parse Unit := do
  match ← peek with
  | .keyword "in" => skip
  | .keyword "not" =>
      skip
      keyword "in"
  | .keyword "is" =>
      skip
      let _ ← acceptKeyword "not"
  | _ => anySymbol ["==", "!=", "<=", "<", ">=", ">"]

def comparison : Parse Expr := joined comparisonOperator (bitwiseOr phrase)

def inversion : Parse Expr := do
  let start ← line
  if ← acceptKeyword "not" then
    let _ ← phrase .inversion
    return .other start
  else comparison phrase

def conjunction : Parse Expr := joined (keyword "and") (inversion phrase)

def disjunction : Parse Expr := joined (keyword "or") (conjunction phrase)

/-! ## Parameters -/

/-- What the parameters so far allow to follow. -/
structure ParameterState where
  count : Nat := 0
  hasDefault : Bool := false
  hasSlash : Bool := false
  hasStar : Bool := false
  /-- A star without a name, which has to be followed by a named parameter. -/
  needsName : Bool := false

/-- One parameter. Only parameters of functions have annotations. -/
def parameter (isAnnotated : Bool) (state : ParameterState) : Parse (ParameterState × Bool) := do
  let annotation : Parse Unit := do
    if isAnnotated then
      if ← acceptSymbol ":" then
        let _ ← phrase .expression
  match ← peek with
  | .symbol "/" =>
      skip
      require (state.count > 0 && !state.hasSlash && !state.hasStar)
      return ({ state with hasSlash := true }, false)
  | .symbol "*" =>
      skip
      require !state.hasStar
      match ← peek with
      | .name _ =>
          skip
          if isAnnotated then
            if ← acceptSymbol ":" then
              if ← acceptSymbol "*" then
                let _ ← phrase .bitwiseOr
              else
                let _ ← phrase .expression
          return ({ state with hasStar := true }, false)
      | _ => return ({ state with hasStar := true, needsName := true }, false)
  | .symbol "**" =>
      skip
      require !state.needsName
      let _ ← name
      annotation
      return (state, true)
  | _ =>
      let _ ← name
      annotation
      let hasDefault ← acceptSymbol "="
      if hasDefault then
        let _ ← phrase .expression
      require (hasDefault || state.hasStar || !state.hasDefault)
      return ({ state with
        count := state.count + 1
        hasDefault := hasDefault || state.hasDefault
        needsName := false }, false)

/-- Parameters up to the symbol that ends them, which stays. -/
def parametersWithin (isAnnotated : Bool) (closing : String) :
    Nat → ParameterState → Parse Unit
  | 0, _ => fail
  | fuel + 1, state => do
      if ← isNextSymbol closing then require !state.needsName
      else
        let (next, isLast) ← parameter phrase isAnnotated state
        if ← acceptSymbol "," then
          if isLast then require (← isNextSymbol closing)
          else parametersWithin isAnnotated closing fuel next
        else
          require (← isNextSymbol closing)
          require !next.needsName

def parameters (isAnnotated : Bool) (closing : String) : Parse Unit := fun tokens =>
  parametersWithin phrase isAnnotated closing (tokens.length + 1) {} tokens

def lambdaExpression : Parse Expr := do
  let start ← line
  keyword "lambda"
  parameters phrase false ":"
  symbol ":"
  let _ ← phrase .expression
  return .other start

/-! ## Whole expressions -/

def expression : Parse Expr := do
  let start ← line
  if ← isNextKeyword "lambda" then lambdaExpression phrase
  else
    let value ← disjunction phrase
    if ← acceptKeyword "if" then
      let _ ← disjunction phrase
      keyword "else"
      let _ ← phrase .expression
      return .other start
    else return value

def starExpression : Parse Expr := do
  let start ← line
  if ← acceptSymbol "*" then
    let value ← bitwiseOr phrase
    return .starred start value
  else expression phrase

/-- Expressions separated by commas; a comma makes them a tuple. -/
def starExpressions : Parse Expr := do
  let start ← line
  let (items, hasLastComma) ← separated (starExpression phrase)
  match items, hasLastComma with
  | [item], false => return item
  | _, _ => return .tuple start items

end Rules

end TaggedCatalog.Source.Grammar
