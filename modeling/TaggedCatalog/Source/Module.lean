import TaggedCatalog.Source.Grammar.Statement

/-! # Reading a module

Ties the rules of the grammar together. Every phrase inside a phrase is parsed
with one step less, and the number of steps is bounded by the size of the text. -/

namespace TaggedCatalog.Source

/-- The rule of a phrase. -/
def rule (phrase : PhraseParser) : {α : Type} → Phrase α → Parse α
  | _, .expression => Grammar.expression phrase
  | _, .disjunction => Grammar.disjunction phrase
  | _, .inversion => Grammar.inversion phrase
  | _, .bitwiseOr => Grammar.bitwiseOr phrase
  | _, .factor => Grammar.factor phrase
  | _, .primary => Grammar.primary phrase
  | _, .starExpressions => Grammar.starExpressions phrase
  | _, .pattern => Grammar.pattern phrase
  | _, .block => Grammar.blockBody phrase

/-- The parser of phrases that are nested at most so deep. -/
def phraseWithin (lookup : Lookup) : Nat → PhraseParser
  | 0 => ⟨lookup, fun _ => Parse.fail⟩
  | depth + 1 => ⟨lookup, rule (phraseWithin lookup depth)⟩

/-- The statements of a text, if it is a module. -/
def parseUnits (lookup : Lookup) (units : List Char) : Option (List Stmt) :=
  match tokens units with
  | none => none
  | some list => ((Grammar.file (phraseWithin lookup (2 * units.length + 2))).run list).map (·.1)

/-- The statements of a source file, if it is a module. -/
def readModule (lookup : Lookup) (bytes : List UInt8) : Option (List Stmt) :=
  (unitsOfFile lookup bytes).bind (parseUnits lookup)

end TaggedCatalog.Source
