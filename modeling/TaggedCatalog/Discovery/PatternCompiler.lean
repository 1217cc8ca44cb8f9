import TaggedCatalog.Text.Quoted

/-! # Compilers of patterns

Files are left out by patterns, and a scan needs no more of the patterns than a test for
paths. What patterns look like is up to the compiler that makes the test. -/

namespace TaggedCatalog

/-- Why a pattern is refused. -/
inductive ExclusionProblem where
  | invalid (pattern : String)
  /-- A range of characters ends before it starts, at a place in the expression
  that the pattern stands for. -/
  | reversedRange (first last : Char) (position : Nat)
deriving DecidableEq, Repr

namespace ExclusionProblem

def message : ExclusionProblem → String
  | invalid pattern => "Invalid git pattern: " ++ Text.quoted pattern
  | reversedRange first last position =>
      "bad character range " ++ String.ofList [first, '-', last] ++ " at position " ++
        toString position

end ExclusionProblem

/-- How patterns become a test for the paths that they leave out. -/
abbrev PatternCompiler := List String → Except ExclusionProblem (String → Bool)

end TaggedCatalog
