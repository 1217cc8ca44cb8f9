/-! # Sets of characters given by ranges

A property of characters that a standard gives as a table is kept as a list of
inclusive ranges of code points, in ascending order. -/

namespace TaggedCatalog.Text

/-- Inclusive ranges of code points. -/
abbrev CodeRanges := List (Nat × Nat)

namespace CodeRanges

/-- Membership of a code point: some range holds it. -/
def containsCode (ranges : CodeRanges) (code : Nat) : Bool :=
  ranges.any fun range => range.1 ≤ code && code ≤ range.2

def contains (ranges : CodeRanges) (c : Char) : Bool :=
  ranges.containsCode c.toNat

/-- Every range is non-empty and ends before the next one starts. -/
def Ascending : CodeRanges → Prop
  | [] => True
  | [range] => range.1 ≤ range.2
  | first :: second :: rest =>
      first.1 ≤ first.2 ∧ first.2 < second.1 ∧ Ascending (second :: rest)

instance decidableAscending : (ranges : CodeRanges) → Decidable (Ascending ranges)
  | [] => .isTrue trivial
  | [range] => inferInstanceAs (Decidable (range.1 ≤ range.2))
  | first :: second :: rest =>
      have := decidableAscending (second :: rest)
      inferInstanceAs (Decidable
        (first.1 ≤ first.2 ∧ first.2 < second.1 ∧ Ascending (second :: rest)))

example : containsCode [(3, 5), (9, 9)] 4 = true := rfl
example : containsCode [(3, 5), (9, 9)] 6 = false := rfl

end CodeRanges

end TaggedCatalog.Text
