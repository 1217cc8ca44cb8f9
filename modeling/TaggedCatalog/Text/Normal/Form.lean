import TaggedCatalog.Text.Normal.CodeTable
import TaggedCatalog.Text.Normal.CombiningClass
import TaggedCatalog.Text.Normal.Composition
import TaggedCatalog.Text.Normal.Decomposition

/-! # The normal form of identifiers

Characters that look different may stand for the same letters. In the normal form
every character is taken apart as far as possible, marks are brought into order,
and letters and marks are composed again. -/

namespace TaggedCatalog.Text

def decompositionTable : List CodeEntry := readCodeTable decompositionLines

def combiningClassTable : List CodeEntry := readCodeTable combiningClassLines

def compositionTable : List CodeEntry := readCodeTable compositionLines

/-! Syllables of Hangul are composed by arithmetic: of a leading consonant, a vowel
and a trailing consonant that may be missing. -/

namespace Hangul

def syllableBase : Nat := 0xAC00

def leadBase : Nat := 0x1100

def vowelBase : Nat := 0x1161

/-- One below the first trailing consonant. -/
def trailBase : Nat := 0x11A7

def leadCount : Nat := 19

def vowelCount : Nat := 21

def trailCount : Nat := 28

def isSyllable (code : Nat) : Bool :=
  syllableBase ≤ code && code < syllableBase + leadCount * vowelCount * trailCount

def decompose (code : Nat) : List Nat :=
  let index := code - syllableBase
  let trail := index % trailCount
  [leadBase + index / (vowelCount * trailCount),
   vowelBase + index / trailCount % vowelCount] ++
    if trail = 0 then [] else [trailBase + trail]

def compose? (first second : Nat) : Option Nat :=
  if leadBase ≤ first ∧ first < leadBase + leadCount ∧
      vowelBase ≤ second ∧ second < vowelBase + vowelCount then
    some (syllableBase +
      ((first - leadBase) * vowelCount + (second - vowelBase)) * trailCount)
  else if isSyllable first ∧ (first - syllableBase) % trailCount = 0 ∧
      trailBase < second ∧ second < trailBase + trailCount then
    some (first + (second - trailBase))
  else none

example : decompose 0xD55C = [0x1112, 0x1161, 0x11AB] := by decide

end Hangul

/-- Takes a character apart, at most so often. -/
def decomposeWithin : Nat → Nat → List Nat
  | 0, code => [code]
  | fuel + 1, code =>
      if code < 0x80 then [code]
      else if Hangul.isSyllable code then Hangul.decompose code
      else
        match decompositionTable.find? (·.contains code) with
        | some entry => entry.targetsAt code
        | none =>
            match compositionTable.find? (·.contains code) with
            | some entry => entry.targets.flatMap (decomposeWithin fuel)
            | none => [code]

def decompose (code : Nat) : List Nat := decomposeWithin 8 code

def combiningClass (code : Nat) : Nat :=
  if code < 0x300 then 0
  else ((combiningClassTable.find? (·.contains code)).bind (·.targets.head?)).getD 0

/-- Puts a mark before marks of a higher class, the last character first. -/
def insertMark (code : Nat) : List Nat → List Nat
  | [] => [code]
  | other :: rest =>
      if combiningClass code ≠ 0 ∧ combiningClass code < combiningClass other then
        other :: insertMark code rest
      else code :: other :: rest

def orderMarks (codes : List Nat) : List Nat :=
  (codes.foldl (fun ordered code => insertMark code ordered) []).reverse

def composePair? (first second : Nat) : Option Nat :=
  (Hangul.compose? first second).or
    ((compositionTable.find? (·.targets == [first, second])).map (·.first))

/-- Composes a letter with the marks behind it. A mark that is not composed stays,
and stands in the way of marks of the same class. -/
def composeFrom (letter : Nat) (kept : List Nat) (lastClass : Nat) : List Nat → List Nat
  | [] => letter :: kept.reverse
  | code :: rest =>
      let markClass := combiningClass code
      let composed? :=
        if kept.isEmpty || lastClass < markClass then composePair? letter code else none
      match composed? with
      | some composed => composeFrom composed kept lastClass rest
      | none =>
          if markClass = 0 then letter :: kept.reverse ++ composeFrom code [] 0 rest
          else composeFrom letter (code :: kept) markClass rest

/-- The normal form of an identifier. -/
def normalForm (text : List Char) : List Char :=
  if text.all fun c => c.toNat < 0x80 then text
  else
    match orderMarks (text.flatMap fun c => decompose c.toNat) with
    | [] => []
    | first :: rest => (composeFrom first [] 0 rest).map Char.ofNat

end TaggedCatalog.Text
