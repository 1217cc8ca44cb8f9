import TaggedCatalog.Toml.Notation

/-! # TOML documents

A document is a list of lines: headers that open a table, keys with their values,
comments and nothing. -/

namespace TaggedCatalog.Toml

/-- A document that has been read so far: its draft, and the path of the table
that is open. -/
structure Progress where
  draft : Draft := []
  openTable : List String := []

namespace Read

def header (progress : Progress) : Read Progress := do
  if ← accept ['['] then
    let path ← dottedKey
    expect ']'
    expect ']'
    endOfLine
    return { draft := ← lift (progress.draft.atLastKey Draft.addTable path), openTable := path }
  else
    let path ← dottedKey
    expect ']'
    endOfLine
    return { draft := ← lift (progress.draft.atLastKey Draft.defineTable path), openTable := path }

def assignment (progress : Progress) : Read Progress := do
  let path ← dottedKey
  expect '='
  skipBlanks
  let value ← value
  endOfLine
  let draft ← lift (progress.draft.within (Draft.assign value path) progress.openTable)
  return { progress with draft }

def line (progress : Progress) : Read Progress := do
  skipBlanks
  match ← peek with
  | none => return progress
  | some '\n' => skip; return progress
  | some '#' => endOfLine; return progress
  | some '[' => skip; header progress
  | some _ => assignment progress

def linesWithin : Nat → Progress → Read Progress
  | 0, _ => fail
  | fuel + 1, progress => do
      match ← peek with
      | none => return progress
      | some _ => linesWithin fuel (← line progress)

end Read

/-- The table that a document describes, if it is well formed. -/
def read (text : String) : Option Table :=
  (Read.linesWithin (text.length + 1) {} text.toList).map fun result =>
    Draft.finish result.1.draft

end TaggedCatalog.Toml
