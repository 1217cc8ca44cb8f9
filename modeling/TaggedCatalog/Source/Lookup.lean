/-! # What is looked up elsewhere

A source file may refer to two things that are no part of the language: characters by
their names, and encodings other than the three that every reader knows. -/

namespace TaggedCatalog.Source

/-- How bytes become a text, if they are well formed. -/
abbrev Decoder := List UInt8 → Option String

structure Lookup where
  /-- The character of a name. -/
  character? : String → Option Char
  /-- The decoder of an encoding, by the name that a file gives for it. -/
  decoder? : String → Option Decoder

/-- No names and no further encodings. -/
def Lookup.empty : Lookup where
  character? _ := none
  decoder? _ := none

end TaggedCatalog.Source
