import TaggedCatalog.CommandLine.Run
import TaggedCatalog.Discovery.Exclusion
import TaggedCatalog.Toml.Document

/-! # The program

Takes a picture of the files, runs the program on it, and carries the outcome over
to the file system and the standard streams. Modules cannot be imported from here,
so the library of modules is empty; nor are there characters by name or encodings to be
looked up. -/

namespace TaggedCatalog.Program

/-- The names of a path from the root down. -/
def locationOf (path : String) : Location := (PathName.ofText path).names

def textOf (location : Location) : String := (PathName.mk .single location).text

/-- All files and directories below a directory. What cannot be read is kept
without its bytes. -/
partial def snapshotBelow (tree : FileTree) (directory : Location) : IO FileTree := do
  let mut tree := { tree with directories := directory :: tree.directories }
  for entry in ← (← IO.FS.realPath (textOf directory)).readDir do
    let location := directory ++ [entry.fileName]
    if ← entry.path.isDir then
      tree ← snapshotBelow tree location
    else
      let content ←
        try
          let bytes ← IO.FS.readBinFile entry.path
          pure { bytes := bytes.toList, readable := true : FileContent }
        catch _ => pure { bytes := [], readable := false : FileContent }
      tree := tree.put location content
  return tree

/-- The files below the working directory and below every path among the arguments. -/
def snapshot (workingDirectory : Location) (arguments : List String) : IO FileTree := do
  let mut tree ← snapshotBelow { workingDirectory, files := [], directories := [] } workingDirectory
  for argument in arguments do
    let path := (PathName.mk .single workingDirectory).joinText argument
    try
      let found ← IO.FS.realPath path.text
      let location := locationOf found.toString
      if workingDirectory.isPrefixOf location then pure ()
      else if ← found.isDir then tree ← snapshotBelow tree location
      else
        let bytes ← IO.FS.readBinFile found
        tree := tree.put location { bytes := bytes.toList }
    catch _ => pure ()
  return tree

/-- Writes the files that differ from what they were. -/
def carryOver (before after : FileTree) : IO Unit := do
  for (location, content) in after.files do
    if before.file? location ≠ some content then
      IO.FS.writeBinFile (textOf location) (ByteArray.mk content.bytes.toArray)

end TaggedCatalog.Program

open TaggedCatalog in
def main (arguments : List String) : IO UInt32 := do
  let workingDirectory := Program.locationOf (← IO.currentDir).toString
  let tree ← Program.snapshot workingDirectory arguments
  let surroundings : Surroundings :=
    { tree
      environment :=
        { forceColor := ← IO.getEnv "FORCE_COLOR"
          noColor := ← IO.getEnv "NO_COLOR"
          logLevel := ← IO.getEnv "CMDCATALOG_LOG_LEVEL" }
      isTerminal := ← (← IO.getStdout).isTty
      reader := Toml.read
      compile := Exclusion.compile
      lookup := .empty }
  let outcome := CommandLine.run surroundings arguments
  Program.carryOver tree outcome.tree
  (← IO.getStdout).putStr outcome.written.out
  (← IO.getStderr).putStr outcome.written.err
  return UInt32.ofNat outcome.exitCode
