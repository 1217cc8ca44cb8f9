import TaggedCatalog.Discovery.ClassWalk
import TaggedCatalog.ModuleName
import TaggedCatalog.Source.Module

/-! # Scanning source files

A root is a file or a directory. Below a directory every file with the right
ending is read, in the order of the paths, unless it is excluded; a root that is
a file is always read. -/

namespace TaggedCatalog

/-- What to scan, and how. -/
structure FileScan where
  roots : List PathName
  marker : String := "command"
  /-- What is looked up for what the files refer to. -/
  lookup : Source.Lookup
  /-- Whether a file is left out, by its path below the root. -/
  isExcluded : String → Bool := fun _ => false

namespace FileScan

/-- The ending of the files that are read below a directory. -/
def sourceEnding : String := ".py"

/-- The files below a directory that count, as paths below it, in order. -/
def filesBelow (tree : FileTree) (directory : Location) : List PathName :=
  (((tree.namesBelow directory).map fun names => PathName.mk .relative names).filter
    fun path => path.nameEndsWith sourceEnding).mergeSort PathName.precedes

/-- The declarations of one file, named after its path below the root. -/
def scanFile (scan : FileScan) (tree : FileTree) (path below : PathName) : SourceOutcome :=
  let name := (ModuleName.ofPath? below).getD ⟨"", ""⟩
  let place : ClassWalk.Place :=
    { path, packageName := name.package, marker := scan.marker }
  let classes :=
    match tree.read path with
    | .error problem => .fail (.unreadable path problem)
    | .ok bytes =>
        match Source.readModule scan.lookup bytes with
        | none => .fail (.unparsable path)
        | some body => ClassWalk.walkBody place (ClassWalk.moduleScope name.name) body
  (SourceOutcome.log .trace
    ("Scanning " ++ path.text ++ " (module " ++ name.name ++ ")")).andThen classes

/-- A file below a directory root, unless it is excluded. -/
def scanBelow (scan : FileScan) (tree : FileTree) (root below : PathName) : SourceOutcome :=
  let path := root.join below
  if scan.isExcluded below.text then .log .trace ("Excluded by pattern: " ++ path.text)
  else scan.scanFile tree path below

def scanRoot (scan : FileScan) (tree : FileTree) (root : PathName) : SourceOutcome :=
  match tree.directoryAt? root with
  | some directory =>
      let files := filesBelow tree directory
      (SourceOutcome.log .debug
        ("Found " ++ toString files.length ++ " Python file(s) below " ++ root.text)).andThen
        (.sequence (files.map (scan.scanBelow tree root)))
  | none =>
      if tree.isFile root then
        scan.scanFile tree root ⟨.relative, root.fileName?.toList⟩
      else .fail (.rootMissing root)

/-- Everything that the roots declare, root by root. -/
def run (scan : FileScan) (tree : FileTree) : SourceOutcome :=
  .sequence (scan.roots.map (scan.scanRoot tree))

end FileScan

end TaggedCatalog
