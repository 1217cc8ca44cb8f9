import TaggedCatalog.PathName
import TaggedCatalog.Text.Quoted

/-! # File trees

The files that a run can see, by their absolute names. A directory exists when
it is listed or when something lies below it. A path is followed name by name,
so that every name before the last has to be a directory; a double dot leads to
the directory above. -/

namespace TaggedCatalog

/-- A file: its bytes, and whether they may be read and be replaced. -/
structure FileContent where
  bytes : List UInt8
  readable : Bool := true
  writable : Bool := true
deriving DecidableEq, Repr

/-- What a file is once bytes have been written to it. A file that was not there may be
read and be replaced; any other stays what it was. -/
def FileContent.holding (bytes : List UInt8) : Option FileContent → FileContent
  | some file => { file with bytes }
  | none => { bytes }

/-- A place in a tree: the names from the root down. -/
abbrev Location := List String

structure FileTree where
  workingDirectory : Location
  files : List (Location × FileContent)
  directories : List Location
  /-- Directories in which no file can be made. -/
  closedDirectories : List Location := []
deriving DecidableEq, Repr

/-- Why a path cannot be read or written. -/
inductive AccessProblem where
  | missing
  | isDirectory
  | notDirectory
  | forbidden
  /-- The path holds a character that no name can have. -/
  | nullCharacter
deriving DecidableEq, Repr

namespace AccessProblem

/-- The message of the problem, with the path as it was given. -/
def message (problem : AccessProblem) (path : String) : String :=
  match problem with
  | missing => "[Errno 2] No such file or directory: " ++ Text.quoted path
  | isDirectory => "[Errno 21] Is a directory: " ++ Text.quoted path
  | notDirectory => "[Errno 20] Not a directory: " ++ Text.quoted path
  | forbidden => "[Errno 13] Permission denied: " ++ Text.quoted path
  | nullCharacter => "embedded null byte"

end AccessProblem

namespace FileTree

def file? (tree : FileTree) (location : Location) : Option FileContent :=
  (tree.files.find? fun file => file.1 == location).map (·.2)

/-- Whether something lies strictly below a location. -/
def holdsBelow (tree : FileTree) (location : Location) : Bool :=
  tree.files.any fun file => location.isPrefixOf file.1 && location != file.1

def isDirectoryAt (tree : FileTree) (location : Location) : Bool :=
  location.isEmpty || location.isPrefixOf tree.workingDirectory ||
    tree.directories.any (location.isPrefixOf ·) || tree.holdsBelow location

/-- Follows names from a directory. The last name may be a file or missing. -/
def follow (tree : FileTree) (location : Location) : List String → Except AccessProblem Location
  | [] => .ok location
  | name :: rest =>
      let next := if name = ".." then location.dropLast else location ++ [name]
      if tree.isDirectoryAt next then tree.follow next rest
      else if rest.isEmpty then .ok next
      else if (tree.file? next).isSome then .error .notDirectory
      else .error .missing

/-- The character that ends a name for the system and so cannot stand in one. -/
def nullCharacter : Char := '\x00'

/-- The place that a path leads to. -/
def locate (tree : FileTree) (path : PathName) : Except AccessProblem Location :=
  if path.names.any (·.toList.contains nullCharacter) then .error .nullCharacter
  else
    match path.root with
    | .relative => tree.follow tree.workingDirectory path.names
    | _ => tree.follow [] path.names

/-- The file that a path leads to. -/
def fileAt? (tree : FileTree) (path : PathName) : Option FileContent :=
  match tree.locate path with
  | .ok location => if tree.isDirectoryAt location then none else tree.file? location
  | .error _ => none

/-- The directory that a path leads to. -/
def directoryAt? (tree : FileTree) (path : PathName) : Option Location :=
  match tree.locate path with
  | .ok location => if tree.isDirectoryAt location then some location else none
  | .error _ => none

def isFile (tree : FileTree) (path : PathName) : Bool := (tree.fileAt? path).isSome

/-- The bytes of the file that a path leads to. -/
def read (tree : FileTree) (path : PathName) : Except AccessProblem (List UInt8) :=
  match tree.locate path with
  | .error problem => .error problem
  | .ok location =>
      if tree.isDirectoryAt location then .error .isDirectory
      else
        match tree.file? location with
        | none => .error .missing
        | some file => if file.readable then .ok file.bytes else .error .forbidden

/-- The names below a directory, relative to it, of all files at any depth. -/
def namesBelow (tree : FileTree) (directory : Location) : List (List String) :=
  tree.files.filterMap fun file =>
    if directory.isPrefixOf file.1 && directory != file.1
    then some (file.1.drop directory.length) else none

/-- Puts a file at a location, in place of the one that was there. -/
def put (tree : FileTree) (location : Location) (file : FileContent) : FileTree :=
  { tree with
    files := tree.files.filter (fun other => other.1 != location) ++ [(location, file)] }

/-- Whether a place that is no directory may be written to. -/
def mayWriteAt (tree : FileTree) (location : Location) : Bool :=
  match tree.file? location with
  | some file => file.writable
  | none => !tree.closedDirectories.contains location.dropLast

/-- Writes a file where a path leads to. -/
def write (tree : FileTree) (path : PathName) (bytes : List UInt8) :
    Except AccessProblem FileTree :=
  match tree.locate path with
  | .error problem => .error problem
  | .ok location =>
      if tree.isDirectoryAt location then .error .isDirectory
      else if tree.mayWriteAt location then
        .ok (tree.put location (.holding bytes (tree.file? location)))
      else .error .forbidden

/-! ## Paths as they are given

A path that has not been taken apart may end in a slash or in a single dot, and
then leads to a directory or to nothing. -/

inductive PathKind where
  | absent
  | file
  | directory
deriving DecidableEq, Repr

/-- Whether a path asks for a directory by its last piece. -/
def asksForDirectory (path : String) : Bool :=
  match (Text.splitOnChar '/' path.toList).getLast? with
  | some piece => !PathName.isName piece
  | none => true

/-- What a path leads to. -/
def kindAt (tree : FileTree) (path : String) : PathKind :=
  let name := PathName.ofText path
  if path.isEmpty then .absent
  else if (tree.directoryAt? name).isSome then .directory
  else if tree.isFile name && !asksForDirectory path then .file
  else .absent

/-- Writes a file where a path leads to, as it is given. -/
def writeAt (tree : FileTree) (path : String) (bytes : List UInt8) :
    Except AccessProblem FileTree :=
  let name := PathName.ofText path
  if asksForDirectory path then
    match tree.locate name with
    | .error problem => .error problem
    | .ok location =>
        if tree.isDirectoryAt location then .error .isDirectory
        else if (tree.file? location).isSome then .error .notDirectory
        else if path.toList.getLast? = some '/' then .error .isDirectory
        else .error .missing
  else tree.write name bytes

/-- The tree without the files at the given locations. The directories that they lay in
stay. -/
def delete (tree : FileTree) (doomed : Location → Bool) : FileTree :=
  { tree with
    files := tree.files.filter fun file => !doomed file.1
    directories := tree.directories ++
      (tree.files.filter fun file => doomed file.1).map fun file => file.1.dropLast }

end FileTree

end TaggedCatalog
