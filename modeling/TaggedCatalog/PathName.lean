import TaggedCatalog.Text.Lines

/-! # Path names

A path name is a root, which is missing for a relative one, and a list of names.
Empty names and single dots vanish when a path is read; double dots stay. Two
slashes at the start, and only two, are a root of their own. -/

namespace TaggedCatalog

inductive PathRoot where
  | relative
  | single
  | double
deriving DecidableEq, Repr

structure PathName where
  root : PathRoot
  names : List String
deriving DecidableEq, Repr

namespace PathRoot

def text : PathRoot → String
  | relative => ""
  | single => "/"
  | double => "//"

/-- The root that a path starts with. -/
def ofText (path : List Char) : PathRoot :=
  match path with
  | '/' :: '/' :: '/' :: _ => single
  | '/' :: '/' :: _ => double
  | '/' :: _ => single
  | _ => relative

end PathRoot

namespace PathName

/-- Whether a piece between slashes names something. -/
def isName (piece : List Char) : Bool := piece != [] && piece != ['.']

def ofText (path : String) : PathName where
  root := PathRoot.ofText path.toList
  names := ((Text.splitOnChar '/' path.toList).filter isName).map String.ofList

def text (path : PathName) : String :=
  if path.root = .relative ∧ path.names = [] then "."
  else path.root.text ++ Text.joinStrings "/" path.names

/-- The components of a path, the root first if there is one. -/
def components (path : PathName) : List String :=
  match path.root with
  | .relative => path.names
  | root => root.text :: path.names

/-- A path seen from a directory: an absolute one stays what it is. -/
def join (base path : PathName) : PathName :=
  match path.root with
  | .relative => { base with names := base.names ++ path.names }
  | _ => path

def joinText (base : PathName) (path : String) : PathName := base.join (ofText path)

def parent (path : PathName) : PathName := { path with names := path.names.dropLast }

/-- The last name of a path; a root or the current directory has none. -/
def fileName? (path : PathName) : Option String := path.names.getLast?

def fileName (path : PathName) : String := path.fileName?.getD ""

/-- A file name less its extension: what stands before the last dot, unless the
dot is the first or the last character. -/
def stem (name : List Char) : List Char :=
  let extension := name.reverse.takeWhile (· != '.')
  let before := (name.reverse.dropWhile (· != '.')).drop 1
  if extension.isEmpty || before.isEmpty then name else before.reverse

/-- Lists of components compare at the first place where they differ. -/
def componentsPrecede : List String → List String → Bool
  | [], _ => true
  | _ :: _, [] => false
  | left :: lefts, right :: rights =>
      decide (left < right) || (left == right && componentsPrecede lefts rights)

/-- Paths compare component by component. -/
def precedes (left right : PathName) : Bool :=
  componentsPrecede left.components right.components

/-- Whether the last name ends in the given characters. -/
def nameEndsWith (path : PathName) (ending : String) : Bool :=
  ending.toList.isSuffixOf path.fileName.toList

example : (ofText "./a//b/").text = "a/b" := by decide +kernel
example : (ofText "").text = "." := by decide +kernel
example : (ofText "///a/..").text = "/a/.." := by decide +kernel
example : stem "a.b.py".toList = "a.b".toList := by decide
example : stem ".py".toList = ".py".toList := by decide
example : stem "x.".toList = "x.".toList := by decide

end PathName

end TaggedCatalog
