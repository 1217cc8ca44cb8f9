/-! # When to use colour

An explicit choice wins. Otherwise one variable asks for colour and another one
forbids it, and at last the terminal decides. -/

namespace TaggedCatalog

inductive ColorMode where
  | auto
  | always
  | never
deriving DecidableEq, Repr

namespace ColorMode

def name : ColorMode → String
  | auto => "auto"
  | always => "always"
  | never => "never"

def all : List ColorMode := [auto, always, never]

def ofName? (text : String) : Option ColorMode := all.find? fun mode => mode.name == text

/-- Whether a variable asks for colour: it is set, and neither empty nor zero. -/
def forces : Option String → Bool
  | none => false
  | some value => value != "" && value != "0"

/-- Whether output is coloured, by the mode, the variable that asks for colour, the
one that forbids it, and whether the output is a terminal. -/
def resolve (mode : ColorMode) (forceColor noColor : Option String) (isTerminal : Bool) : Bool :=
  match mode with
  | always => true
  | never => false
  | auto => if forces forceColor then true else if noColor.isSome then false else isTerminal

example (mode : ColorMode) : ofName? mode.name = some mode := by cases mode <;> decide

end ColorMode

end TaggedCatalog
