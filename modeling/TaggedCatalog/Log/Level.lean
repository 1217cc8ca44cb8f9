import TaggedCatalog.Number.Numeral
import TaggedCatalog.Text.LetterCase

/-! # Log levels

A level is a number. Some levels have names, which are read without regard to
case; a numeral of digits alone is read as itself. -/

namespace TaggedCatalog.LogLevel

def debug : Int := 10

def info : Int := 20

def warning : Int := 30

def error : Int := 40

def critical : Int := 50

def trace : Int := 5

/-- The names that can be given for a level. -/
def named : List (String × Int) :=
  [("TRACE", trace), ("DEBUG", debug), ("INFO", info), ("WARNING", warning), ("WARN", warning),
   ("ERROR", error), ("CRITICAL", critical), ("FATAL", critical), ("NOTSET", 0)]

/-- The name that a level is shown under. -/
def name (level : Int) : String :=
  let shown := named.filter fun entry => entry.1 != "WARN" && entry.1 != "FATAL"
  match shown.find? fun entry => entry.2 == level with
  | some entry => entry.1
  | none => "Level " ++ toString level

def isNumeral (text : List Char) : Bool := !text.isEmpty && text.all Text.isDigit

/-- The level that a text stands for, if it stands for one. A text of digits that
is no numeral is an error. -/
def parse (text : String) : Except NumeralProblem (Option Int) :=
  let word := Text.inCapitals (Text.stripBlanks text.toList)
  if isNumeral word then (Numeral.read (String.ofList word)).map some
  else .ok ((named.find? fun entry => entry.1 == String.ofList word).map (·.2))

/-- The level in a variable that may be unset. -/
def parseVariable : Option String → Except NumeralProblem (Option Int)
  | none => .ok none
  | some text => parse text

example : name 20 = "INFO" := by decide
example : name 21 = "Level 21" := by decide +kernel

end TaggedCatalog.LogLevel
