import TaggedCatalog.Text.Lines
import TaggedCatalog.Text.Quoted

/-! # Taking arguments apart

Options start with a dash: one dash and letters that may be joined, or two dashes
and a word, with a value behind an equals sign or in the next argument. Two dashes
alone end the options. -/

namespace TaggedCatalog

/-- An option that a command knows. -/
structure OptionRule (κ : Type) where
  key : κ
  word : String
  letter : Option Char := none
  takesValue : Bool := true

inductive ArgumentProblem where
  | noSuchOption (name : String)
  | valueMissing (name : String)
  | valueNotTaken (name : String)
deriving DecidableEq, Repr

namespace ArgumentProblem

def message : ArgumentProblem → String
  | noSuchOption name => "No such option " ++ Text.quoted name ++ "."
  | valueMissing name => "Option " ++ Text.quoted name ++ " requires an argument."
  | valueNotTaken name => "Option " ++ Text.quoted name ++ " does not take a value."

end ArgumentProblem

/-- Options in the order in which they were given, each with its value if it takes
one, and all other arguments. -/
structure Arguments (κ : Type) where
  options : List (κ × String) := []
  others : List String := []

namespace Arguments

variable {κ : Type}

/-- An option's value, which is the next argument. -/
def takeValue (name : String) (key : κ) :
    List String → Except ArgumentProblem (List (κ × String) × List String)
  | [] => .error (.valueMissing name)
  | value :: rest => .ok ([(key, value)], rest)

/-- Letters behind one dash. The first one that takes a value has what is left of
the word, or else the next argument. -/
def takeLetters (rules : List (OptionRule κ)) :
    List Char → List String → Except ArgumentProblem (List (κ × String) × List String)
  | [], rest => .ok ([], rest)
  | letter :: letters, rest =>
      let name := String.ofList ['-', letter]
      match rules.find? fun rule => rule.letter == some letter with
      | none => .error (.noSuchOption name)
      | some rule =>
          if rule.takesValue then
            if letters.isEmpty then takeValue name rule.key rest
            else .ok ([(rule.key, String.ofList letters)], rest)
          else
            (takeLetters rules letters rest).map fun taken =>
              ((rule.key, "") :: taken.1, taken.2)

/-- A word behind two dashes. -/
def takeWord (rules : List (OptionRule κ)) (argument : String) (rest : List String) :
    Except ArgumentProblem (List (κ × String) × List String) :=
  let name := String.ofList (argument.toList.takeWhile (· != '='))
  let attached := argument.toList.dropWhile (· != '=')
  match rules.find? fun rule => rule.word == name with
  | none => .error (.noSuchOption name)
  | some rule =>
      if rule.takesValue then
        match attached with
        | [] => takeValue name rule.key rest
        | _ :: value => .ok ([(rule.key, String.ofList value)], rest)
      else if attached.isEmpty then .ok ([(rule.key, "")], rest)
      else .error (.valueNotTaken name)

/-- Takes arguments apart. If options may not follow other arguments, the first of
those ends the options. -/
def takeWithin (rules : List (OptionRule κ)) (mixed : Bool) :
    Nat → List String → Except ArgumentProblem (Arguments κ)
  | 0, arguments => .ok { others := arguments }
  | _ + 1, [] => .ok {}
  | fuel + 1, argument :: rest =>
      if argument = "--" then .ok { others := rest }
      else
        match argument.toList with
        | '-' :: '-' :: _ => do
            let (options, rest) ← takeWord rules argument rest
            let further ← takeWithin rules mixed fuel rest
            return { further with options := options ++ further.options }
        | '-' :: letter :: letters => do
            let (options, rest) ← takeLetters rules (letter :: letters) rest
            let further ← takeWithin rules mixed fuel rest
            return { further with options := options ++ further.options }
        | _ =>
            if mixed then do
              let further ← takeWithin rules mixed fuel rest
              return { further with others := argument :: further.others }
            else .ok { others := argument :: rest }

def take (rules : List (OptionRule κ)) (mixed : Bool) (arguments : List String) :
    Except ArgumentProblem (Arguments κ) :=
  takeWithin rules mixed (arguments.length + 1) arguments

variable [BEq κ]

/-- All values of an option. -/
def values (arguments : Arguments κ) (key : κ) : List String :=
  (arguments.options.filter fun option => option.1 == key).map (·.2)

/-- The last value of an option. -/
def last? (arguments : Arguments κ) (key : κ) : Option String := (arguments.values key).getLast?

def has (arguments : Arguments κ) (key : κ) : Bool := !(arguments.values key).isEmpty

def count (arguments : Arguments κ) (key : κ) : Nat := (arguments.values key).length

end Arguments

end TaggedCatalog
