import TaggedCatalog.Number.Double

/-! # TOML values

What a TOML document holds. Tables keep their keys in the order in which they
first appear. -/

namespace TaggedCatalog.Toml

structure Date where
  year : Nat
  month : Nat
  day : Nat
deriving DecidableEq, Repr

structure Time where
  hour : Nat
  minute : Nat
  second : Nat
  microsecond : Nat := 0
deriving DecidableEq, Repr

inductive Value where
  | text (value : String)
  | integer (value : Int)
  | float (value : Double)
  | boolean (value : Bool)
  | date (value : Date)
  | time (value : Time)
  /-- A day and a time, with the minutes east of Greenwich if they are known. -/
  | dateTime (day : Date) (clock : Time) (offset : Option Int)
  | list (items : List Value)
  | table (entries : List (String × Value))
  /-- No value at all. No document holds it, a table made in memory may. -/
  | nothing
deriving Inhabited, Repr

abbrev Table := List (String × Value)

namespace Date

def isLeapYear (year : Nat) : Bool :=
  year % 4 == 0 && (year % 100 != 0 || year % 400 == 0)

def daysInMonth (year month : Nat) : Nat :=
  if month = 2 then if isLeapYear year then 29 else 28
  else if month ∈ [4, 6, 9, 11] then 30
  else 31

def isValid (date : Date) : Bool :=
  decide (1 ≤ date.year ∧ date.year ≤ 9999 ∧ 1 ≤ date.month ∧ date.month ≤ 12 ∧
    1 ≤ date.day ∧ date.day ≤ daysInMonth date.year date.month)

def text (date : Date) : String :=
  Text.padded 4 date.year ++ "-" ++ Text.padded 2 date.month ++ "-" ++
    Text.padded 2 date.day

end Date

namespace Time

def isValid (time : Time) : Bool :=
  decide (time.hour < 24 ∧ time.minute < 60 ∧ time.second < 60)

/-- A fraction of a second is written with six digits or not at all. -/
def text (time : Time) : String :=
  Text.padded 2 time.hour ++ ":" ++ Text.padded 2 time.minute ++ ":" ++
    Text.padded 2 time.second ++
    if time.microsecond = 0 then "" else "." ++ Text.padded 6 time.microsecond

/-- The text of a distance from Greenwich in minutes. -/
def offsetText (minutes : Int) : String :=
  (if minutes < 0 then "-" else "+") ++ Text.padded 2 (minutes.natAbs / 60) ++ ":" ++
    Text.padded 2 (minutes.natAbs % 60)

end Time

namespace Table

def get? (table : Table) (key : String) : Option Value :=
  (table.find? fun entry => entry.1 == key).map (·.2)

end Table

namespace Value

def text? : Value → Option String
  | text value => some value
  | _ => none

def table? : Value → Option Table
  | table entries => some entries
  | _ => none

/-- The items of a list that holds nothing but texts. -/
def texts? : Value → Option (List String)
  | list items => items.mapM text?
  | _ => none

end Value

end TaggedCatalog.Toml
