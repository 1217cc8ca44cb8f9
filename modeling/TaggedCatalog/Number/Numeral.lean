import TaggedCatalog.Text.Blank
import TaggedCatalog.Text.Digit
import TaggedCatalog.Text.Quoted

/-! # Numerals

A numeral is a sign, which may be missing, and decimal digits of any script, with
single underscores between them and blanks around it. It has at most 4300 digits. -/

namespace TaggedCatalog

/-- Why a text is no numeral. -/
inductive NumeralProblem where
  | invalid (text : String)
  | tooLong (digits : Nat)
deriving DecidableEq, Repr

namespace NumeralProblem

/-- Of a long text only the start is quoted. -/
def message : NumeralProblem → String
  | invalid text =>
      "invalid literal for int() with base 10: " ++
        String.ofList ((Text.quoted text).toList.take 200)
  | tooLong digits =>
      "Exceeds the limit (4300 digits) for integer string conversion: value has " ++
        toString digits ++ " digits; use sys.set_int_max_str_digits() to increase the limit"

end NumeralProblem

namespace Numeral

def digitLimit : Nat := 4300

/-- The blanks that may stand around a numeral: the information separators are not
among them. -/
def isOuterBlank (c : Char) : Bool := Text.isBlank c && !(0x1c ≤ c.toNat && c.toNat ≤ 0x1f)

def stripOuter (text : List Char) : List Char :=
  ((text.dropWhile isOuterBlank).reverse.dropWhile isOuterBlank).reverse

/-- The digits at the start, with single underscores between them, and the rest. -/
def leadingDigits : List Char → List Nat × List Char
  | [] => ([], [])
  | c :: '_' :: rest =>
      match Text.decimalValue? c with
      | none => ([], c :: '_' :: rest)
      | some digit =>
          match leadingDigits rest with
          | ([], _) => ([digit], '_' :: rest)
          | (digits, behind) => (digit :: digits, behind)
  | c :: rest =>
      match Text.decimalValue? c with
      | none => ([], c :: rest)
      | some digit =>
          let (digits, behind) := leadingDigits rest
          (digit :: digits, behind)

def valueOf (digits : List Nat) : Nat := digits.foldl (fun total digit => total * 10 + digit) 0

/-- The number that a text stands for. -/
def read (text : String) : Except NumeralProblem Int :=
  let body := stripOuter text.toList
  let (negative, body) :=
    match body with
    | '-' :: rest => (true, rest)
    | '+' :: rest => (false, rest)
    | _ => (false, body)
  let (digits, rest) := leadingDigits body
  if rest.head? = some '_' then .error (.invalid text)
  else if digits.length > digitLimit then .error (.tooLong digits.length)
  else if digits.isEmpty || !rest.isEmpty then .error (.invalid text)
  else
    let value : Int := valueOf digits
    .ok (if negative then -value else value)

end Numeral

end TaggedCatalog
