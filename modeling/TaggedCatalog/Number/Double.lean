import TaggedCatalog.Text.Padding

/-! # Double precision numbers

A finite number is a mantissa of at most 53 bits times a power of two, never a
smaller power than `2 ^ (-1074)`. A decimal is read as the nearest such number, and
a number is written with the fewest digits that read back as it. -/

namespace TaggedCatalog

inductive Double where
  | finite (negative : Bool) (mantissa : Nat) (exponent : Int)
  | infinite (negative : Bool)
  | undefined
deriving DecidableEq, Repr

namespace Double

def powerOfTwo (exponent : Nat) : Nat := Nat.pow 2 exponent

def powerOfTen (exponent : Nat) : Nat := Nat.pow 10 exponent

/-- A quotient rounded to the nearest number, a half to the even neighbour. -/
def roundedQuotient (numerator denominator : Nat) : Nat :=
  let floor := numerator / denominator
  let twiceRest := 2 * (numerator % denominator)
  if twiceRest > denominator then floor + 1
  else if twiceRest = denominator then floor + floor % 2
  else floor

def leastExponent : Int := -1074

def greatestExponent : Int := 971

/-- The quotient as a whole number of units `2 ^ exponent`: the two sides of the
fraction that is left. -/
def inUnits (numerator denominator : Nat) (exponent : Int) : Nat × Nat :=
  if exponent ≥ 0 then (numerator, denominator * powerOfTwo exponent.toNat)
  else (numerator * powerOfTwo (-exponent).toNat, denominator)

/-- The number nearest to a quotient. -/
def nearest (negative : Bool) (numerator denominator : Nat) : Double :=
  let estimate : Int := (numerator.log2 : Int) - denominator.log2 - 53
  let atEstimate := inUnits numerator denominator estimate
  let fitting := if atEstimate.1 / atEstimate.2 ≥ powerOfTwo 53 then estimate + 1 else estimate
  let exponent := if fitting < leastExponent then leastExponent else fitting
  let fraction := inUnits numerator denominator exponent
  let mantissa := roundedQuotient fraction.1 fraction.2
  if mantissa = 0 then .finite negative 0 leastExponent
  else
    let (mantissa, exponent) :=
      if mantissa = powerOfTwo 53 then (powerOfTwo 52, exponent + 1) else (mantissa, exponent)
    if exponent > greatestExponent then .infinite negative
    else .finite negative mantissa exponent

def digitCount (digits : Nat) : Nat := (Nat.toDigits 10 digits).length

/-- The number nearest to `digits * 10 ^ exponent`. -/
def ofDecimal (negative : Bool) (digits : Nat) (exponent : Int) : Double :=
  let magnitude := exponent + digitCount digits
  if digits = 0 ∨ magnitude < -330 then .finite negative 0 leastExponent
  else if magnitude > 310 then .infinite negative
  else if exponent ≥ 0 then nearest negative (digits * powerOfTen exponent.toNat) 1
  else nearest negative digits (powerOfTen (-exponent).toNat)

/-- A finite number without its sign, as a fraction. -/
def fraction (mantissa : Nat) (exponent : Int) : Nat × Nat :=
  if exponent ≥ 0 then (mantissa * powerOfTwo exponent.toNat, 1)
  else (mantissa, powerOfTwo (-exponent).toNat)

/-- The digits of a fraction down to the place `10 ^ place`, and whether what is
left is nearer to the next digit. -/
def digitsAt (numerator denominator : Nat) (place : Int) : Nat × Bool :=
  let scaled :=
    if place ≥ 0 then (numerator, denominator * powerOfTen place.toNat)
    else (numerator * powerOfTen (-place).toNat, denominator)
  let floor := scaled.1 / scaled.2
  (floor, decide (roundedQuotient scaled.1 scaled.2 > floor))

/-- The place of the first digit of a fraction, searched downwards. -/
def leadingPlace (numerator denominator : Nat) : Nat → Int → Int
  | 0, place => place
  | fuel + 1, place =>
      if (digitsAt numerator denominator place).1 > 0 then place
      else leadingPlace numerator denominator fuel (place - 1)

/-- The fewest digits that read back as a number, searched with one digit more at
every step; of two candidates the nearer one counts. -/
def shortestFrom (mantissa : Nat) (exponent : Int) (numerator denominator : Nat) :
    Nat → Int → Nat × Int
  | 0, place => ((digitsAt numerator denominator place).1, place)
  | fuel + 1, place =>
      let (floor, roundsUp) := digitsAt numerator denominator place
      let readsBack := fun digits => ofDecimal false digits place == .finite false mantissa exponent
      let (first, second) := if roundsUp then (floor + 1, floor) else (floor, floor + 1)
      if readsBack first then (first, place)
      else if readsBack second then (second, place)
      else shortestFrom mantissa exponent numerator denominator fuel (place - 1)

/-- The digits of a number that is not zero, and the place of the last one. -/
def shortest (mantissa : Nat) (exponent : Int) : Nat × Int :=
  let (numerator, denominator) := fraction mantissa exponent
  let place := leadingPlace numerator denominator 700 310
  shortestFrom mantissa exponent numerator denominator 17 place

def dropZerosWithin : Nat → Nat → Int → Nat × Int
  | 0, digits, place => (digits, place)
  | fuel + 1, digits, place =>
      if digits % 10 = 0 ∧ digits ≠ 0 then dropZerosWithin fuel (digits / 10) (place + 1)
      else (digits, place)

/-- Digits without zeros at their end. -/
def dropZeros (digits : Nat) (place : Int) : Nat × Int :=
  dropZerosWithin (digitCount digits) digits place

/-- A number from a ten-thousandth up to below `10 ^ 16` is written out, any other
one with an exponent of two digits or more. -/
def decimalText (digits : List Char) (place : Int) : String :=
  let point : Int := place + digits.length
  if -4 < point ∧ point ≤ 16 then
    if point ≤ 0 then
      "0." ++ String.ofList (List.replicate (-point).toNat '0' ++ digits)
    else if point ≥ digits.length then
      String.ofList (digits ++ List.replicate (point.toNat - digits.length) '0') ++ ".0"
    else
      String.ofList (digits.take point.toNat) ++ "." ++ String.ofList (digits.drop point.toNat)
  else
    let exponent := point - 1
    let rest := digits.drop 1
    String.ofList (digits.take 1) ++ (if rest.isEmpty then "" else "." ++ String.ofList rest) ++
      (if exponent < 0 then "e-" else "e+") ++ Text.padded 2 exponent.natAbs

def text : Double → String
  | undefined => "nan"
  | infinite negative => if negative then "-inf" else "inf"
  | finite negative mantissa exponent =>
      let magnitude :=
        if mantissa = 0 then "0.0"
        else
          let (digits, place) := shortest mantissa exponent
          let (digits, place) := dropZeros digits place
          decimalText (Nat.toDigits 10 digits) place
      (if negative then "-" else "") ++ magnitude

/-- The whole part, if there is one. -/
def truncate? : Double → Option Int
  | finite negative mantissa exponent =>
      let (numerator, denominator) := fraction mantissa exponent
      let whole : Int := (numerator / denominator : Nat)
      some (if negative then -whole else whole)
  | _ => none

example : (ofDecimal false 1 (-1)).text = "0.1" := by decide +kernel
example : (ofDecimal true 0 0).text = "-0.0" := by decide +kernel
example : (ofDecimal false 602 (-25)).text = "6.02e-23" := by decide +kernel
example : (ofDecimal false 1 16).text = "1e+16" := by decide +kernel
example : (ofDecimal false 5 (-324)).text = "5e-324" := by decide +kernel
example : (ofDecimal false 1 (-4)).text = "0.0001" := by decide +kernel

end Double

end TaggedCatalog
