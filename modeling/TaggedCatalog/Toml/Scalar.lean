import TaggedCatalog.Toml.Value

/-! # Numbers, days and times

A bare word is a number, a day, a time or both. Underscores may stand between
digits. -/

namespace TaggedCatalog.Toml.Scalar

def digitValue? (base : Nat) (c : Char) : Option Nat :=
  let value? :=
    if c.isDigit then some (c.toNat - '0'.toNat)
    else if 'a' ≤ c ∧ c ≤ 'f' then some (c.toNat - 'a'.toNat + 10)
    else if 'A' ≤ c ∧ c ≤ 'F' then some (c.toNat - 'A'.toNat + 10)
    else none
  value?.bind fun value => if value < base then some value else none

/-- The number that digits stand for; there has to be one at least. -/
def natural? (base : Nat) (digits : List Char) : Option Nat :=
  if digits.isEmpty then none
  else
    digits.foldl
      (fun total? digit =>
        match total?, digitValue? base digit with
        | some total, some value => some (total * base + value)
        | _, _ => none)
      (some 0)

/-- Drops the underscores between digits. Another underscore is not allowed. -/
def withoutUnderscores (base : Nat) : Option Char → List Char → Option (List Char)
  | _, [] => some []
  | before, '_' :: rest =>
      let isDigit := fun c? => ((c? : Option Char).bind (digitValue? base)).isSome
      if isDigit before && isDigit rest.head? then withoutUnderscores base none rest else none
  | _, c :: rest => (withoutUnderscores base (some c) rest).map (c :: ·)

def signed (negative : Bool) (value : Nat) : Int := if negative then -(value : Int) else value

/-- An optional sign and what follows it. -/
def splitSign : List Char → Option Bool × List Char
  | '+' :: rest => (some false, rest)
  | '-' :: rest => (some true, rest)
  | word => (none, word)

/-- Digits, a fraction and an exponent, of which one of the last two is there. -/
def decimal? (negative : Bool) (word : List Char) : Option Double := do
  let whole := word.takeWhile Char.isDigit
  let rest := word.dropWhile Char.isDigit
  let (places, rest) ←
    match rest with
    | '.' :: rest =>
        let places := rest.takeWhile Char.isDigit
        if places.isEmpty then none else some (places, rest.dropWhile Char.isDigit)
    | _ => some ([], rest)
  let exponent ←
    match rest with
    | [] => some 0
    | mark :: rest =>
        if mark = 'e' ∨ mark = 'E' then
          let (sign, digits) := splitSign rest
          (natural? 10 digits).map (signed (sign.getD false))
        else none
  let digits ← natural? 10 (whole ++ places)
  if whole.isEmpty then none
  else some (Double.ofDecimal negative digits (exponent - places.length))

/-- Numbers other than decimal ones are written without a sign. -/
def base? : List Char → Option (Nat × List Char)
  | '0' :: 'x' :: digits => some (16, digits)
  | '0' :: 'o' :: digits => some (8, digits)
  | '0' :: 'b' :: digits => some (2, digits)
  | _ => none

/-- A decimal number starts with a zero only if it is less than one; an exponent
right behind that zero has a small letter. -/
def hasIdleZero : List Char → Bool
  | ['0'] => false
  | '0' :: c :: _ => !(c == '.' || c == 'e')
  | _ => false

/-- A number that is not finite. Behind a sign its name may be spelled out. -/
def special? (sign : Option Bool) (word : List Char) : Option Double :=
  let name := if sign.isSome then word.map Char.toLower else word
  if name = "nan".toList then some .undefined
  else if name = "inf".toList ∨ (sign.isSome ∧ name = "infinity".toList) then
    some (.infinite (sign.getD false))
  else none

def number? (word : List Char) : Option Value :=
  let (sign, body) := splitSign word
  let negative := sign.getD false
  match special? sign body with
  | some value => some (.float value)
  | none =>
      match base? body with
      | some (base, digits) => do
          if sign.isSome then none
          let digits ← withoutUnderscores base none digits
          return .integer (← natural? base digits)
      | none => do
          if hasIdleZero body then none
          let plain ← withoutUnderscores 10 none body
          match natural? 10 plain with
          | some value => return .integer (signed negative value)
          | none => return .float (← decimal? negative plain)

/-- Exactly so many digits. -/
def fixed? (width : Nat) (digits : List Char) : Option Nat :=
  if digits.length = width then natural? 10 digits else none

def date? (word : List Char) : Option Date :=
  match word with
  | [a, b, c, d, '-', e, f, '-', g, h] => do
      let date : Date :=
        { year := ← fixed? 4 [a, b, c, d]
          month := ← fixed? 2 [e, f]
          day := ← fixed? 2 [g, h] }
      if date.isValid then some date else none
  | _ => none

/-- The first six digits of a fraction of a second. -/
def microseconds? (digits : List Char) : Option Nat :=
  (natural? 10 digits).bind fun _ =>
    natural? 10 ((digits ++ List.replicate 6 '0').take 6)

/-- A time at the start of a word, and what follows it. -/
def timeWithRest? (word : List Char) : Option (Time × List Char) :=
  match word with
  | a :: b :: ':' :: c :: d :: ':' :: e :: f :: rest => do
      let time : Time :=
        { hour := ← fixed? 2 [a, b]
          minute := ← fixed? 2 [c, d]
          second := ← fixed? 2 [e, f] }
      if !time.isValid then none
      match rest with
      | '.' :: rest =>
          let microsecond ← microseconds? (rest.takeWhile Char.isDigit)
          some ({ time with microsecond }, rest.dropWhile Char.isDigit)
      | _ => some (time, rest)
  | _ => none

def time? (word : List Char) : Option Time :=
  match timeWithRest? word with
  | some (time, []) => some time
  | _ => none

/-- The distance from Greenwich behind a time, which may be missing. -/
def offset? : List Char → Option (Option Int)
  | [] => some none
  | ['Z'] => some (some 0)
  | ['z'] => some (some 0)
  | [sign, a, b, ':', c, d] => do
      let hours ← fixed? 2 [a, b]
      let minutes ← fixed? 2 [c, d]
      if hours ≥ 24 ∨ minutes ≥ 60 then none
      else if sign = '+' then some (some (hours * 60 + minutes : Nat))
      else if sign = '-' then some (some (-(hours * 60 + minutes : Nat)))
      else none
  | _ => none

/-- A day and a time with one of three characters between them. -/
def dateTime? (word : List Char) : Option Value := do
  let day ← date? (word.take 10)
  match word.drop 10 with
  | separator :: rest =>
      if separator = 'T' ∨ separator = 't' ∨ separator = ' ' then
        let (clock, rest) ← timeWithRest? rest
        return .dateTime day clock (← offset? rest)
      else none
  | [] => none

/-- The value of a bare word. -/
def ofWord? (word : List Char) : Option Value :=
  if (word.head?.map Char.isDigit).getD false then
    ((date? word).map .date).or <| ((time? word).map .time).or <| (dateTime? word).or (number? word)
  else number? word

end TaggedCatalog.Toml.Scalar
