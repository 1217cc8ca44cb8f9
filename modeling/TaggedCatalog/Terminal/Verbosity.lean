import TaggedCatalog.Number.Numeral
import TaggedCatalog.Toml.Value

/-! # Verbosity

A positive level asks for more messages, a negative one for fewer. -/

namespace TaggedCatalog.Verbosity

/-- The level of so many requests for more and for fewer messages; asking for both
is a conflict. -/
def resolve? (more fewer : Int) : Option Int :=
  if more ≠ 0 ∧ fewer ≠ 0 then none else if more ≠ 0 then some more else some (-fewer)

/-- Why a stored level is none. -/
inductive LevelProblem where
  | numeral (problem : NumeralProblem)
  /-- The word names what was stored. -/
  | notNumber (kind : String)
  | infinite
  | undefined
deriving DecidableEq, Repr

namespace LevelProblem

def message : LevelProblem → String
  | numeral problem => problem.message
  | notNumber kind =>
      "int() argument must be a string, a bytes-like object or a real number, not '" ++ kind ++ "'"
  | infinite => "cannot convert float infinity to integer"
  | undefined => "cannot convert float NaN to integer"

end LevelProblem

/-- A stored value as a level. -/
def ofValue : Toml.Value → Except LevelProblem Int
  | .integer value => .ok value
  | .boolean value => .ok (if value then 1 else 0)
  | .text value => (Numeral.read value).mapError .numeral
  | .float value =>
      match value.truncate? with
      | some whole => .ok whole
      | none =>
          match value with
          | .undefined => .error .undefined
          | _ => .error .infinite
  | .nothing => .error (.notNumber "NoneType")
  | .list _ => .error (.notNumber "list")
  | .table _ => .error (.notNumber "dict")
  | .date _ => .error (.notNumber "datetime.date")
  | .time _ => .error (.notNumber "datetime.time")
  | .dateTime _ _ _ => .error (.notNumber "datetime.datetime")

/-- The level stored in a context, which may be of any shape. -/
def stored (context : Toml.Value) : Except LevelProblem Int :=
  match context.table?.bind fun entries => entries.get? "verbosity_level" with
  | some value => ofValue value
  | none => .ok 0

/-- The settings decide if they name a level other than zero, then the context. -/
def effective (settings : Option Int) (context : Toml.Value) : Except LevelProblem Int :=
  match settings with
  | some level => if level = 0 then stored context else .ok level
  | none => stored context

end TaggedCatalog.Verbosity
