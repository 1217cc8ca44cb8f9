/-! # Log records

Pure code does not write to a log: it returns the records it would write, oldest
first. -/

namespace TaggedCatalog

/-- How serious a record is. -/
inductive Severity where
  | trace
  | debug
  | info
  | warning
  | error
deriving DecidableEq, Repr

namespace Severity

def name : Severity → String
  | trace => "TRACE"
  | debug => "DEBUG"
  | info => "INFO"
  | warning => "WARNING"
  | error => "ERROR"

/-- The level at which a record counts. -/
def level : Severity → Int
  | trace => 5
  | debug => 10
  | info => 20
  | warning => 30
  | error => 40

end Severity

structure Record where
  severity : Severity
  message : String
deriving DecidableEq, Repr

/-- A value and the records written while it was computed. -/
structure Logged (α : Type) where
  value : α
  records : List Record
deriving Repr

namespace Logged

def pure {α : Type} (value : α) : Logged α := ⟨value, []⟩

def andThen {α β : Type} (first : Logged α) (next : α → Logged β) : Logged β :=
  let second := next first.value
  ⟨second.value, first.records ++ second.records⟩

instance : Monad Logged where
  pure := pure
  bind := andThen

/-- Writes one record. -/
def write (severity : Severity) (message : String) : Logged Unit :=
  ⟨(), [⟨severity, message⟩]⟩

@[simp] theorem value_pure {α : Type} (value : α) : (Pure.pure value : Logged α).value = value :=
  rfl

@[simp] theorem value_bind {α β : Type} (first : Logged α) (next : α → Logged β) :
    (first >>= next).value = (next first.value).value := rfl

end Logged

end TaggedCatalog
