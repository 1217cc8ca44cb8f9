import TaggedCatalog.Log.Level
import TaggedCatalog.Log.Record

/-! # Setting up the log

The log has a level, below which nothing is written, and handlers with a pattern
each. Setting it up replaces all handlers by one. -/

namespace TaggedCatalog

structure LogState where
  level : Int
  /-- The pattern of every handler. -/
  handlers : List String
deriving DecidableEq, Repr

namespace LogState

def shortPattern : String := "[%(levelname)s] %(message)s"

/-- The pattern that also tells where a record comes from. -/
def detailedPattern : String :=
  "[%(levelname)s] [%(filename)s:%(lineno)d] [%(funcName)s] %(message)s"

def patternAt (level : Int) : String :=
  if level ≥ LogLevel.info then shortPattern else detailedPattern

/-- Takes a handler away. -/
def removeHandler (state : LogState) (pattern : String) : LogState :=
  { state with handlers := state.handlers.erase pattern }

def addHandler (state : LogState) (pattern : String) : LogState :=
  { state with handlers := state.handlers ++ [pattern] }

/-- Sets the level, takes all handlers away one by one, and adds the one that goes
with the level. -/
def configure (state : LogState) (level : Int) : LogState :=
  let leveled := { state with level }
  let bare := leveled.handlers.foldl removeHandler leveled
  bare.addHandler (patternAt level)

/-- A level of zero is no level here. -/
def orCritical : Option Int → Int
  | none => LogLevel.critical
  | some level => if level = 0 then LogLevel.critical else level

/-- Sets the log up at a level, or else at the level that the environment names. -/
def setUp (state : LogState) (level : Option Int) (named : Option String) :
    Except NumeralProblem LogState :=
  match level with
  | some level => .ok (state.configure level)
  | none => (LogLevel.parseVariable named).map fun found => state.configure (orCritical found)

/-- Sets the log up as a command does: the environment is read first, and once more
if it names no level. -/
def setUpFromEnvironment (state : LogState) (named : Option String) :
    Except NumeralProblem LogState :=
  match LogLevel.parseVariable named with
  | .error problem => .error problem
  | .ok level => state.setUp level named

/-- A request to set the log up, and the level that the environment names then. -/
structure Request where
  level : Option Int := none
  named : Option String := none
deriving DecidableEq, Repr

/-- The log after a request. One that fails changes nothing. -/
def afterRequest (state : LogState) (request : Request) : LogState :=
  match state.setUp request.level request.named with
  | .ok next => next
  | .error _ => state

def afterRequests (state : LogState) (requests : List Request) : LogState :=
  requests.foldl afterRequest state

/-- Whether a record of a level is written. -/
def writes (state : LogState) (level : Int) : Bool := level ≥ state.level

end LogState

end TaggedCatalog
