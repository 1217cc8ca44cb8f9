import TaggedCatalog.Proofs.Log.EnvironmentLevel

/-! # Setting the log up again and again

A set-up fails, if at all, before it touches the log, and what it makes of the log does
not depend on what the log was. So after any number of set-ups the log is as the last one
that did not fail makes it, with a single handler. -/

namespace TaggedCatalog.LogState

/-! ## Set-ups as changes of the log

A set-up is a row of small changes, each of which stays whatever happens behind it. A
failure between two of them would leave a log that is half set up. -/

/-- Sets the level and replaces the handlers, one change at a time. -/
def changeTo (level : Int) : EStateM NumeralProblem LogState Unit := do
  modify fun state => { state with level }
  let handlers := (← get).handlers
  handlers.forM fun pattern => modify (removeHandler · pattern)
  modify (addHandler · (patternAt level))

namespace Request

/-- The level that the log is to be set up at. -/
def resolve (request : Request) : Except NumeralProblem Int :=
  match request.level with
  | some level => .ok level
  | none => (LogLevel.parseVariable request.named).map orCritical

def succeeds (request : Request) : Bool := request.resolve.isOk

def perform (request : Request) : EStateM NumeralProblem LogState Unit := do
  let level ← ofExcept request.resolve
  changeTo level

/-- Performs a set-up and goes on behind its failure. -/
def attempt (request : Request) : EStateM NumeralProblem LogState Unit :=
  try request.perform catch _ => pure ()

end Request

theorem run_forM_removeHandler (handlers : List String) (state : LogState) :
    (handlers.forM fun pattern => modify (removeHandler · pattern) :
        EStateM NumeralProblem LogState Unit).run state =
      .ok () (handlers.foldl removeHandler state) := by
  induction handlers generalizing state with
  | nil => rfl
  | cons pattern rest induction => exact induction (state.removeHandler pattern)

theorem run_changeTo (level : Int) (state : LogState) :
    (changeTo level).run state = .ok () ⟨level, [patternAt level]⟩ := by
  simp only [changeTo, EStateM.run_bind, EStateM.run_modify, EStateM.run_get,
    run_forM_removeHandler]
  exact congrArg (EStateM.Result.ok ()) (configure_eq state level)

/-! ## One set-up -/

theorem setUp_eq (state : LogState) (request : Request) :
    state.setUp request.level request.named =
      request.resolve.map fun level => ⟨level, [patternAt level]⟩ := by
  rcases request with ⟨level, named⟩
  cases level with
  | some level => exact congrArg Except.ok (configure_eq state level)
  | none =>
      simp only [setUp, Request.resolve, configure_eq]
      cases LogLevel.parseVariable named <;> rfl

theorem afterRequest_eq (state : LogState) (request : Request) :
    state.afterRequest request =
      match request.resolve with
      | .ok level => ⟨level, [patternAt level]⟩
      | .error _ => state := by
  rw [afterRequest, setUp_eq]
  cases request.resolve <;> rfl

namespace Request

/-- Nothing is changed before the level is known, and nothing fails from then on. -/
theorem run_perform (request : Request) (state : LogState) :
    request.perform.run state =
      match request.resolve with
      | .ok _ => .ok () (state.afterRequest request)
      | .error problem => .error problem state := by
  rw [perform, afterRequest_eq]
  cases request.resolve with
  | ok level => exact run_changeTo level state
  | error problem => rfl

theorem run_attempt (request : Request) (state : LogState) :
    request.attempt.run state = .ok () (state.afterRequest request) := by
  have caught : request.attempt.run state =
      match request.perform.run state with
      | .ok _ next => .ok () next
      | .error _ left => .ok () left := by
    simp only [attempt, EStateM.run, tryCatch, tryCatchThe, MonadExceptOf.tryCatch,
      EStateM.tryCatch]
    cases request.perform state <;> rfl
  rw [caught, run_perform, afterRequest_eq]
  cases request.resolve <;> rfl

theorem succeeds_iff (request : Request) :
    request.succeeds = true ↔ ∃ level, request.resolve = .ok level := by
  rw [succeeds]
  cases request.resolve <;> simp [Except.isOk, Except.toBool]

theorem fails_iff (request : Request) :
    request.succeeds = false ↔ ∃ problem, request.resolve = .error problem := by
  rw [succeeds]
  cases request.resolve <;> simp [Except.isOk, Except.toBool]

/-- A set-up without a level whose variable has a text that is refused. -/
def IsRefused (request : Request) : Prop :=
  request.level = none ∧
    ∃ text, request.named = some text ∧ LogLevel.OddDigits (LogLevel.wordIn text)

theorem exists_resolve_eq_error_iff (request : Request) :
    (∃ problem, request.resolve = .error problem) ↔ request.IsRefused := by
  rcases request with ⟨level, named⟩
  cases level with
  | some level => simp [resolve, IsRefused]
  | none =>
      cases named with
      | none => simp [resolve, IsRefused, LogLevel.parseVariable, Except.map]
      | some text =>
          have refused_iff : (∃ problem, resolve ⟨none, some text⟩ = .error problem) ↔
              ∃ problem, LogLevel.parse text = .error problem := by
            rw [resolve, LogLevel.parseVariable]
            cases LogLevel.parse text <;> simp [Except.map]
          rw [refused_iff, LogLevel.exists_parse_eq_error_iff]
          simp [IsRefused]

end Request

theorem patternAt_eq_short_iff (level : Int) :
    patternAt level = shortPattern ↔ LogLevel.info ≤ level := by
  have different : detailedPattern ≠ shortPattern := by decide
  by_cases high : LogLevel.info ≤ level
  · simp [patternAt, high]
  · simp [patternAt, high, different]

/-! ## Many set-ups -/

/-- The last of some set-ups that succeeds. -/
def lastSuccess? (requests : List Request) : Option Request :=
  requests.reverse.find? Request.succeeds

theorem run_forM_attempt (requests : List Request) (state : LogState) :
    (requests.forM Request.attempt).run state = .ok () (state.afterRequests requests) := by
  induction requests generalizing state with
  | nil => rfl
  | cons request rest induction =>
      rw [List.forM_eq_forM, List.forM_cons, EStateM.run_bind, Request.run_attempt]
      exact induction (state.afterRequest request)

theorem afterRequests_concat (state : LogState) (before : List Request) (request : Request) :
    state.afterRequests (before ++ [request]) =
      (state.afterRequests before).afterRequest request := by
  rw [afterRequests, List.foldl_append]
  rfl

theorem afterRequests_eq_elim (state : LogState) (requests : List Request) :
    state.afterRequests requests = (lastSuccess? requests).elim state state.afterRequest := by
  -- From the end: what came before the last set-up counts only if that one fails.
  induction requests using List.reverseRecOn with
  | nil => rfl
  | append_singleton before request induction =>
      rw [afterRequests_concat, afterRequest_eq, lastSuccess?, List.reverse_concat,
        List.find?_cons, Request.succeeds]
      cases resolved : request.resolve with
      | ok level =>
          have alone := afterRequest_eq state request
          rw [resolved] at alone
          exact alone.symm
      | error problem => exact induction

theorem exists_afterRequests_eq (state : LogState) {requests : List Request}
    (someSucceeds : ∃ request ∈ requests, request.succeeds = true) :
    ∃ level, state.afterRequests requests = ⟨level, [patternAt level]⟩ := by
  have found : (lastSuccess? requests).isSome = true := by
    simpa [lastSuccess?] using someSucceeds
  rcases Option.isSome_iff_exists.mp found with ⟨request, isLast⟩
  rcases request.succeeds_iff.mp (List.find?_some isLast) with ⟨level, resolved⟩
  refine ⟨level, ?_⟩
  rw [afterRequests_eq_elim, isLast, Option.elim_some, afterRequest_eq, resolved]

/-- What set-ups, one after the other, make of a log. -/
structure LastWins (state : LogState) (requests : List Request) : Prop where
  /-- The log is what the last set-up that succeeds makes of it alone. -/
  last : state.afterRequests requests = (lastSuccess? requests).elim state state.afterRequest
  /-- So it is if all set-ups are performed change by change. -/
  stepwise : (requests.forM Request.attempt).run state = .ok () (state.afterRequests requests)
  /-- A set-up that succeeds does so on every log. -/
  success : ∀ request ∈ requests, request.succeeds = true → ∀ before : LogState,
    before.setUp request.level request.named = .ok (before.afterRequest request) ∧
      request.perform.run before = .ok () (before.afterRequest request)
  /-- One that fails does so on every log, and changes nothing. -/
  failure : ∀ request ∈ requests, request.succeeds = false → ∀ before : LogState, ∃ problem,
    before.setUp request.level request.named = .error problem ∧
      request.perform.run before = .error problem before
  /-- What makes it fail is the text in the variable. -/
  refused : ∀ request ∈ requests, request.succeeds = false ↔ request.IsRefused
  /-- Behind a set-up that succeeds there is one handler, and it goes with the level. -/
  single : (∃ request ∈ requests, request.succeeds = true) →
    ∃ pattern, (state.afterRequests requests).handlers = [pattern] ∧
      (pattern = shortPattern ↔ LogLevel.info ≤ (state.afterRequests requests).level)

/-- After any set-ups of any log, the last one that succeeds wins. -/
theorem afterRequests_lastWins (state : LogState) (requests : List Request) :
    LastWins state requests where
  last := afterRequests_eq_elim state requests
  stepwise := run_forM_attempt requests state
  success := by
    intro request _ succeeds before
    rcases request.succeeds_iff.mp succeeds with ⟨level, resolved⟩
    rw [setUp_eq, request.run_perform, afterRequest_eq, resolved]
    exact ⟨rfl, rfl⟩
  failure := by
    intro request _ fails before
    rcases request.fails_iff.mp fails with ⟨problem, refused⟩
    rw [setUp_eq, request.run_perform, refused]
    exact ⟨problem, rfl, rfl⟩
  refused := by
    intro request _
    rw [request.fails_iff, request.exists_resolve_eq_error_iff]
  single := by
    intro someSucceeds
    rcases exists_afterRequests_eq state someSucceeds with ⟨level, isAfter⟩
    rw [isAfter]
    exact ⟨patternAt level, rfl, patternAt_eq_short_iff level⟩

/-- A set-up in between, and one at the end that fails. -/
example :
    afterRequests ⟨7, ["a", "a"]⟩
      [{ level := some 30 }, { level := some 10 }, { named := some "²" }] =
        ⟨10, [detailedPattern]⟩ := by
  decide +kernel

end TaggedCatalog.LogState
