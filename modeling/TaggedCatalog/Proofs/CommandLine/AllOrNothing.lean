import TaggedCatalog.CommandLine.Run
import TaggedCatalog.Discovery.Exclusion
import TaggedCatalog.Proofs.FileTree.Write
import TaggedCatalog.Proofs.Rendering.Writing
import TaggedCatalog.Toml.Document

/-! # A catalog is delivered whole or not at all

The command that renders the catalog goes through three steps that may fail. Each
is described by when it goes well and what it then gives. The output is touched
only once the settings are settled and everything has been collected, so a run that
fails by then leaves the files and standard output as they were.

There are two exceptions. A module that ends the run while it is imported chooses the
exit code, and a catalog that is not made of characters is written up to the first part
that is none. -/

namespace TaggedCatalog

section Except

variable {ε α β : Type}

theorem except_bind_eq_ok_iff (first : Except ε α) (next : α → Except ε β) (result : β) :
    first.bind next = .ok result ↔ ∃ value, first = .ok value ∧ next value = .ok result := by
  cases first <;> simp [Except.bind]

theorem except_map_eq_ok_iff (first : Except ε α) (transform : α → β) (result : β) :
    first.map transform = .ok result ↔ ∃ value, first = .ok value ∧ transform value = result := by
  cases first <;> simp [Except.map]

theorem except_bind_eq_error_iff (first : Except ε α) (next : α → Except ε β) (problem : ε) :
    first.bind next = .error problem ↔
      first = .error problem ∨ ∃ value, first = .ok value ∧ next value = .error problem := by
  cases first <;> simp [Except.bind]

theorem except_map_eq_error_iff (first : Except ε α) (transform : α → β) (problem : ε) :
    first.map transform = .error problem ↔ first = .error problem := by
  cases first <;> simp [Except.map]

end Except

/-! ## What messages leave on standard output -/

namespace Written

@[simp] theorem out_append (first second : Written) :
    (first ++ second).out = first.out ++ second.out := rfl

end Written

namespace Console

@[simp] theorem out_note (console : Console) (text : String) (newline : Bool) :
    (console.note text newline).out = "" := rfl

@[simp] theorem out_warn (console : Console) (text : String) (newline : Bool) :
    (console.warn text newline).out = "" := rfl

end Console

namespace Generate

theorem out_report (context : CommandContext) (settings : Settings) (catalog : Catalog) :
    (report context settings catalog).out = "" := by
  simp [report, apply_ite Written.out]

end Generate

/-! ## Runs that are stopped -/

theorem Failure.exitCode_ne_zero (failure : Failure) : failure.exitCode ≠ 0 := by
  cases kind : failure.kind <;> simp [Failure.exitCode, FailureKind.exitCode, kind]

namespace RunOutcome

/-- Only a module may end a run with exit code zero. -/
theorem exitCode_stopped_ne_zero (tree : FileTree) (logged : String) {stop : Stop}
    (noExit : ∀ exit, stop ≠ .unhandled (.exited exit)) :
    (stopped tree logged stop).exitCode ≠ 0 := by
  cases stop with
  | failed failure => exact failure.exitCode_ne_zero
  | unhandled error =>
      cases error with
      | exited exit => exact absurd rfl (noExit exit)
      | _ => exact Nat.one_ne_zero

@[simp] theorem out_stopped (tree : FileTree) (logged : String) (stop : Stop) :
    (stopped tree logged stop).written.out = "" := by
  cases stop <;> rfl

@[simp] theorem tree_stopped (tree : FileTree) (logged : String) (stop : Stop) :
    (stopped tree logged stop).tree = tree := by
  cases stop <;> rfl

end RunOutcome

namespace Generate

/-! ## The steps -/

theorem collect_eq_ok_iff (surroundings : Surroundings) (settings : Settings)
    (declarations : List Declaration) :
    (collect surroundings settings).value = .ok declarations ↔
      ∃ plan, SourcePlan.ofSettings surroundings.compile surroundings.lookup settings =
          .ok (some plan) ∧
        (plan.run surroundings.tree surroundings.library).failure = none ∧
        (plan.run surroundings.tree surroundings.library).declarations = declarations := by
  rw [collect]
  cases planned : SourcePlan.ofSettings surroundings.compile surroundings.lookup settings with
  | error problem => simp [Logged.pure]
  | ok found =>
      cases found with
      | none => simp [Logged.pure]
      | some plan =>
          cases failed : (plan.run surroundings.tree surroundings.library).failure with
          | none => simp [failed]
          | some failure => cases failure <;> simp [failed]

/-- Collecting ends with an error that is no failure where a pattern is refused, or where a
module ends the run. -/
theorem collect_eq_unhandled_iff (surroundings : Surroundings) (settings : Settings)
    (error : UnhandledError) :
    (collect surroundings settings).value = .error (.unhandled error) ↔
      (∃ problem, SourcePlan.ofSettings surroundings.compile surroundings.lookup settings =
          .error problem ∧ error = .exclusion problem) ∨
      ∃ plan exit, SourcePlan.ofSettings surroundings.compile surroundings.lookup settings =
          .ok (some plan) ∧
        (plan.run surroundings.tree surroundings.library).failure = some (.exited exit) ∧
        error = .exited exit := by
  rw [collect]
  cases planned : SourcePlan.ofSettings surroundings.compile surroundings.lookup settings with
  | error problem => simp [Logged.pure, eq_comm]
  | ok found =>
      cases found with
      | none => simp [Logged.pure]
      | some plan =>
          cases failed : (plan.run surroundings.tree surroundings.library).failure with
          | none => simp [failed]
          | some failure => cases failure <;> simp [failed, eq_comm]

theorem deliver_eq_ok_iff (surroundings : Surroundings) (settings : Settings)
    (declarations : List Declaration) (delivery : Delivery) :
    let generation := Generation.run settings.packageStart settings.format declarations
    let transcript := Transcript.ofSteps generation.steps
    (deliver surroundings settings declarations).value = .ok delivery ↔
      (settings.output = standardOutput ∧ delivery =
        ⟨transcript.text, surroundings.tree, generation.catalog, transcript.refused⟩) ∨
      (settings.output ≠ standardOutput ∧
        ∃ tree, surroundings.tree.writeAt settings.output
            (Text.encodeUtf8 transcript.text) = .ok tree ∧
          delivery = ⟨"", tree, generation.catalog, transcript.refused⟩) := by
  intro generation transcript
  rw [deliver]
  split
  · rename_i standard
    simp [standard, transcript, generation, eq_comm]
  · rename_i notStandard
    simp only [notStandard, false_and, false_or, ne_eq, not_false_eq_true, true_and]
    split
    · rename_i tree written
      simp [written, transcript, generation, eq_comm]
    · rename_i unnamable
      simp [unnamable, transcript, generation, Logged.pure]
    · rename_i problem _ refused
      simp [refused, transcript, generation]

/-- Every step is taken only if the one before has gone well. -/
theorem value_steps (surroundings : Surroundings) (request : GenerateRequest) :
    (steps surroundings request).value =
      (settle surroundings request).value.bind fun settings =>
        (collect surroundings settings).value.bind fun declarations =>
          (deliver surroundings settings declarations).value.map fun delivery =>
            (settings, delivery) := by
  rw [steps, Logged.value_bind]
  cases settled : (settle surroundings request).value with
  | error stop => rfl
  | ok settings =>
      simp only [Logged.value_bind, Except.bind]
      cases collected : (collect surroundings settings).value with
      | error stop => rfl
      | ok declarations =>
          simp only [Logged.value_bind]
          cases (deliver surroundings settings declarations).value <;> rfl

theorem steps_eq_ok_iff (surroundings : Surroundings) (request : GenerateRequest)
    (settings : Settings) (delivery : Delivery) :
    (steps surroundings request).value = .ok (settings, delivery) ↔
      (settle surroundings request).value = .ok settings ∧
      ∃ declarations, (collect surroundings settings).value = .ok declarations ∧
        (deliver surroundings settings declarations).value = .ok delivery := by
  simp only [value_steps, except_bind_eq_ok_iff, except_map_eq_ok_iff, Prod.mk.injEq]
  constructor
  · rintro ⟨_, settled, declarations, collected, _, delivered, rfl, rfl⟩
    exact ⟨settled, declarations, collected, delivered⟩
  · rintro ⟨settled, declarations, collected, delivered⟩
    exact ⟨settings, settled, declarations, collected, delivery, delivered, rfl, rfl⟩

/-! ## The run as a whole -/

/-- The settings of a request are settled, and everything that they lead to is
found without a failure: these are the declarations. -/
structure Collected (surroundings : Surroundings) (request : GenerateRequest)
    (settings : Settings) (declarations : List Declaration) : Prop where
  settled : (settle surroundings request).value = .ok settings
  found : ∃ plan, SourcePlan.ofSettings surroundings.compile surroundings.lookup settings =
      .ok (some plan) ∧
    (plan.run surroundings.tree surroundings.library).failure = none ∧
    (plan.run surroundings.tree surroundings.library).declarations = declarations

/-- A module ends the run while the declarations are collected. -/
inductive ModuleExits (surroundings : Surroundings) (request : GenerateRequest)
    (exit : ImportExit) : Prop
  | intro {settings : Settings} {plan : SourcePlan}
      (settled : (settle surroundings request).value = .ok settings)
      (planned : SourcePlan.ofSettings surroundings.compile surroundings.lookup settings =
        .ok (some plan))
      (exits : (plan.run surroundings.tree surroundings.library).failure = some (.exited exit))

/-- How the catalog that a run with these settings is to deliver is written. -/
def catalogSteps (settings : Settings) (declarations : List Declaration) : List RenderStep :=
  (Generation.run settings.packageStart settings.format declarations).steps

/-- The text of that catalog. -/
def catalogText (settings : Settings) (declarations : List Declaration) : CodeText :=
  (Generation.run settings.packageStart settings.format declarations).output

theorem flatMap_catalogSteps (settings : Settings) (declarations : List Declaration) :
    (catalogSteps settings declarations).flatMap RenderStep.text =
      catalogText settings declarations := rfl

/-- The text is on standard output and no file is touched, or standard output is empty and
the text is what the one file holds that is written. -/
def Delivered (before : FileTree) (settings : Settings) (text : String)
    (outcome : RunOutcome) : Prop :=
  if settings.output = standardOutput then outcome.written.out = text ∧ outcome.tree = before
  else outcome.written.out = "" ∧
    ∃ place, before.locate (PathName.ofText settings.output) = .ok place ∧
      before.OnlyWritten place (Text.encodeUtf8 text) outcome.tree

/-- Whether the output of the settings can be opened. -/
def CanOpen (before : FileTree) (settings : Settings) : Prop :=
  settings.output = standardOutput ∨
    FileTree.asksForDirectory settings.output = false ∧
      ∃ place, before.locate (PathName.ofText settings.output) = .ok place ∧
        before.isDirectoryAt place = false ∧ before.mayWriteAt place = true

/-- No module ends the run, and a catalog that comes to be written is made of characters. -/
structure Undisturbed (surroundings : Surroundings) (request : GenerateRequest) : Prop where
  noExit : ∀ exit, ¬ ModuleExits surroundings request exit
  isText : ∀ settings declarations, Collected surroundings request settings declarations →
    CanOpen surroundings.tree settings →
    ∃ text, catalogText settings declarations = CodeText.of text

variable {surroundings : Surroundings} {request : GenerateRequest} {settings : Settings}
  {declarations : List Declaration} {delivery : Delivery}

theorem deliver_ne_exited (exit : ImportExit) :
    (deliver surroundings settings declarations).value ≠ .error (.unhandled (.exited exit)) := by
  rw [deliver]
  split
  · rintro ⟨⟩
  · split <;> rintro ⟨⟩

theorem settle_ne_exited (exit : ImportExit) :
    (settle surroundings request).value ≠ .error (.unhandled (.exited exit)) := by
  rw [settle]
  split
  · rintro ⟨⟩
  · dsimp only
    split
    · rintro ⟨⟩
    · split <;> rintro ⟨⟩

theorem steps_eq_exited_iff {exit : ImportExit} :
    (steps surroundings request).value = .error (.unhandled (.exited exit)) ↔
      ModuleExits surroundings request exit := by
  simp only [value_steps, except_bind_eq_error_iff, except_map_eq_error_iff, settle_ne_exited,
    deliver_ne_exited, collect_eq_unhandled_iff, false_or, and_false, exists_false, or_false,
    reduceCtorEq, UnhandledError.exited.injEq]
  constructor
  · rintro ⟨settings, settled, plan, _, planned, exits, rfl⟩
    exact .intro settled planned exits
  · rintro ⟨settled, planned, exits⟩
    exact ⟨_, settled, _, _, planned, exits, rfl⟩

theorem run_of_error (context : CommandContext) {stop : Stop}
    (failed : (steps surroundings request).value = .error stop) :
    run surroundings context request =
      .stopped surroundings.tree (context.log.lines (steps surroundings request).records) stop := by
  simp only [run, failed]

theorem run_of_ok (context : CommandContext)
    (done : (steps surroundings request).value = .ok (settings, delivery)) :
    let outcome := run surroundings context request
    outcome.exitCode = (if delivery.refused = none then 0 else 1) ∧
      outcome.written.out = delivery.out ∧ outcome.tree = delivery.tree ∧
      outcome.unhandled = delivery.refused.map .unwritable := by
  cases refused : delivery.refused with
  | none => simp [run, done, refused, RunOutcome.done, out_report]
  | some bit => simp [run, done, refused, RunOutcome.brokenOff, UnhandledError.exitCode]

theorem steps_eq_ok (collected : Collected surroundings request settings declarations)
    (delivered : (deliver surroundings settings declarations).value = .ok delivery) :
    (steps surroundings request).value = .ok (settings, delivery) :=
  (steps_eq_ok_iff surroundings request settings delivery).mpr
    ⟨collected.settled, declarations, (collect_eq_ok_iff _ _ _).mpr collected.found, delivered⟩

/-- What has been written of a catalog is in its place. -/
theorem delivered_of_deliver_eq_ok {outcome : RunOutcome}
    (delivered : (deliver surroundings settings declarations).value = .ok delivery)
    (out : outcome.written.out = delivery.out) (tree : outcome.tree = delivery.tree) :
    let transcript := Transcript.ofSteps (catalogSteps settings declarations)
    delivery.refused = transcript.refused ∧
      Delivered surroundings.tree settings transcript.text outcome := by
  intro transcript
  rw [Delivered]
  rcases (deliver_eq_ok_iff surroundings settings declarations delivery).mp delivered with
    ⟨standard, rfl⟩ | ⟨notStandard, after, written, rfl⟩
  · rw [if_pos standard]
    exact ⟨rfl, out, tree⟩
  · rw [if_neg notStandard, tree]
    exact ⟨rfl, out, FileTree.writeAt_onlyWritten written⟩

/-- Something is delivered where the output can be opened, and only there. -/
theorem exists_deliver_eq_ok_iff :
    (∃ delivery, (deliver surroundings settings declarations).value = .ok delivery) ↔
      CanOpen surroundings.tree settings := by
  simp only [deliver_eq_ok_iff]
  constructor
  · rintro ⟨delivery, ⟨standard, -⟩ | ⟨-, after, written, -⟩⟩
    · exact .inl standard
    · obtain ⟨namesFile, place, led, notDirectory, allowed, -⟩ :=
        (FileTree.writeAt_eq_ok_iff _ _ _ _).mp written
      exact .inr ⟨namesFile, place, led, notDirectory, allowed⟩
  · intro canOpen
    by_cases standard : settings.output = standardOutput
    · exact ⟨_, .inl ⟨standard, rfl⟩⟩
    · rcases canOpen with impossible | ⟨namesFile, place, led, notDirectory, allowed⟩
      · exact absurd impossible standard
      · have written := (FileTree.writeAt_eq_ok_iff surroundings.tree _ settings.output
          (Text.encodeUtf8 (Transcript.ofSteps (catalogSteps settings declarations)).text)).mpr
            ⟨namesFile, place, led, notDirectory, allowed, rfl⟩
        exact ⟨_, .inr ⟨standard, _, written, rfl⟩⟩

/-- A run is stopped, or it finds everything and can open its output. -/
theorem stopped_or_collected (surroundings : Surroundings) (request : GenerateRequest) :
    (∃ stop, (steps surroundings request).value = .error stop) ∨
      ∃ settings declarations, Collected surroundings request settings declarations ∧
        CanOpen surroundings.tree settings := by
  cases result : (steps surroundings request).value with
  | error stop => exact .inl ⟨stop, rfl⟩
  | ok delivered =>
      obtain ⟨settings, delivery⟩ := delivered
      obtain ⟨settled, declarations, found, done⟩ :=
        (steps_eq_ok_iff surroundings request settings delivery).mp result
      exact .inr ⟨settings, declarations, ⟨settled, (collect_eq_ok_iff _ _ _).mp found⟩,
        exists_deliver_eq_ok_iff.mp ⟨delivery, done⟩⟩

/-- A run that finds everything and can open its output ends as the writing of the catalog
does, and has delivered what was written of it. -/
theorem run_of_collected (context : CommandContext)
    (collected : Collected surroundings request settings declarations)
    (canOpen : CanOpen surroundings.tree settings) :
    let outcome := run surroundings context request
    let transcript := Transcript.ofSteps (catalogSteps settings declarations)
    outcome.exitCode = (if transcript.refused = none then 0 else 1) ∧
      outcome.unhandled = transcript.refused.map .unwritable ∧
      Delivered surroundings.tree settings transcript.text outcome := by
  intro outcome transcript
  obtain ⟨delivery, delivered⟩ := exists_deliver_eq_ok_iff.mpr canOpen
  obtain ⟨code, out, tree, unhandled⟩ := run_of_ok context (steps_eq_ok collected delivered)
  obtain ⟨refused, inPlace⟩ := delivered_of_deliver_eq_ok delivered out tree
  rw [refused] at code unhandled
  exact ⟨code, unhandled, inPlace⟩

/-- A catalog that is a text is delivered whole. -/
theorem run_of_isText (context : CommandContext)
    (collected : Collected surroundings request settings declarations)
    (canOpen : CanOpen surroundings.tree settings) {text : String}
    (isText : catalogText settings declarations = CodeText.of text) :
    let outcome := run surroundings context request
    outcome.exitCode = 0 ∧ Delivered surroundings.tree settings text outcome := by
  intro outcome
  obtain ⟨code, -, inPlace⟩ := run_of_collected context collected canOpen
  obtain ⟨isWritten, finished⟩ := Transcript.wholly_written_iff.mpr
    ((flatMap_catalogSteps settings declarations).trans isText)
  rw [if_pos finished] at code
  rw [isWritten] at inPlace
  exact ⟨code, inPlace⟩

/-- Any other is delivered up to the first part that is not made of characters. -/
theorem run_of_breaksOff (context : CommandContext)
    (collected : Collected surroundings request settings declarations)
    (canOpen : CanOpen surroundings.tree settings) {written : String} {bit : CodeText}
    (broken : RenderStep.BreaksOff (catalogSteps settings declarations) written bit) :
    let outcome := run surroundings context request
    outcome.exitCode = 1 ∧ outcome.unhandled = some (.unwritable bit) ∧
      Delivered surroundings.tree settings written outcome := by
  intro outcome
  obtain ⟨code, unhandled, inPlace⟩ := run_of_collected context collected canOpen
  obtain ⟨isWritten, refused⟩ := Transcript.ofSteps_breaksOff broken
  rw [refused] at code unhandled
  rw [isWritten] at inPlace
  exact ⟨code, unhandled, inPlace⟩

/-- A run without an error that is not handled was undisturbed. -/
theorem undisturbed_of_handled (context : CommandContext)
    (handled : (run surroundings context request).unhandled = none) :
    Undisturbed surroundings request where
  noExit exit exits := by
    rw [run_of_error context (steps_eq_exited_iff.mpr exits)] at handled
    cases handled
  isText settings declarations collected canOpen := by
    rw [(run_of_collected context collected canOpen).2.1, Option.map_eq_none_iff] at handled
    have whole := Transcript.wholly_written_iff.mp ⟨rfl, handled⟩
    exact ⟨_, (flatMap_catalogSteps settings declarations).symm.trans whole⟩

end Generate

end TaggedCatalog
