import TaggedCatalog.CommandLine.Run
import TaggedCatalog.Proofs.CommandLine.AllOrNothing
import TaggedCatalog.Proofs.Settings.Loading
import TaggedCatalog.Toml.Document

/-! # How a run reports that it failed

A failure of the command has an exit code of its own and a line on standard error.
Some errors are not made into failures. Reading the exclusion patterns is part of
planning the scan, which comes before declarations are collected, and only what
happens while they are collected is caught. An output with a character that no name
can have is no failure to open it, and a part of the catalog that is not made of
characters is no failure to write it. A module may end the run. Where the configuration
can be read, these four are all that is not reported. -/

namespace TaggedCatalog

/-! ## Configuration that can be read -/

namespace ConfigChoice

/-- The file that is asked for. -/
def named? : ConfigChoice → Option PathName
  | .explicit path => some path
  | _ => none

/-- The files that a choice may lead to. -/
def candidates : ConfigChoice → List PathName
  | .ignore => []
  | .explicit path => [path]
  | .discover directory =>
      [directory.joinText SettingsFile.ownName, directory.joinText SettingsFile.sharedName]

end ConfigChoice

namespace SettingsFile

variable (reader : TableReader) {tree : FileTree} {path : PathName}

/-- What can be read at a path is text. -/
def HoldsText (tree : FileTree) (path : PathName) : Prop :=
  ∀ bytes ∈ (tree.read path).toOption, (Text.decodeUtf8 bytes).isSome

instance : Decidable (HoldsText tree path) :=
  inferInstanceAs (Decidable (∀ bytes ∈ (tree.read path).toOption, (Text.decodeUtf8 bytes).isSome))

/-- A file that is asked for is there, and whatever may be read is text. -/
def Readable (tree : FileTree) (choice : ConfigChoice) : Prop :=
  (∀ path ∈ choice.named?, tree.isFile path = true) ∧
    ∀ path ∈ choice.candidates, HoldsText tree path

instance {choice : ConfigChoice} : Decidable (Readable tree choice) :=
  inferInstanceAs (Decidable (_ ∧ _))

/-- A file that a choice leads to is there, if one is asked for, and is one that may be
read. -/
theorem isFile_of_consulted {choice : ConfigChoice} (readable : Readable tree choice)
    (consulted : consulted? tree choice = some path) :
    tree.isFile path = true ∧ path ∈ choice.candidates := by
  cases choice with
  | ignore => cases consulted
  | explicit other =>
      cases consulted
      exact ⟨readable.1 _ rfl, List.mem_cons_self⟩
  | discover directory =>
      rw [consulted?, fileIn?] at consulted
      split at consulted
      · cases consulted
        exact ⟨‹_›, by simp [ConfigChoice.candidates]⟩
      · split at consulted
        · cases consulted
          exact ⟨‹_›, by simp [ConfigChoice.candidates]⟩
        · cases consulted

theorem exists_loadMerged_eq_ok {choice : ConfigChoice} (readable : Readable tree choice) :
    ∃ merged, (loadMerged reader tree choice).value = .ok merged := by
  cases loaded : (loadMerged reader tree choice).value with
  | ok merged => exact ⟨merged, rfl⟩
  | error failure =>
      rcases (value_loadMerged_eq_error_iff reader choice failure).mp loaded with
        ⟨file, consulted, refused⟩
      rcases isFile_of_consulted readable consulted with ⟨present, candidate⟩
      cases refused with
      | notText isRead noText =>
          have isText := readable.2 file candidate _ (by rw [isRead]; rfl)
          rw [Text.decodeUtf8_eq_none_iff.mpr noText] at isText
          cases isText
      | notPath impossible => exact absurd impossible (FileTree.not_impossible_of_isFile present)

end SettingsFile

/-! ## The steps -/

namespace Generate

/-- A configuration file that is asked for is there, and those that may be read are text. -/
def Acceptable (surroundings : Surroundings) (request : GenerateRequest) : Prop :=
  SettingsFile.Readable surroundings.tree (configChoice surroundings.tree request)

instance {surroundings : Surroundings} {request : GenerateRequest} :
    Decidable (Acceptable surroundings request) :=
  inferInstanceAs (Decidable (SettingsFile.Readable _ _))

variable {surroundings : Surroundings} {request : GenerateRequest}

theorem settle_ne_unhandled (acceptable : Acceptable surroundings request)
    (error : UnhandledError) :
    (settle surroundings request).value ≠ .error (.unhandled error) := by
  obtain ⟨merged, loaded⟩ := SettingsFile.exists_loadMerged_eq_ok
    surroundings.reader acceptable
  rw [settle]
  split
  · rintro ⟨⟩
  · simp only [loaded]
    split <;> rintro ⟨⟩

theorem ofSettings_eq_error_iff (compile : PatternCompiler) (lookup : Source.Lookup)
    (settings : Settings) (problem : ExclusionProblem) :
    SourcePlan.ofSettings compile lookup settings = .error problem ↔
      settings.sourcePaths ≠ [] ∧ compile settings.exclusions = .error problem := by
  rw [SourcePlan.ofSettings]
  split
  · rename_i none
    simp [List.isEmpty_iff.mp none]
  · rename_i some
    cases compile settings.exclusions <;>
      simp [Except.map, List.isEmpty_iff.not.mp some]

theorem deliver_eq_unhandled_iff (settings : Settings) (declarations : List Declaration)
    (error : UnhandledError) :
    (deliver surroundings settings declarations).value = .error (.unhandled error) ↔
      FileTree.nullCharacter ∈ settings.output.toList ∧ error = .output settings.output := by
  rw [deliver]
  split
  · rename_i standard
    have allowed : FileTree.nullCharacter ∉ standardOutput.toList := by decide
    simp [standard, allowed]
  · have unnamable_iff (bytes : List UInt8) :=
      FileTree.writeAt_eq_nullCharacter_iff surroundings.tree settings.output bytes
    split
    · rename_i tree written
      have possible : FileTree.nullCharacter ∉ settings.output.toList := by
        intro impossible
        rw [(unnamable_iff _).mpr impossible] at written
        cases written
      simp [possible]
    · rename_i unnamable
      have impossible := (unnamable_iff _).mp unnamable
      simp [impossible, Logged.pure, eq_comm]
    · rename_i problem named refused
      have possible : FileTree.nullCharacter ∉ settings.output.toList := by
        intro impossible
        rw [(unnamable_iff _).mpr impossible] at refused
        cases refused
        exact named rfl
      simp [possible]

/-- The errors that a request ends with and that no failure is made of: a pattern that
is refused where paths are to be scanned, a module that ends the run, a catalog that is to
go to a file of an impossible name, and one that is not made of characters. -/
inductive Escapes (surroundings : Surroundings) (request : GenerateRequest) : UnhandledError → Prop
  | refusedPattern {settings : Settings} {problem : ExclusionProblem}
      (settled : (settle surroundings request).value = .ok settings)
      (scans : settings.sourcePaths ≠ [])
      (refused : surroundings.compile settings.exclusions = .error problem) :
      Escapes surroundings request (.exclusion problem)
  | exited {exit : ImportExit} (exits : ModuleExits surroundings request exit) :
      Escapes surroundings request (.exited exit)
  | impossibleOutput {settings : Settings} {declarations : List Declaration}
      (collected : Collected surroundings request settings declarations)
      (impossible : FileTree.nullCharacter ∈ settings.output.toList) :
      Escapes surroundings request (.output settings.output)
  | unwritable {settings : Settings} {declarations : List Declaration} {written : String}
      {bit : CodeText} (collected : Collected surroundings request settings declarations)
      (canOpen : CanOpen surroundings.tree settings)
      (broken : RenderStep.BreaksOff (catalogSteps settings declarations) written bit) :
      Escapes surroundings request (.unwritable bit)

theorem escapes_of_steps_eq_unhandled (acceptable : Acceptable surroundings request)
    {error : UnhandledError}
    (failed : (steps surroundings request).value = .error (.unhandled error)) :
    Escapes surroundings request error := by
  simp only [value_steps, except_bind_eq_error_iff, except_map_eq_error_iff,
    settle_ne_unhandled acceptable error, false_or] at failed
  obtain ⟨settings, settled, inCollection | ⟨declarations, collected, inDelivery⟩⟩ := failed
  · rcases (collect_eq_unhandled_iff _ settings error).mp inCollection with
      ⟨problem, planned, rfl⟩ | ⟨plan, exit, planned, exits, rfl⟩
    · obtain ⟨scans, refused⟩ := (ofSettings_eq_error_iff _ _ settings problem).mp planned
      exact .refusedPattern settled scans refused
    · exact .exited (.intro settled planned exits)
  · obtain ⟨impossible, rfl⟩ := (deliver_eq_unhandled_iff _ _ _).mp inDelivery
    exact .impossibleOutput ⟨settled, (collect_eq_ok_iff _ _ _).mp collected⟩ impossible

theorem steps_of_refusedPattern {settings : Settings} {problem : ExclusionProblem}
    (settled : (settle surroundings request).value = .ok settings)
    (scans : settings.sourcePaths ≠ [])
    (refused : surroundings.compile settings.exclusions = .error problem) :
    (steps surroundings request).value = .error (.unhandled (.exclusion problem)) := by
  have planned := (ofSettings_eq_error_iff _ surroundings.lookup _ _).mpr ⟨scans, refused⟩
  have inCollection := (collect_eq_unhandled_iff _ settings _).mpr (.inl ⟨problem, planned, rfl⟩)
  simp only [value_steps, settled, Except.bind, inCollection]

theorem steps_of_impossibleOutput {settings : Settings} {declarations : List Declaration}
    (collected : Collected surroundings request settings declarations)
    (impossible : FileTree.nullCharacter ∈ settings.output.toList) :
    (steps surroundings request).value = .error (.unhandled (.output settings.output)) := by
  have found := (collect_eq_ok_iff _ _ _).mpr collected.found
  have inDelivery : (deliver surroundings settings declarations).value = _ :=
    (deliver_eq_unhandled_iff _ _ _).mpr ⟨impossible, rfl⟩
  simp only [value_steps, collected.settled, Except.bind, found, inDelivery, Except.map]

/-! ## The run as a whole -/

/-- The exit codes of failures. -/
def failureExitCodes : List Nat := [1, 64, 65, 66, 74, 78, 255]

/-- A run that ends well, or with a failure: its exit code and, behind what has been
logged, its line on standard error. -/
inductive Reported : RunOutcome → Prop
  | done (tree : FileTree) (written : Written) : Reported (.done tree written)
  | failed (tree : FileTree) (logged : String) (failure : Failure)
      (documented : failure.exitCode ∈ failureExitCodes) :
      Reported (.stopped tree logged (.failed failure))

theorem exitCode_mem_failureExitCodes (failure : Failure) :
    failure.exitCode ∈ failureExitCodes := by
  cases kind : failure.kind <;>
    simp [Failure.exitCode, FailureKind.exitCode, failureExitCodes, kind]

theorem Reported.unhandled_eq_none {outcome : RunOutcome} (reported : Reported outcome) :
    outcome.unhandled = none := by
  cases reported <;> rfl

theorem unhandled_run_of_steps_eq (context : CommandContext) {stop : Stop}
    (failed : (steps surroundings request).value = .error stop) (error : UnhandledError) :
    (run surroundings context request).unhandled = some error ↔ stop = .unhandled error := by
  rw [run_of_error context failed]
  cases stop <;> simp [RunOutcome.stopped]

theorem unhandled_run_eq_some_iff (context : CommandContext)
    (acceptable : Acceptable surroundings request) (error : UnhandledError) :
    (run surroundings context request).unhandled = some error ↔
      Escapes surroundings request error := by
  constructor
  · intro unhandled
    rcases stopped_or_collected surroundings request with
      ⟨stop, failed⟩ | ⟨settings, declarations, collected, canOpen⟩
    · cases (unhandled_run_of_steps_eq context failed error).mp unhandled
      exact escapes_of_steps_eq_unhandled acceptable failed
    · rw [(run_of_collected context collected canOpen).2.1] at unhandled
      obtain ⟨bit, isRefused, rfl⟩ := Option.map_eq_some_iff.mp unhandled
      exact .unwritable collected canOpen (Transcript.breaksOff_iff.mp ⟨rfl, isRefused⟩)
  · intro escapes
    cases escapes with
    | refusedPattern settled scans refused =>
        have failed := steps_of_refusedPattern settled scans refused
        exact (unhandled_run_of_steps_eq context failed _).mpr rfl
    | exited exits =>
        exact (unhandled_run_of_steps_eq context (steps_eq_exited_iff.mpr exits) _).mpr rfl
    | impossibleOutput collected impossible =>
        have failed := steps_of_impossibleOutput collected impossible
        exact (unhandled_run_of_steps_eq context failed _).mpr rfl
    | unwritable collected canOpen broken =>
        exact (run_of_breaksOff context collected canOpen broken).2.1

/-- What is handled is reported. -/
theorem reported_run_iff (surroundings : Surroundings) (context : CommandContext)
    (request : GenerateRequest) :
    Reported (run surroundings context request) ↔
      (run surroundings context request).unhandled = none := by
  refine ⟨Reported.unhandled_eq_none, ?_⟩
  intro handled
  cases result : (steps surroundings request).value with
  | error stop =>
      rw [run_of_error context result] at handled ⊢
      cases stop with
      | failed failure => exact .failed _ _ failure (exitCode_mem_failureExitCodes failure)
      | unhandled error => cases handled
  | ok delivered =>
      rw [run, result] at handled ⊢
      cases refused : delivered.2.refused with
      | none =>
          simp only [refused]
          exact .done _ _
      | some bit => simp [refused, RunOutcome.brokenOff] at handled

end Generate

end TaggedCatalog
