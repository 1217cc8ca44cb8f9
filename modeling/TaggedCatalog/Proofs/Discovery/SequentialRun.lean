import TaggedCatalog.Discovery.Exclusion
import TaggedCatalog.Discovery.SourcePlan
import TaggedCatalog.Proofs.Discovery.ClassReach

/-! # Sources run in order

A plan goes through its parts one by one: the files of the first root, those of the
next, and then the modules. The first part that fails ends the run, with all that was
found before it and nothing from behind it. -/

namespace TaggedCatalog

/-! ## Outcomes one after the other -/

namespace SourceOutcome

theorem andThen_assoc (first second third : SourceOutcome) :
    (first.andThen second).andThen third = first.andThen (second.andThen third) := by
  cases failed : first.failure with
  | some failure => simp [andThen, failed]
  | none => cases failedNext : second.failure <;> simp [andThen, failed, failedNext]

theorem andThen_empty (outcome : SourceOutcome) : outcome.andThen empty = outcome := by
  obtain ⟨declarations, failure, records⟩ := outcome
  cases failure <;> simp [andThen, empty]

theorem sequence_append (left right : List SourceOutcome) :
    sequence (left ++ right) = (sequence left).andThen (sequence right) := by
  induction left with
  | nil => rfl
  | cons first left induction =>
      rw [List.cons_append, sequence, induction, sequence, andThen_assoc]

end SourceOutcome

/-! ## Parts -/

/-- A part of what a plan goes through, with all that it holds. -/
inductive SourcePart where
  | missing (root : PathName)
  /-- A file, its path below the root, and its bytes or why they cannot be read. -/
  | file (path below : PathName) (content : Except AccessProblem (List UInt8))
  /-- A module with its own classes, or why it cannot be imported. -/
  | module (name : String) 
      (content : Except ModuleInspection.ImportProblem (ModuleObject × List ClassObject))

namespace SourcePart

def findings (lookup : Source.Lookup) (marker : String) : SourcePart → List Finding
  | missing root => [.error (.rootMissing root)]
  | file path _ (.error problem) => [.error (.unreadable path problem)]
  | file path below (.ok bytes) =>
      match Source.readModule lookup bytes with
      | none => [.error (.unparsable path)]
      | some body =>
          let name := (ModuleName.ofPath? below).getD ⟨"", ""⟩
          ClassWalk.bodyFindings { path, packageName := name.package, marker }
            (ClassWalk.moduleScope name.name) body
  | module name (.error problem) => [.error (problem.failure name)]
  | module _ (.ok (object, classes)) => classes.map (ModuleInspection.declare object)

/-- A file below a root, unless it is excluded. -/
def ofFileBelow (isExcluded : String → Bool) (tree : FileTree) (root below : PathName) :
    List SourcePart :=
  if isExcluded below.text then []
  else [.file (root.join below) below (tree.read (root.join below))]

def ofRoot (isExcluded : String → Bool) (tree : FileTree) (root : PathName) : List SourcePart :=
  match tree.directoryAt? root with
  | some directory =>
      (FileScan.filesBelow tree directory).flatMap (ofFileBelow isExcluded tree root)
  | none =>
      if tree.isFile root then [.file root ⟨.relative, root.fileName?.toList⟩ (tree.read root)]
      else [.missing root]

def ofModule (library : ModuleLibrary) (name : String) : SourcePart :=
  .module name ((library.load name).map fun object =>
    (object, ModuleInspection.classesAt library.table
      (ModuleInspection.ownNumbers library.table object)))

/-- The parts that settings name, in their order. -/
def inOrder (settings : Settings) (isExcluded : String → Bool) (tree : FileTree)
    (library : ModuleLibrary) : List SourcePart :=
  settings.sourcePaths.flatMap (ofRoot isExcluded tree) ++
    settings.sourceModules.map (ofModule library)

end SourcePart

/-! ## What each part shows -/

namespace FileScan

open SourcePart

variable (scan : FileScan) (tree : FileTree)

theorem shows_scanFile (path below : PathName) :
    (scan.scanFile tree path below).Shows
      ((SourcePart.file path below (tree.read path)).findings scan.lookup scan.marker) := by
  rw [scanFile]
  refine (SourceOutcome.shows_log _ _).andThen ?_
  cases tree.read path with
  | error problem => exact SourceOutcome.shows_fail _ _
  | ok bytes =>
      dsimp only [findings]
      cases Source.readModule scan.lookup bytes with
      | none => exact SourceOutcome.shows_fail _ _
      | some body => exact ClassWalk.shows_walkBody _ _ body

theorem shows_scanBelow (root below : PathName) :
    (scan.scanBelow tree root below).Shows
      ((ofFileBelow scan.isExcluded tree root below).flatMap
        (findings scan.lookup scan.marker)) := by
  rw [scanBelow, ofFileBelow]
  cases scan.isExcluded below.text with
  | true => exact SourceOutcome.shows_log _ _
  | false =>
      simp only [Bool.false_eq_true, if_false, List.flatMap_singleton]
      exact scan.shows_scanFile tree _ _

theorem shows_scanRoot (root : PathName) :
    (scan.scanRoot tree root).Shows
      ((ofRoot scan.isExcluded tree root).flatMap (findings scan.lookup scan.marker)) := by
  rw [scanRoot, ofRoot]
  cases tree.directoryAt? root with
  | some directory =>
      simp only [List.flatMap_assoc]
      refine (SourceOutcome.shows_log _ _).andThen (.sequence ?_)
      exact fun below _ => scan.shows_scanBelow tree root below
  | none =>
      cases tree.isFile root with
      | true =>
          simp only [if_true, List.flatMap_singleton]
          exact scan.shows_scanFile tree _ _
      | false => exact SourceOutcome.shows_fail _ _

theorem shows_run :
    (scan.run tree).Shows
      ((scan.roots.flatMap (ofRoot scan.isExcluded tree)).flatMap
        (findings scan.lookup scan.marker)) := by
  rw [run, List.flatMap_assoc]
  exact .sequence fun root _ => scan.shows_scanRoot tree root

/-- The roots can be scanned in two goes. -/
theorem run_append (roots more : List PathName) :
    { scan with roots := roots ++ more }.run tree =
      ({ scan with roots := roots }.run tree).andThen ({ scan with roots := more }.run tree) := by
  simp only [run, List.map_append, SourceOutcome.sequence_append]
  rfl

end FileScan

namespace ModuleLibrary

variable (library : ModuleLibrary)

theorem shows_inspectNamed (lookup : Source.Lookup) (marker name : String) :
    (ModuleInspection.inspectNamed library.table library.load name).Shows
      ((SourcePart.ofModule library name).findings lookup marker) := by
  rw [ModuleInspection.inspectNamed, SourcePart.ofModule]
  cases library.load name with
  | error problem => exact SourceOutcome.shows_fail _ _
  | ok object =>
      exact (SourceOutcome.shows_log _ _).andThen (ModuleInspection.shows_walk _ object [] _)

theorem shows_inspect (lookup : Source.Lookup) (marker : String) (names : List String) :
    (library.inspect names).Shows
      ((names.map (SourcePart.ofModule library)).flatMap (SourcePart.findings lookup marker)) := by
  rw [inspect, ModuleInspection.run, List.flatMap_map]
  exact .sequence fun name _ => library.shows_inspectNamed lookup marker name

/-- The modules can be inspected in two goes. -/
theorem inspect_append (names more : List String) :
    library.inspect (names ++ more) = (library.inspect names).andThen (library.inspect more) := by
  simp only [inspect, ModuleInspection.run, List.map_append, SourceOutcome.sequence_append]

end ModuleLibrary

/-! ## Plans -/

namespace SourcePlan

/-- The scan of some roots under the settings. -/
def scanOf (lookup : Source.Lookup) (settings : Settings) (isExcluded : String → Bool)
    (roots : List PathName) : FileScan :=
  { roots, marker := settings.marker, lookup, isExcluded }

variable {compile : PatternCompiler} {settings : Settings} {isExcluded : String → Bool}

/-- Settings that name anything have a plan, which scans first and then inspects. -/
theorem exists_plan (lookup : Source.Lookup)
    (valid : compile settings.exclusions = .ok isExcluded)
    (named : settings.sourcePaths ≠ [] ∨ settings.sourceModules ≠ []) :
    ∃ plan, ofSettings compile lookup settings = .ok (some plan) ∧
      ∀ tree library, plan.run tree library =
        ((scanOf lookup settings isExcluded settings.sourcePaths).run tree).andThen
          (library.inspect settings.sourceModules) := by
  by_cases scanned : settings.sourcePaths = []
  · have isModules : settings.sourceModules ≠ [] := named.resolve_left fun paths => paths scanned
    refine ⟨⟨none, settings.sourceModules⟩, by simp [ofSettings, scanned, isModules], ?_⟩
    intro tree library
    rw [scanned]
    exact SourceOutcome.andThen_empty _
  · refine
      ⟨⟨some (scanOf lookup settings isExcluded settings.sourcePaths), settings.sourceModules⟩,
        ?_, ?_⟩
    · simp [ofSettings, scanned, valid, Except.map, scanOf]
    · intro tree library
      simp [run, SourceOutcome.sequence, SourceOutcome.andThen_empty]

/-- A plan whose run is that of its parts, one after the other. -/
structure RunsInOrder (lookup : Source.Lookup) (settings : Settings) (isExcluded : String → Bool)
    (plan : SourcePlan) : Prop where
  /-- The outcome is what the parts hold, roots before modules, up to the first failure. -/
  shows : ∀ tree library, (plan.run tree library).Shows
    ((SourcePart.inOrder settings isExcluded tree library).flatMap
      (SourcePart.findings lookup settings.marker))
  /-- What is behind a part that fails can be anything. -/
  laterIrrelevant : ∀ tree library otherTree otherLibrary before failing after otherAfter,
    SourcePart.inOrder settings isExcluded tree library = before ++ failing :: after →
    SourcePart.inOrder settings isExcluded otherTree otherLibrary =
      before ++ failing :: otherAfter →
    (∃ failure, .error failure ∈ failing.findings lookup settings.marker) →
    (plan.run tree library).declarations = (plan.run otherTree otherLibrary).declarations ∧
      (plan.run tree library).failure = (plan.run otherTree otherLibrary).failure
  /-- Paths and modules may be split anywhere, and the pieces run as a chain. -/
  split : ∀ paths morePaths modules moreModules,
    settings.sourcePaths = paths ++ morePaths →
    settings.sourceModules = modules ++ moreModules →
    ∀ tree library, plan.run tree library = .sequence
      [(scanOf lookup settings isExcluded paths).run tree,
        (scanOf lookup settings isExcluded morePaths).run tree,
        library.inspect modules, library.inspect moreModules]

theorem ofSettings_runsInOrder (lookup : Source.Lookup)
    (valid : compile settings.exclusions = .ok isExcluded)
    (named : settings.sourcePaths ≠ [] ∨ settings.sourceModules ≠ []) :
    ∃ plan, ofSettings compile lookup settings = .ok (some plan) ∧
      plan.RunsInOrder lookup settings isExcluded := by
  obtain ⟨plan, planned, runs⟩ := exists_plan lookup valid named
  have shows : ∀ tree library, (plan.run tree library).Shows
      ((SourcePart.inOrder settings isExcluded tree library).flatMap
        (SourcePart.findings lookup settings.marker)) := by
    intro tree library
    rw [runs, SourcePart.inOrder, List.flatMap_append]
    exact (FileScan.shows_run _ tree).andThen (library.shows_inspect lookup settings.marker _)
  refine ⟨plan, planned, shows, ?_, ?_⟩
  · rintro tree library otherTree otherLibrary before failing after otherAfter parts otherParts
      ⟨failure, member⟩
    have shown := shows tree library
    have otherShown := shows otherTree otherLibrary
    rw [parts, List.append_cons, List.flatMap_append] at shown
    rw [otherParts, List.append_cons, List.flatMap_append] at otherShown
    have failedCommon : .error failure ∈
        (before ++ [failing]).flatMap (SourcePart.findings lookup settings.marker) := by
      simp [member]
    exact shown.same_of_failure failedCommon otherShown
  · intro paths morePaths modules moreModules splitPaths splitModules tree library
    rw [runs, splitPaths, splitModules, library.inspect_append]
    have scans := FileScan.run_append (scanOf lookup settings isExcluded []) tree paths morePaths
    change (scanOf lookup settings isExcluded (paths ++ morePaths)).run tree = _ at scans
    rw [scans, SourceOutcome.andThen_assoc]
    simp only [SourceOutcome.sequence, SourceOutcome.andThen_empty]
    rfl

/-- A root that is not there ends the run, whatever the module behind it holds. -/
theorem ofSettings_root_missing_before_module :
    let gone : PathName := ⟨.relative, ["gone"]⟩
    let settings : Settings :=
      { format := .html, packageStart := none, marker := "command", output := "-"
        sourcePaths := [gone], sourceModules := ["m"], exclusions := ["*.txt"]
        configFiles := [], verbosity := 0 }
    let tree : FileTree := { workingDirectory := ["work"], files := [], directories := [] }
    let library : ModuleLibrary := { modules := [.loads { name := "m", members := [] } false] }
    ∃ isExcluded plan, Exclusion.compile settings.exclusions = .ok isExcluded ∧
      (settings.sourcePaths ≠ [] ∨ settings.sourceModules ≠ []) ∧
      ofSettings Exclusion.compile .empty settings = .ok (some plan) ∧
      (plan.run tree library).declarations = (plan.run tree {}).declarations ∧
      (plan.run tree library).failure = (plan.run tree {}).failure ∧
      (plan.run tree library).failure = some (.rootMissing gone) := by
  intro gone settings tree library
  obtain ⟨isExcluded, valid⟩ :
      ∃ isExcluded, Exclusion.compile settings.exclusions = .ok isExcluded := ⟨_, rfl⟩
  have named : settings.sourcePaths ≠ [] ∨ settings.sourceModules ≠ [] := by simp [settings]
  obtain ⟨plan, planned, inOrder⟩ := ofSettings_runsInOrder .empty valid named
  have parts : ∀ other, SourcePart.inOrder settings isExcluded tree other =
      [] ++ .missing gone :: [SourcePart.ofModule other "m"] := fun _ => rfl
  have same := inOrder.laterIrrelevant tree library tree {} [] (.missing gone) _ _
    (parts library) (parts {}) ⟨_, List.mem_singleton_self _⟩
  have shown : (plan.run tree library).Shows (List.map .ok [] ++ .error (.rootMissing gone) ::
      [SourcePart.ofModule library "m"].flatMap (SourcePart.findings .empty settings.marker)) :=
    inOrder.shows tree library
  exact ⟨isExcluded, plan, valid, named, planned, same.1, same.2, shown.of_failure.2⟩

end SourcePlan

end TaggedCatalog
