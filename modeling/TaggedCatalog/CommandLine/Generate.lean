import TaggedCatalog.CommandLine.Outcome
import TaggedCatalog.Discovery.SourcePlan
import TaggedCatalog.Generation
import TaggedCatalog.Text.Utf8

/-! # The command that renders the catalog

The command settles its settings, collects all declarations, and only then opens
the output. So a run that fails by then leaves no trace of a catalog. Behind that only
writing can fail. -/

namespace TaggedCatalog

/-- What the command is asked for. -/
structure GenerateRequest where
  settings : SettingsArguments := {}
  /-- A configuration file to read in place of a discovered one. -/
  config : Option String := none
  noConfig : Bool := false
deriving DecidableEq, Repr

/-- What a command knows from the options in front of it. -/
structure CommandContext where
  console : Console
  verbosity : Int
  log : LogState
deriving DecidableEq, Repr

namespace Generate

def workingDirectory (tree : FileTree) : PathName := ⟨.single, tree.workingDirectory⟩

def configChoice (tree : FileTree) (request : GenerateRequest) : ConfigChoice :=
  match request.config with
  | some path => .explicit (PathName.ofText path)
  | none => if request.noConfig then .ignore else .discover (workingDirectory tree)

/-- Whether an explicit configuration file has turned out to have no settings. -/
def lacksTable (request : GenerateRequest) (settings : Settings) : Option PathName :=
  request.config.bind fun path =>
    if settings.configFiles.contains (PathName.ofText path) then none
    else some (PathName.ofText path)

/-- The settings of the run. -/
def settle (surroundings : Surroundings) (request : GenerateRequest) :
    Logged (Except Stop Settings) :=
  if request.config.isSome && request.noConfig then
    .pure (.error (.failed .configConflict))
  else
    let loaded := SettingsFile.loadMerged surroundings.reader surroundings.tree
      (configChoice surroundings.tree request)
    let settled : Except Stop Settings :=
      match loaded.value with
      | .error failure => .error (.unhandled (.settings failure))
      | .ok layer =>
          let settings := (layer.applyArguments request.settings).settle
          match lacksTable request settings with
          | some path =>
              .error (.failed ⟨.configuration, "No [tool.cmdcatalog] table in " ++ path.text⟩)
          | none => .ok settings
    ⟨settled, loaded.records⟩

/-- The declarations that the settings lead to. -/
def collect (surroundings : Surroundings) (settings : Settings) :
    Logged (Except Stop (List Declaration)) :=
  match SourcePlan.ofSettings surroundings.compile surroundings.lookup settings with
  | .error problem => .pure (.error (.unhandled (.exclusion problem)))
  | .ok none => .pure (.error (.failed .nothingToScan))
  | .ok (some plan) =>
      let outcome := plan.run surroundings.tree surroundings.library
      match outcome.failure with
      | none => ⟨.ok outcome.declarations, outcome.records⟩
      | some (.exited exit) => ⟨.error (.unhandled (.exited exit)), outcome.records⟩
      | some failure =>
          let record : Record :=
            match failure.kind with
            | .unexpected => ⟨.error, "Unexpected failure while collecting declarations"⟩
            | _ => ⟨.error, "Declaration source failed: " ++ failure.message⟩
          ⟨.error (.failed (.ofSource failure)), outcome.records ++ [record]⟩

/-- A catalog that has been delivered, on standard output or in a file, up to the part that
could not be written, if there is one. -/
structure Delivery where
  out : String
  tree : FileTree
  catalog : Catalog
  refused : Option CodeText

/-- Renders the catalog to its output. -/
def deliver (surroundings : Surroundings) (settings : Settings)
    (declarations : List Declaration) : Logged (Except Stop Delivery) :=
  let generation := Generation.run settings.packageStart settings.format declarations
  let transcript := Transcript.ofSteps generation.steps
  let records :=
    Generation.openingRecords generation.catalog settings.format ++ transcript.records
  if settings.output = standardOutput then
    ⟨.ok ⟨transcript.text, surroundings.tree, generation.catalog, transcript.refused⟩, records⟩
  else
    match surroundings.tree.writeAt settings.output (Text.encodeUtf8 transcript.text) with
    | .ok tree => ⟨.ok ⟨"", tree, generation.catalog, transcript.refused⟩, records⟩
    | .error .nullCharacter => .pure (.error (.unhandled (.output settings.output)))
    | .error problem =>
        let message := "Cannot write catalog to " ++ settings.output ++ ": " ++
          problem.message settings.output
        ⟨.error (.failed ⟨.access, message⟩), [⟨.error, message⟩]⟩

/-- What is said about a catalog on standard error. -/
def report (context : CommandContext) (settings : Settings) (catalog : Catalog) : Written :=
  let verbosity := if settings.verbosity = 0 then context.verbosity else settings.verbosity
  let warning : Written :=
    if catalog.isEmpty && verbosity ≥ 0 then
      context.console.warn "No tagged command classes found."
    else {}
  let summary : Written :=
    if verbosity > 0 then
      context.console.note (context.console.styled { bold := some true }
        ("Rendered " ++ toString catalog.entries.length ++ " command(s) in " ++
          toString catalog.groups.length ++ " group(s) as " ++ settings.format.name ++ "."))
    else {}
  warning ++ summary

/-- Settings, declarations and delivery, each only if the one before has gone well. -/
def steps (surroundings : Surroundings) (request : GenerateRequest) :
    Logged (Except Stop (Settings × Delivery)) := do
  match ← settle surroundings request with
  | .error stop => return .error stop
  | .ok settings =>
      match ← collect surroundings settings with
      | .error stop => return .error stop
      | .ok declarations =>
          match ← deliver surroundings settings declarations with
          | .error stop => return .error stop
          | .ok delivery => return .ok (settings, delivery)

def run (surroundings : Surroundings) (context : CommandContext) (request : GenerateRequest) :
    RunOutcome :=
  let result := steps surroundings request
  let logged := context.log.lines result.records
  match result.value with
  | .error stop => .stopped surroundings.tree logged stop
  | .ok (settings, delivery) =>
      let written : Written := { out := delivery.out, err := logged }
      match delivery.refused with
      | none => .done delivery.tree (written ++ report context settings delivery.catalog)
      | some bit => .brokenOff delivery.tree written bit

end Generate

end TaggedCatalog
