import TaggedCatalog.Discovery.ModuleObject
import TaggedCatalog.Discovery.Outcome
import TaggedCatalog.Text.DocString

/-! # Inspecting modules

A module declares the classes that are reached from it by their own names: a
class counts where its module is the inspected one and its path of names is that
of the namespace it is found in. Each class counts once, before the classes
inside it; other bindings of it are aliases. -/

namespace TaggedCatalog

/-- All classes, by their numbers. -/
abbrev ClassTable := List ClassObject

namespace ModuleInspection

/-- The numbers of a table that have not been seen. -/
def unseen (size : Nat) (seen : List Nat) : List Nat :=
  (List.range size).filter fun index => !seen.contains index

theorem length_unseen_lt {size index : Nat} {seen : List Nat} (inTable : index < size)
    (isNew : seen.contains index = false) :
    (unseen size (index :: seen)).length < (unseen size seen).length := by
  have narrower : unseen size (index :: seen) = (unseen size seen).filter (· != index) := by
    simp only [unseen, List.filter_filter]
    apply List.filter_congr
    intro other _
    rw [List.contains_cons, Bool.not_or]
    rfl
  rw [narrower, List.length_filter_lt_length_iff_exists]
  refine ⟨index, ?_, by simp⟩
  simp only [unseen, List.mem_filter, List.mem_range, isNew, Bool.not_false, and_true]
  exact inTable

/-- A class waiting to be looked at, and what stands before the names of the
namespace that it was found in. -/
structure Visit where
  index : Nat
  scope : String

def visits (scope : String) (space : Namespace) : List Visit :=
  space.classes.map fun index => ⟨index, scope⟩

/-- Whether a class belongs where it was found. -/
def belongs (module : ModuleObject) (scope : String) (object : ClassObject) : Bool :=
  object.moduleName == module.name && object.qualifiedName == scope ++ object.name

def documentation : ClassDoc → Except SourceFailure CodeText
  | .text value => .ok (if value.isEmpty then [] else Text.cleanDoc value)
  | .absent => .ok []
  | .notText kind => .error (.docNotText kind)

def declare (module : ModuleObject) (object : ClassObject) : Except SourceFailure Declaration :=
  (documentation object.doc).map fun doc =>
    { qualifiedName := module.name ++ "." ++ object.qualifiedName
      packageName := module.packageName
      sourceFile := module.file
      doc
      marker := object.marker }

/-- Looks at the waiting classes in turn. A class that counts puts its own
classes in front of those that wait. -/
def walk (table : ClassTable) (module : ModuleObject) (seen : List Nat) :
    List Visit → SourceOutcome
  | [] => .empty
  | visit :: rest =>
      if inTable : visit.index < table.length then
        let object := table.get ⟨visit.index, inTable⟩
        if _ : seen.contains visit.index = false then
          if belongs module visit.scope object then
            match declare module object with
            | .error failure => .fail failure
            | .ok declaration =>
                (SourceOutcome.yield declaration).andThen
                  (walk table module (visit.index :: seen)
                    (visits (object.qualifiedName ++ ".") object.members ++ rest))
          else walk table module seen rest
        else walk table module seen rest
      else walk table module seen rest
termination_by work => ((unseen table.length seen).length, work.length)
decreasing_by
  · exact Prod.Lex.left _ _ (length_unseen_lt inTable ‹_›)
  all_goals exact Prod.Lex.right _ (by simp)

/-- The declarations of a module. -/
def inspect (table : ClassTable) (module : ModuleObject) : SourceOutcome :=
  walk table module [] (visits "" module.members)

/-- Why a name does not become a module. -/
inductive ImportProblem where
  | failed (reason : String)
  /-- The module ends the run. -/
  | exited (exit : ImportExit)
deriving DecidableEq, Repr

def ImportProblem.failure (name : String) : ImportProblem → SourceFailure
  | failed reason => .notImportable name reason
  | exited exit => .exited exit

/-- How a name becomes a module, or why it does not. -/
abbrev Importer := String → Except ImportProblem ModuleObject

def inspectNamed (table : ClassTable) (importer : Importer) (name : String) : SourceOutcome :=
  match importer name with
  | .error problem => .fail (problem.failure name)
  | .ok module =>
      (SourceOutcome.log .debug ("Inspecting module " ++ module.name)).andThen
        (inspect table module)

/-- The declarations of modules, one after the other. -/
def run (table : ClassTable) (importer : Importer) (names : List String) : SourceOutcome :=
  .sequence (names.map (inspectNamed table importer))

end ModuleInspection

end TaggedCatalog
