import Mathlib.Data.List.Nodup
import TaggedCatalog.Discovery.ClassWalk
import TaggedCatalog.Discovery.ModuleInspection

/-! # Class definitions, written and loaded

The class definitions of a module form a forest. It can be met in two forms: as the
statements of a module that is read, and as the objects of a module that has been
imported. Either form has other things in between that define no class. -/

namespace TaggedCatalog

/-- What a class definition says about its class. A name is a single word, without
the dots that join words to paths. -/
structure ClassHead where
  name : String
  doc : Option CodeText := none
  marker : Option Marker := none
  undotted : '.' ∉ name.toList := by decide
deriving DecidableEq, Repr

namespace ClassHead

/-- The documentation of the class, as a declaration has it. -/
def docText (head : ClassHead) : CodeText := (head.doc.map Text.cleanDoc).getD []

/-- The documentation of the class, as its object has it. -/
def classDoc (head : ClassHead) : ClassDoc :=
  match head.doc with
  | none => .absent
  | some text => .text text

/-- The declaration of the class. The scope is what stands before its name. -/
def declaration (head : ClassHead) (package file scope : String) : Declaration where
  qualifiedName := scope ++ head.name
  packageName := package
  sourceFile := file
  doc := head.docText
  marker := head.marker

/-- The object of the class. -/
def object (head : ClassHead) (moduleName scope : String) (members : Namespace) : ClassObject where
  name := head.name
  moduleName := moduleName
  qualifiedName := scope ++ head.name
  doc := head.classDoc
  marker := head.marker
  members := members

end ClassHead

/-- Class definitions one after the other, each with the definitions inside it. -/
inductive ClassForest where
  | nil
  | cons (head : ClassHead) (inner rest : ClassForest)
deriving DecidableEq, Repr

namespace ClassForest

/-- The declarations of the classes, each before those inside it. -/
def declarations (package file : String) : String → ClassForest → List Declaration
  | _, .nil => []
  | scope, .cons head inner rest =>
      head.declaration package file scope ::
        (inner.declarations package file (scope ++ head.name ++ ".") ++
          rest.declarations package file scope)

/-- The source file does not show elsewhere in the declarations. -/
theorem map_sourceFile_declarations (package file other scope : String) (forest : ClassForest) :
    (forest.declarations package file scope).map
        (fun declaration => { declaration with sourceFile := other }) =
      forest.declarations package other scope := by
  induction forest generalizing scope with
  | nil => rfl
  | cons head inner rest innerInduction restInduction =>
      simp only [declarations, List.map_cons, List.map_append, innerInduction, restInduction,
        ClassHead.declaration]

/-- The names of the outermost classes. -/
def names : ClassForest → List String
  | .nil => []
  | .cons head _ rest => head.name :: rest.names

/-- Whether the names of classes that stand in one body differ, at every depth. -/
def NamesDiffer : ClassForest → Prop
  | .nil => True
  | .cons head inner rest => head.name ∉ rest.names ∧ inner.NamesDiffer ∧ rest.NamesDiffer

end ClassForest

/-! ## Written classes -/

section Written

open Source

/-- The ways to write a marker as arguments of a call, all of them plain texts. -/
inductive Spelled : Marker → List Expr → List (Option String × Expr) → Prop
  | name (line : Nat) (name : CodeText) : Spelled { name } [.text line name] []
  | nameAndOptions (line next : Nat) (name options : CodeText) :
      Spelled { name, options } [.text line name, .text next options] []
  | namedOptions (line next : Nat) (name options : CodeText) :
      Spelled { name, options } [.text line name] [(some "options", .text next options)]
  | namedName (line : Nat) (name : CodeText) : Spelled { name } [] [(some "name", .text line name)]
  | bothNamed (line next : Nat) (name options : CodeText) :
      Spelled { name, options } []
        [(some "name", .text line name), (some "options", .text next options)]
  | bothNamedReversed (line next : Nat) (name options : CodeText) :
      Spelled { name, options } []
        [(some "options", .text line options), (some "name", .text next name)]

/-- Decorators that tag a class, or do not. The first call of the marker counts. -/
inductive Tagged (word : String) : Option Marker → List Expr → Prop
  | untagged {decorators : List Expr}
      (others : ∀ decorator ∈ decorators, ClassWalk.markerCall? word decorator = none) :
      Tagged word none decorators
  | tagged {before after : List Expr} {marker : Marker} {line : Nat} {function : Expr}
      {positional : List Expr} {named : List (Option String × Expr)}
      (others : ∀ decorator ∈ before, ClassWalk.markerCall? word decorator = none)
      (called : ClassWalk.calledName? function = some word)
      (spelled : Spelled marker positional named) :
      Tagged word (some marker) (before ++ .call line function positional named :: after)

/-- The statement that documents a class, if there is one. -/
inductive Documented : Option CodeText → List Stmt → Prop
  | undocumented : Documented none []
  | documented (line : Nat) (text : CodeText) :
      Documented (some text) [.expression (.text line text)]

/-- Whether a statement neither defines a class nor could document one. -/
def isNeutral : Stmt → Bool
  | .classDef _ _ _ => false
  | .expression (.text _ _) => false
  | _ => true

/-- The statements of a body that define the classes of a forest, with neutral
statements in between. The documentation of a class comes first in its body. -/
inductive WrittenIn (word : String) : ClassForest → List Stmt → Prop
  | done : WrittenIn word .nil []
  | skip {forest : ClassForest} {statement : Stmt} {body : List Stmt}
      (neutral : isNeutral statement = true) (after : WrittenIn word forest body) :
      WrittenIn word forest (statement :: body)
  | define {head : ClassHead} {inner rest : ClassForest} {decorators : List Expr}
      {docs innerBody body : List Stmt}
      (tagged : Tagged word head.marker decorators) (documented : Documented head.doc docs)
      (inside : WrittenIn word inner innerBody) (after : WrittenIn word rest body) :
      WrittenIn word (.cons head inner rest)
        (.classDef head.name decorators (docs ++ innerBody) :: body)

end Written

/-! ## Loaded classes -/

/-- A namespace that holds the classes of a forest in their order, with other values
in between. The numbers are those of all classes of the forest, each before those
inside it. -/
inductive HeldIn (table : ClassTable) (moduleName : String) :
    String → ClassForest → Namespace → List Nat → Prop
  | done (scope : String) : HeldIn table moduleName scope .nil [] []
  | skip {scope : String} {forest : ClassForest} {space : Namespace} {numbers : List Nat}
      (key : String) (after : HeldIn table moduleName scope forest space numbers) :
      HeldIn table moduleName scope forest ((key, .other) :: space) numbers
  | define {scope : String} {head : ClassHead} {inner rest : ClassForest}
      {members space : Namespace} {number : Nat} {innerNumbers numbers : List Nat} (key : String)
      (object : table[number]? = some (head.object moduleName scope members))
      (inside : HeldIn table moduleName (scope ++ head.name ++ ".") inner members innerNumbers)
      (after : HeldIn table moduleName scope rest space numbers) :
      HeldIn table moduleName scope (.cons head inner rest) ((key, .classAt number) :: space)
        (number :: innerNumbers ++ numbers)

/-- Whether a module holds the classes of a forest. -/
def ModuleObject.Holds (table : ClassTable) (module : ModuleObject) (forest : ClassForest) : Prop :=
  ∃ numbers, HeldIn table module.name "" forest module.members numbers

/-! ## Paths of names

Where the names in each body differ, the paths of any two classes do too, so no
object stands for two of them. -/

/-- The first name of a path. -/
def firstName (path : String) : String := String.ofList (path.toList.takeWhile (· != '.'))

namespace ClassHead

theorem firstName_append (head : ClassHead) (path : String) :
    firstName (head.name ++ path) = head.name ++ firstName path := by
  have undotted : ∀ letter ∈ head.name.toList, (letter != '.') = true := by
    intro letter member
    rw [bne_iff_ne]
    intro dot
    exact head.undotted (dot ▸ member)
  rw [firstName, String.toList_append, List.takeWhile_append_of_pos undotted, String.ofList_append,
    String.ofList_toList, firstName]

theorem firstName_name (head : ClassHead) : firstName head.name = head.name := by
  simpa [firstName] using head.firstName_append ""

theorem firstName_inside (head : ClassHead) (path : String) :
    firstName (head.name ++ ("." ++ path)) = head.name := by
  rw [firstName_append]
  simp [firstName]

end ClassHead

namespace HeldIn

variable {table : ClassTable} {moduleName scope : String} {forest : ClassForest}
  {space : Namespace} {numbers : List Nat}

/-- The path of a class leads through one of the outermost classes. -/
theorem path_of_mem (held : HeldIn table moduleName scope forest space numbers) :
    ∀ number ∈ numbers, ∃ object path, table[number]? = some object ∧
      object.qualifiedName = scope ++ path ∧ firstName path ∈ forest.names := by
  induction held with
  | done scope => simp
  | skip key _ induction => exact induction
  | @define scope head inner rest members space number innerNumbers numbers key object _ _
      innerInduction restInduction =>
      intro other member
      rcases List.mem_append.mp member with member | member
      · rcases List.mem_cons.mp member with rfl | member
        · exact ⟨_, head.name, object, rfl, by simp [head.firstName_name, ClassForest.names]⟩
        · obtain ⟨found, path, atOther, qualified, -⟩ := innerInduction other member
          refine ⟨found, head.name ++ ("." ++ path), atOther, ?_, ?_⟩
          · rw [qualified]
            simp only [String.append_assoc]
          · simp [head.firstName_inside, ClassForest.names]
      · obtain ⟨found, path, atOther, qualified, first⟩ := restInduction other member
        exact ⟨found, path, atOther, qualified, List.mem_cons_of_mem _ first⟩

/-- Where the names in each body differ, every class is an object of its own. -/
theorem nodup (held : HeldIn table moduleName scope forest space numbers)
    (differ : forest.NamesDiffer) : numbers.Nodup := by
  induction held with
  | done scope => exact List.nodup_nil
  | skip key _ induction => exact induction differ
  | @define scope head inner rest members space number innerNumbers numbers key object inside after
      innerInduction restInduction =>
      obtain ⟨headDiffers, innerDiffer, restDiffer⟩ := differ
      -- An object found inside the class would have to have a longer path.
      have headNew : number ∉ innerNumbers := by
        intro member
        obtain ⟨found, path, atNumber, qualified, -⟩ := inside.path_of_mem number member
        have same := Option.some.inj (object.symm.trans atNumber)
        rw [← same] at qualified
        have lengths := congrArg String.length qualified
        simp only [ClassHead.object, String.length_append] at lengths
        have dot : ".".length = 1 := by decide
        omega
      have headNodup : (number :: innerNumbers).Nodup :=
        List.nodup_cons.mpr ⟨headNew, innerInduction innerDiffer⟩
      -- The class and those inside it are held alone, too, so their paths start with its name.
      have alone := HeldIn.define key object inside (.done scope)
      have apart : List.Disjoint (number :: innerNumbers) numbers := by
        intro other inHead inRest
        obtain ⟨first, path, atFirst, firstPath, throughHead⟩ :=
          alone.path_of_mem other (List.mem_append_left _ inHead)
        obtain ⟨second, otherPath, atSecond, secondPath, throughRest⟩ :=
          after.path_of_mem other inRest
        have same : first = second := Option.some.inj (atFirst.symm.trans atSecond)
        have samePath : path = otherPath :=
          (String.append_right_inj scope).mp (firstPath.symm.trans (same ▸ secondPath))
        have isHead : firstName path = head.name := List.mem_singleton.mp throughHead
        rw [← samePath, isHead] at throughRest
        exact headDiffers throughRest
      exact headNodup.append (restInduction restDiffer) apart

end HeldIn

end TaggedCatalog
