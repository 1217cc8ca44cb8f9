import TaggedCatalog.ModuleName
import TaggedCatalog.Proofs.Discovery.Findings
import TaggedCatalog.Proofs.Discovery.MarkerReading
import TaggedCatalog.Proofs.Text.Splitting

/-! # Classes inside classes

Of all class definitions in a module, reading it visits those that stand in nothing but
other classes, each before the ones inside it, up to the first marker that cannot be
read. Statements that define no class might as well be others. -/

namespace TaggedCatalog

namespace Source

namespace Stmt

def className? : Stmt → Option String
  | classDef name _ _ => some name
  | _ => none

def isClass (statement : Stmt) : Bool := statement.className?.isSome

end Stmt

/-- A class definition, with the statements that it stands in, the outermost first. -/
structure ClassNode where
  enclosing : List Stmt
  name : String
  decorators : List Expr
  body : List Stmt

namespace ClassNode

mutual

/-- All class definitions in a body, at any depth and in any kind of statement, each
before the ones inside it. -/
def ofBody (enclosing : List Stmt) : List Stmt → List ClassNode
  | [] => []
  | statement :: rest => ofStatement enclosing statement ++ ofBody enclosing rest

def ofStatement (enclosing : List Stmt) : Stmt → List ClassNode
  | .classDef name decorators body =>
      ⟨enclosing, name, decorators, body⟩ ::
        ofBody (enclosing ++ [.classDef name decorators body]) body
  | .compound body => ofBody (enclosing ++ [.compound body]) body
  | .expression _ => []
  | .other => []

end

def isInClassesOnly (node : ClassNode) : Bool := node.enclosing.all Stmt.isClass

/-- The definitions of a module that stand in nothing but classes. -/
def nested (body : List Stmt) : List ClassNode := (ofBody [] body).filter isInClassesOnly

/-- The names that lead from the module to the class. -/
def path (node : ClassNode) : List String :=
  node.enclosing.filterMap Stmt.className? ++ [node.name]

example :
    (nested [.compound [.classDef "A" [] []],
      .classDef "B" [] [.other, .classDef "C" [] [.compound [.classDef "D" [] []]]]]).map path =
      [["B"], ["B", "C"]] := by decide

mutual

theorem isPrefix_of_mem_ofBody {enclosing : List Stmt} {node : ClassNode} :
    (body : List Stmt) → node ∈ ofBody enclosing body → enclosing <+: node.enclosing
  | [], member => by
      rw [ofBody] at member
      cases member
  | statement :: rest, member => by
      rw [ofBody, List.mem_append] at member
      rcases member with inStatement | inRest
      · exact isPrefix_of_mem_ofStatement statement inStatement
      · exact isPrefix_of_mem_ofBody rest inRest

theorem isPrefix_of_mem_ofStatement {enclosing : List Stmt} {node : ClassNode} :
    (statement : Stmt) → node ∈ ofStatement enclosing statement → enclosing <+: node.enclosing
  | .classDef name decorators body, member => by
      rw [ofStatement, List.mem_cons] at member
      rcases member with rfl | inBody
      · exact List.prefix_rfl
      · exact (List.prefix_append _ _).trans (isPrefix_of_mem_ofBody body inBody)
  | .compound body, member => by
      rw [ofStatement] at member
      exact (List.prefix_append _ _).trans (isPrefix_of_mem_ofBody body member)
  | .expression _, member => by
      rw [ofStatement] at member
      cases member
  | .other, member => by
      rw [ofStatement] at member
      cases member

end

/-- Nothing in a compound statement stands in nothing but classes. -/
theorem filter_ofBody_compound (enclosing body inner : List Stmt) :
    (ofBody (enclosing ++ [.compound body]) inner).filter isInClassesOnly = [] := by
  rw [List.filter_eq_nil_iff]
  intro node member inClasses
  have inside : Stmt.compound body ∈ node.enclosing :=
    (isPrefix_of_mem_ofBody inner member).subset (by simp)
  have isClass := List.all_eq_true.mp inClasses _ inside
  cases isClass

end ClassNode

end Source

namespace ClassWalk

open Source

/-! ## What the classes declare -/

/-- The name of a module as the start of a path. A module may have none. -/
def moduleWords (moduleName : String) : List String := if moduleName = "" then [] else [moduleName]

def markerError? (place : Place) (node : ClassNode) : Option SourceFailure :=
  match markerOf place node.name node.decorators with
  | .error failure => some failure
  | .ok _ => none

def declaration (place : Place) (moduleName : String) (node : ClassNode) : Declaration where
  qualifiedName := ModuleName.dotted (moduleWords moduleName ++ node.path)
  packageName := place.packageName
  sourceFile := place.path.text
  doc := documentation node.body
  marker := (markerOf place node.name node.decorators).toOption.join

def finding (place : Place) (moduleName : String) (node : ClassNode) : Finding :=
  match markerError? place node with
  | some failure => .error failure
  | none => .ok (declaration place moduleName node)

theorem packageName_of_finding {place : Place} {moduleName : String} {node : ClassNode}
    {declared : Declaration} (found : finding place moduleName node = .ok declared) :
    declared.packageName = place.packageName := by
  rw [finding] at found
  split at found
  · cases found
  · cases found
    rfl

/-- What stands before a name in a scope that the given names lead to. -/
def scopeOf (names : List String) : String := String.join (names.map (· ++ "."))

theorem scopeOf_concat (names : List String) (name : String) :
    scopeOf (names ++ [name]) = scopeOf names ++ name ++ "." := by
  simp [scopeOf, String.join_append, String.join_cons, String.join_nil, String.append_assoc]

theorem scopeOf_moduleWords (moduleName : String) :
    scopeOf (moduleWords moduleName) = moduleScope moduleName := by
  by_cases unnamed : moduleName = ""
  · simp [moduleWords, moduleScope, unnamed, scopeOf, String.join_nil]
  · simp [moduleWords, moduleScope, unnamed, scopeOf, String.join_cons, String.join_nil]

theorem scopeOf_append_name (names : List String) (name : String) :
    scopeOf names ++ name = ModuleName.dotted (names ++ [name]) := by
  rw [ModuleName.dotted, Text.joinStrings_eq_intercalate]
  induction names with
  | nil => simp [scopeOf, String.join_nil]
  | cons first names induction =>
      have split : scopeOf (first :: names) = first ++ "." ++ scopeOf names := String.join_cons
      rw [List.cons_append, String.intercalate_cons_of_ne_nil (by simp), ← induction, split,
        String.append_assoc]

theorem declare_eq_finding (place : Place) (moduleName : String) (node : ClassNode) :
    declare place (scopeOf (moduleWords moduleName ++ node.enclosing.filterMap Stmt.className?))
        node.name node.decorators node.body = finding place moduleName node := by
  simp only [declare, scopeOf_append_name, finding, markerError?, declaration, ClassNode.path,
    List.append_assoc]
  cases markerOf place node.name node.decorators <;> rfl

mutual

/-- The findings in a body are those of the classes that stand in nothing but classes. -/
theorem bodyFindings_eq_map (place : Place) (moduleName : String) {enclosing : List Stmt}
    (inClasses : enclosing.all Stmt.isClass = true) :
    (body : List Stmt) →
      bodyFindings place
          (scopeOf (moduleWords moduleName ++ enclosing.filterMap Stmt.className?)) body =
        ((ClassNode.ofBody enclosing body).filter ClassNode.isInClassesOnly).map
          (finding place moduleName)
  | [] => by rw [bodyFindings, ClassNode.ofBody, List.filter_nil, List.map_nil]
  | statement :: rest => by
      rw [bodyFindings, ClassNode.ofBody, List.filter_append, List.map_append,
        statementFindings_eq_map place moduleName inClasses statement,
        bodyFindings_eq_map place moduleName inClasses rest]

theorem statementFindings_eq_map (place : Place) (moduleName : String) {enclosing : List Stmt}
    (inClasses : enclosing.all Stmt.isClass = true) :
    (statement : Stmt) →
      statementFindings place
          (scopeOf (moduleWords moduleName ++ enclosing.filterMap Stmt.className?)) statement =
        ((ClassNode.ofStatement enclosing statement).filter ClassNode.isInClassesOnly).map
          (finding place moduleName)
  | .classDef name decorators body => by
      -- Inside the class the scope has its name at the end, and it is one more class around.
      have isVisited : ClassNode.isInClassesOnly ⟨enclosing, name, decorators, body⟩ = true :=
        inClasses
      have deeper :
          (enclosing ++ [Stmt.classDef name decorators body]).all Stmt.isClass = true := by
        rw [List.all_append, inClasses]
        rfl
      have inside := bodyFindings_eq_map place moduleName deeper body
      rw [List.filterMap_append, ← List.append_assoc] at inside
      change bodyFindings place (scopeOf (_ ++ [name])) body = _ at inside
      rw [scopeOf_concat] at inside
      rw [statementFindings, ClassNode.ofStatement, List.filter_cons_of_pos isVisited,
        List.map_cons, inside]
      have own := declare_eq_finding place moduleName ⟨enclosing, name, decorators, body⟩
      exact congrArg (· :: _) own
  | .compound body => by
      rw [ClassNode.ofStatement, ClassNode.filter_ofBody_compound, statementFindings] <;> simp
  | .expression value => by
      rw [ClassNode.ofStatement, statementFindings] <;> simp
  | .other => by
      rw [ClassNode.ofStatement, statementFindings] <;> simp

end

theorem bodyFindings_module (place : Place) (moduleName : String) (body : List Stmt) :
    bodyFindings place (moduleScope moduleName) body =
      (ClassNode.nested body).map (finding place moduleName) := by
  have findings := bodyFindings_eq_map place moduleName List.all_nil body
  rw [List.filterMap_nil, List.append_nil, scopeOf_moduleWords] at findings
  exact findings

theorem shows_nested (place : Place) (moduleName : String) (body : List Stmt) :
    (walkBody place (moduleScope moduleName) body).Shows
      ((ClassNode.nested body).map (finding place moduleName)) := by
  rw [← bodyFindings_module]
  exact shows_walkBody place _ body

theorem map_finding {place : Place} {nodes : List ClassNode} (moduleName : String)
    (readable : ∀ node ∈ nodes, markerError? place node = none) :
    nodes.map (finding place moduleName) = (nodes.map (declaration place moduleName)).map .ok := by
  rw [List.map_map]
  apply List.map_congr_left
  intro node member
  rw [finding, readable node member]
  rfl

/-! ## Statements that do not count -/

/-- A body in which one statement has been replaced, both it and the new one being no
class definitions, either in the body itself or in a class at any depth. The flag says
whether it may be the first of the body, as it may not in a class, whose documentation
stands there. -/
inductive Replaced : Bool → List Stmt → List Stmt → Prop
  | first {old new : Stmt} (rest : List Stmt) (isOld : old.isClass = false)
      (isNew : new.isClass = false) : Replaced true (old :: rest) (new :: rest)
  | later {mayBeFirst : Bool} (first : Stmt) {rest newRest : List Stmt}
      (replaced : Replaced true rest newRest) :
      Replaced mayBeFirst (first :: rest) (first :: newRest)
  | inside {mayBeFirst : Bool} (name : String) (decorators : List Expr) (rest : List Stmt)
      {body newBody : List Stmt} (replaced : Replaced false body newBody) :
      Replaced mayBeFirst (.classDef name decorators body :: rest)
        (.classDef name decorators newBody :: rest)

theorem walkStatement_of_not_isClass (place : Place) (scope : String) {statement : Stmt}
    (plain : statement.isClass = false) : walkStatement place scope statement = .empty := by
  cases statement with
  | classDef => cases plain
  | _ => simp [walkStatement]

theorem documentation_cons (first : Stmt) (rest others : List Stmt) :
    documentation (first :: rest) = documentation (first :: others) := by
  cases first with
  | expression value => cases value <;> rfl
  | _ => rfl

theorem documentation_of_replaced {body newBody : List Stmt}
    (replaced : Replaced false body newBody) : documentation newBody = documentation body := by
  cases replaced with
  | later first => exact documentation_cons first _ _
  | inside => rfl

theorem walkBody_of_replaced (place : Place) {mayBeFirst : Bool} {body newBody : List Stmt}
    (replaced : Replaced mayBeFirst body newBody) (scope : String) :
    walkBody place scope newBody = walkBody place scope body := by
  induction replaced generalizing scope with
  | first rest isOld isNew =>
      rw [walkBody, walkBody, walkStatement_of_not_isClass place scope isOld,
        walkStatement_of_not_isClass place scope isNew]
  | later first _ induction => rw [walkBody, walkBody, induction]
  | inside name decorators rest replaced induction =>
      -- The class itself is declared as before, since its first statement has stayed.
      rw [walkBody, walkBody, walkStatement, walkStatement, declare, declare,
        documentation_of_replaced replaced, induction]

/-- Reading a body visits the given classes one after the other. -/
structure Visits (place : Place) (moduleName : String) (body : List Stmt)
    (nodes : List ClassNode) : Prop where
  /-- All of them are declared if every marker can be read. -/
  whole : (∀ node ∈ nodes, markerError? place node = none) →
    (walkBody place (moduleScope moduleName) body).declarations =
        nodes.map (declaration place moduleName) ∧
      (walkBody place (moduleScope moduleName) body).failure = none
  /-- The first marker that cannot be read ends the walk, with the classes before it. -/
  stopped : ∀ before node after failure, nodes = before ++ node :: after →
    (∀ earlier ∈ before, markerError? place earlier = none) →
    markerError? place node = some failure →
    (walkBody place (moduleScope moduleName) body).declarations =
        before.map (declaration place moduleName) ∧
      (walkBody place (moduleScope moduleName) body).failure = some failure ∧
      failure.kind = .parse
  othersIrrelevant : ∀ newBody, Replaced true body newBody →
    walkBody place (moduleScope moduleName) newBody = walkBody place (moduleScope moduleName) body

theorem walkBody_visits_nested (place : Place) (moduleName : String) (body : List Stmt) :
    Visits place moduleName body (ClassNode.nested body) where
  whole := by
    intro readable
    have shown := shows_nested place moduleName body
    rw [map_finding moduleName readable] at shown
    exact shown.of_declarations
  stopped := by
    intro before node after failure split readable failed
    have shown := shows_nested place moduleName body
    have found : finding place moduleName node = .error failure := by rw [finding, failed]
    rw [split, List.map_append, List.map_cons, map_finding moduleName readable, found] at shown
    refine ⟨shown.of_failure.1, shown.of_failure.2, ?_⟩
    rw [markerError?] at failed
    split at failed
    case h_1 unread =>
      cases failed
      exact (markerOf_eq_error unread).1
    case h_2 => cases failed
  othersIrrelevant := fun newBody replaced => walkBody_of_replaced place replaced _

/-- A marker without a name stops the walk at its class, but not where the class stands
in a compound statement, which might as well not be there. -/
theorem walkBody_marker_without_name :
    let unnamed : Expr := .call 4 (.name 4 "command") [] []
    let place : Place := ⟨⟨.relative, ["shop.py"]⟩, "", "command"⟩
    let shop : Stmt := .classDef "Shop" [] [.other, .classDef "Pay" [] []]
    let bad : ClassNode := ⟨[], "Bad", [unnamed], [.classDef "Inner" [] []]⟩
    let rest : List Stmt := [shop, .classDef bad.name bad.decorators bad.body]
    let body : List Stmt := .compound [.classDef "Hidden" [unnamed] []] :: rest
    let visited := walkBody place (moduleScope "shop") body
    ∃ failure, markerError? place bad = some failure ∧
      visited.declarations.map (·.qualifiedName) = ["shop.Shop", "shop.Shop.Pay"] ∧
      visited.failure = some failure ∧
      walkBody place (moduleScope "shop") (.other :: rest) = visited := by
  intro unnamed place shop bad rest body visited
  have visits := walkBody_visits_nested place "shop" body
  have nested : ClassNode.nested body =
      [⟨[], "Shop", [], [.other, .classDef "Pay" [] []]⟩, ⟨[shop], "Pay", [], []⟩] ++
        bad :: [⟨[.classDef bad.name bad.decorators bad.body], "Inner", [], []⟩] := rfl
  have failed : ∃ failure, markerError? place bad = some failure := ⟨_, rfl⟩
  rcases failed with ⟨failure, isFailure⟩
  have stopped := visits.stopped _ bad _ failure nested (by decide) isFailure
  have replaced : Replaced true body (.other :: rest) := .first rest rfl rfl
  refine ⟨failure, isFailure, ?_, stopped.2.1, visits.othersIrrelevant _ replaced⟩
  rw [stopped.1]
  decide +kernel

end ClassWalk

end TaggedCatalog
