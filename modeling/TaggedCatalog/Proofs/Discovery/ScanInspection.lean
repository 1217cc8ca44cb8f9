import TaggedCatalog.Proofs.Discovery.ClassForest

/-! # Reading and importing

A module that is read and the same module when it is imported yield the same
declarations. Each of the two walks is compared with the declarations of the
forest of classes, which both have to list. -/

namespace TaggedCatalog

namespace SourceOutcome

@[simp] theorem empty_andThen (outcome : SourceOutcome) : empty.andThen outcome = outcome := rfl

@[simp] theorem yield_andThen (declaration : Declaration) (declarations : List Declaration) :
    (yield declaration).andThen (ofDeclarations declarations) =
      ofDeclarations (declaration :: declarations) := rfl

@[simp] theorem ofDeclarations_andThen (left right : List Declaration) :
    (ofDeclarations left).andThen (ofDeclarations right) = ofDeclarations (left ++ right) := rfl

/-- Declarations in front do not fail, so they join those yielded after them. -/
theorem ofDeclarations_andThen_andThen (left right : List Declaration) (outcome : SourceOutcome) :
    (ofDeclarations left).andThen ((ofDeclarations right).andThen outcome) =
      (ofDeclarations (left ++ right)).andThen outcome := by
  simp [ofDeclarations, andThen, List.append_assoc]

end SourceOutcome

/-! ## Reading -/

namespace ClassWalk

open Source

variable {place : Place}

theorem readMarker_spelled {marker : Marker} {positional : List Expr}
    {named : List (Option String × Expr)} (className : String) (line : Nat)
    (spelled : Spelled marker positional named) :
    readMarker place className ⟨line, positional, named⟩ = .ok marker := by
  cases spelled <;> rfl

theorem markerOf_tagged {marker : Option Marker} {decorators : List Expr} (className : String)
    (tagged : Tagged place.marker marker decorators) :
    markerOf place className decorators = .ok marker := by
  cases tagged with
  | untagged others =>
      have noneFound : findMarkerCall place.marker decorators = none :=
        List.findSome?_eq_none_iff.mpr others
      rw [markerOf, noneFound]
  | @tagged before after marker line function positional named others called spelled =>
      have found :
          findMarkerCall place.marker (before ++ .call line function positional named :: after) =
            some ⟨line, positional, named⟩ := by
        rw [findMarkerCall, List.findSome?_append, List.findSome?_eq_none_iff.mpr others]
        simp [markerCall?, called]
      rw [markerOf, found]
      simp only [readMarker_spelled className line spelled]
      rfl

/-- A body without its documentation does not start with a plain text. -/
theorem documentation_written {word : String} {forest : ClassForest} {body : List Stmt}
    (written : WrittenIn word forest body) : documentation body = [] := by
  cases written with
  | done => rfl
  | skip neutral _ =>
      unfold documentation
      split
      · next equal =>
          cases equal
          cases neutral
      · rfl
  | define _ _ _ _ => rfl

theorem documentation_append {word : String} {head : ClassHead} {forest : ClassForest}
    {docs body : List Stmt} (documented : Documented head.doc docs)
    (written : WrittenIn word forest body) : documentation (docs ++ body) = head.docText := by
  rw [ClassHead.docText]
  generalize head.doc = doc at documented
  cases documented with
  | undocumented => exact documentation_written written
  | documented line text => rfl

theorem declare_written {word : String} {head : ClassHead} {inner : ClassForest}
    {decorators : List Expr} {docs body : List Stmt} (scope : String)
    (tagged : Tagged place.marker head.marker decorators) (documented : Documented head.doc docs)
    (written : WrittenIn word inner body) :
    declare place scope head.name decorators (docs ++ body) =
      .ok (head.declaration place.packageName place.path.text scope) := by
  rw [declare, markerOf_tagged head.name tagged, documentation_append documented written]
  rfl

theorem walkStatement_expression (scope : String) (value : Expr) :
    walkStatement place scope (.expression value) = .empty := by
  simp [walkStatement]

theorem walkStatement_neutral {statement : Stmt} (scope : String)
    (neutral : isNeutral statement = true) : walkStatement place scope statement = .empty := by
  cases statement with
  | classDef => cases neutral
  | expression value => exact walkStatement_expression scope value
  | compound => simp [walkStatement]
  | other => simp [walkStatement]

theorem walkBody_documented {doc : Option CodeText} {docs : List Stmt} (scope : String)
    (body : List Stmt) (documented : Documented doc docs) :
    walkBody place scope (docs ++ body) = walkBody place scope body := by
  cases documented with
  | undocumented => rfl
  | documented line text =>
      rw [List.singleton_append, walkBody, walkStatement_expression, SourceOutcome.empty_andThen]

/-- Reading a body yields the declarations of its classes. -/
theorem walkBody_written {forest : ClassForest} {body : List Stmt} (scope : String)
    (written : WrittenIn place.marker forest body) :
    walkBody place scope body =
      .ofDeclarations (forest.declarations place.packageName place.path.text scope) := by
  induction written generalizing scope with
  | done => rfl
  | skip neutral _ induction =>
      rw [walkBody, walkStatement_neutral scope neutral, SourceOutcome.empty_andThen, induction]
  | define tagged documented inside _ innerInduction restInduction =>
      rw [walkBody, walkStatement, declare_written scope tagged documented inside]
      simp only [walkBody_documented _ _ documented, innerInduction, restInduction,
        SourceOutcome.yield_andThen, SourceOutcome.ofDeclarations_andThen]
      rfl

end ClassWalk

/-! ## Importing -/

namespace ModuleInspection

variable {table : ClassTable} {module : ModuleObject}

theorem visits_class (scope key : String) (number : Nat) (space : Namespace) :
    visits scope ((key, .classAt number) :: space) = ⟨number, scope⟩ :: visits scope space := rfl

theorem documentation_classDoc (head : ClassHead) :
    documentation head.classDoc = .ok head.docText := by
  rw [ClassHead.classDoc, ClassHead.docText]
  cases head.doc with
  | none => rfl
  | some text =>
      cases text with
      | nil => decide
      | cons first others => rfl

theorem declare_object (head : ClassHead) (scope : String) (members : Namespace) :
    declare module (head.object module.name scope members) =
      .ok (head.declaration module.packageName module.file (module.name ++ "." ++ scope)) := by
  rw [declare, ClassHead.object, documentation_classDoc]
  simp [Except.map, ClassHead.declaration, String.append_assoc]

theorem belongs_object (head : ClassHead) (scope : String) (members : Namespace) :
    belongs module scope (head.object module.name scope members) = true := by
  simp [belongs, ClassHead.object]

/-- A class of the module that has not been seen is declared, and its own classes
come next. -/
theorem walk_object {head : ClassHead} {scope : String} {members : Namespace} {number : Nat}
    {seen : List Nat} (rest : List Visit)
    (object : table[number]? = some (head.object module.name scope members))
    (isNew : number ∉ seen) :
    walk table module seen (⟨number, scope⟩ :: rest) =
      (SourceOutcome.yield
          (head.declaration module.packageName module.file (module.name ++ "." ++ scope))).andThen
        (walk table module (number :: seen)
          (visits (scope ++ head.name ++ ".") members ++ rest)) := by
  obtain ⟨inTable, found⟩ := List.getElem?_eq_some_iff.mp object
  have unseen : seen.contains number = false := by simpa using isNew
  rw [walk, dif_pos inTable]
  simp only [List.get_eq_getElem, found, unseen, dif_pos, belongs_object, if_true, declare_object]
  rfl

/-- Walking a namespace that holds unseen classes yields their declarations, and has
then seen all of them. -/
theorem walk_held {scope : String} {forest : ClassForest} {space : Namespace} {numbers : List Nat}
    (held : HeldIn table module.name scope forest space numbers) (nodup : numbers.Nodup)
    (seen : List Nat) (isNew : ∀ number ∈ numbers, number ∉ seen) (rest : List Visit) :
    walk table module seen (visits scope space ++ rest) =
      (SourceOutcome.ofDeclarations
          (forest.declarations module.packageName module.file (module.name ++ "." ++ scope))).andThen
        (walk table module (numbers.reverse ++ seen) rest) := by
  induction held generalizing seen rest with
  | done scope => rfl
  | skip key _ induction => exact induction nodup seen isNew rest
  | @define scope head inner outer members space number innerNumbers numbers key object _ _
      innerInduction restInduction =>
      obtain ⟨headNodup, restNodup, apart⟩ := List.nodup_append'.mp nodup
      obtain ⟨headApart, innerNodup⟩ := List.nodup_cons.mp headNodup
      have headNew : number ∉ seen := isNew number (by simp)
      have innerNew : ∀ other ∈ innerNumbers, other ∉ number :: seen := by
        intro other member known
        rcases List.mem_cons.mp known with rfl | known
        · exact headApart member
        · exact isNew other (by simp [member]) known
      have restNew : ∀ other ∈ numbers, other ∉ innerNumbers.reverse ++ number :: seen := by
        intro other member known
        rcases List.mem_append.mp known with inside | known
        · exact apart (List.mem_cons_of_mem _ (List.mem_reverse.mp inside)) member
        · rcases List.mem_cons.mp known with rfl | known
          · exact apart List.mem_cons_self member
          · exact isNew other (by simp [member]) known
      have scopes : module.name ++ "." ++ (scope ++ head.name ++ ".") =
          module.name ++ "." ++ scope ++ head.name ++ "." := by
        simp only [String.append_assoc]
      have allSeen : numbers.reverse ++ (innerNumbers.reverse ++ number :: seen) =
          (number :: innerNumbers ++ numbers).reverse ++ seen := by
        simp
      rw [visits_class, List.cons_append, walk_object _ object headNew,
        innerInduction innerNodup _ innerNew, restInduction restNodup _ restNew, scopes, allSeen,
        SourceOutcome.ofDeclarations_andThen_andThen]
      exact SourceOutcome.ofDeclarations_andThen_andThen [_] _ _

theorem inspect_holds {forest : ClassForest} (differ : forest.NamesDiffer)
    (holds : module.Holds table forest) :
    inspect table module =
      .ofDeclarations
        (forest.declarations module.packageName module.file (module.name ++ ".")) := by
  obtain ⟨numbers, held⟩ := holds
  have walked := walk_held held (held.nodup differ) [] (by simp) []
  rw [List.append_nil, String.append_empty] at walked
  rw [inspect, walked, walk]
  simp [SourceOutcome.ofDeclarations, SourceOutcome.andThen, SourceOutcome.empty]

/-- Reading a module and importing it yield the same declarations, up to the file
that they name. -/
theorem inspect_eq_read {table : ClassTable} {module : ModuleObject} {forest : ClassForest}
    {place : ClassWalk.Place} {body : List Source.Stmt} (named : module.name ≠ "")
    (samePackage : module.packageName = place.packageName) (differ : forest.NamesDiffer)
    (written : WrittenIn place.marker forest body) (holds : module.Holds table forest) :
    let read := ClassWalk.walkBody place (ClassWalk.moduleScope module.name) body
    let inspected := inspect table module
    read.failure = none ∧ inspected.failure = none ∧
      inspected.declarations =
        read.declarations.map fun declaration =>
          { declaration with sourceFile := module.file } := by
  have scope : ClassWalk.moduleScope module.name = module.name ++ "." := by
    simp [ClassWalk.moduleScope, named]
  intro read inspected
  have readAll : read = .ofDeclarations _ := ClassWalk.walkBody_written _ written
  have inspectedAll : inspected = .ofDeclarations _ := inspect_holds differ holds
  rw [readAll, inspectedAll]
  refine ⟨rfl, rfl, ?_⟩
  simp only [SourceOutcome.ofDeclarations, ClassForest.map_sourceFile_declarations, scope,
    samePackage]

/-- A class may have the name of the class that it stands in. -/
theorem inspect_nested :
    let refund : ClassHead := { name := "Refund", marker := some { name := "refund" } }
    let order : ClassHead :=
      { name := "Order", doc := some "Orders.\n    Two.", marker := some ⟨"order", "-v"⟩ }
    let inner : ClassHead := { name := "Order" }
    let table : ClassTable :=
      [inner.object "shop.orders" "Order." [],
        order.object "shop.orders" "" [("limit", .other), ("Order", .classAt 0)],
        refund.object "shop.orders" "" []]
    let module : ModuleObject :=
      { name := "shop.orders"
        package := some "shop"
        file := "/shop/orders.pyc"
        members := [("Order", .classAt 1), ("limit", .other), ("Refund", .classAt 2)] }
    (inspect table module).declarations =
      [⟨"shop.orders.Order", "shop", "/shop/orders.pyc", "Orders.\nTwo.", order.marker⟩,
        ⟨"shop.orders.Order.Order", "shop", "/shop/orders.pyc", "", none⟩,
        ⟨"shop.orders.Refund", "shop", "/shop/orders.pyc", "", refund.marker⟩] := by
  intro refund order inner table module
  let forest : ClassForest := .cons order (.cons inner .nil .nil) (.cons refund .nil .nil)
  let place : ClassWalk.Place := ⟨⟨.relative, ["orders.py"]⟩, "shop", "command"⟩
  have differ : forest.NamesDiffer := by
    simp [forest, ClassForest.NamesDiffer, ClassForest.names, order, refund]
  have orderTagged : Tagged "command" order.marker ([.name 1 "final"] ++
      .call 2 (.name 2 "command") [.text 2 "order"] [(some "options", .text 2 "-v")] :: []) :=
    .tagged (by simp [ClassWalk.markerCall?]) rfl (.namedOptions 2 2 "order" "-v")
  have refundTagged : Tagged "command" refund.marker ([] ++
      .call 9 (.member 9 (.name 9 "catalog") "command") [.text 9 "refund"] [] :: []) :=
    .tagged (by simp) rfl (.name 9 "refund")
  have innerTagged : Tagged "command" inner.marker [] := .untagged (by simp)
  have innerWritten : WrittenIn "command" (.cons inner .nil .nil) _ :=
    .define innerTagged .undocumented .done .done
  have refundWritten : WrittenIn "command" (.cons refund .nil .nil) _ :=
    .define refundTagged .undocumented .done .done
  have other : isNeutral .other = true := rfl
  have written : WrittenIn place.marker forest _ :=
    .define orderTagged (.documented 4 "Orders.\n    Two.")
      (.skip other innerWritten) (.skip other refundWritten)
  have innerHeld : HeldIn table "shop.orders" "Order." (.cons inner .nil .nil)
      [("limit", .other), ("Order", .classAt 0)] [0] :=
    .skip "limit" (.define "Order" rfl (.done _) (.done _))
  have holds : module.Holds table forest :=
    ⟨_, .define "Order" rfl innerHeld (.skip "limit" (.define "Refund" rfl (.done _) (.done _)))⟩
  have same := inspect_eq_read (by decide) rfl differ written holds
  exact same.2.2.trans (by decide)

end ModuleInspection

end TaggedCatalog
