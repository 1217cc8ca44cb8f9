import Mathlib.Data.List.Perm.Subperm
import TaggedCatalog.Discovery.ModuleInspection
import TaggedCatalog.Proofs.Discovery.Findings

/-! # Which classes a module declares

The classes of a module may hold each other in any way, so that a class is met many
times. It still counts once. Whether a class is inside another one by its own name
does not depend on the way that led there, so a class that is left out because it has
been seen hides nothing. -/

namespace TaggedCatalog

/-- Whether a class is bound in a namespace, under whatever name. -/
def Namespace.Binds (space : Namespace) (number : Nat) : Prop :=
  ∃ key, (key, BoundValue.classAt number) ∈ space

theorem Namespace.mem_classes_iff {space : Namespace} {number : Nat} :
    number ∈ space.classes ↔ space.Binds number := by
  simp only [Namespace.classes, List.mem_filterMap, Namespace.Binds]
  constructor
  · rintro ⟨⟨key, value⟩, member, found⟩
    cases value with
    | classAt index =>
        cases found
        exact ⟨key, member⟩
    | other => cases found
  · rintro ⟨key, member⟩
    exact ⟨(key, .classAt number), member, rfl⟩

namespace ModuleInspection

variable {table : ClassTable} {module : ModuleObject}

/-! ## One visit -/

/-- The class that a visit leads to, if it counts there and has not been seen. -/
def counted? (table : ClassTable) (module : ModuleObject) (seen : List Nat) (visit : Visit) :
    Option ClassObject :=
  table[visit.index]?.filter fun object =>
    !seen.contains visit.index && belongs module visit.scope object

theorem counted?_eq_some_iff {seen : List Nat} {visit : Visit} {object : ClassObject} :
    counted? table module seen visit = some object ↔
      table[visit.index]? = some object ∧ visit.index ∉ seen ∧
        belongs module visit.scope object = true := by
  simp [counted?, Option.filter_eq_some_iff]

theorem walk_cons (seen : List Nat) (visit : Visit) (rest : List Visit) :
    walk table module seen (visit :: rest) =
      match counted? table module seen visit with
      | none => walk table module seen rest
      | some object =>
          match declare module object with
          | .error failure => .fail failure
          | .ok declaration =>
              (SourceOutcome.yield declaration).andThen
                (walk table module (visit.index :: seen)
                  (visits (object.qualifiedName ++ ".") object.members ++ rest)) := by
  rw [walk, counted?]
  by_cases inTable : visit.index < table.length
  · rw [dif_pos inTable, List.getElem?_eq_getElem inTable]
    cases known : seen.contains visit.index with
    | true => rfl
    | false =>
        rw [dif_pos rfl, List.get_eq_getElem, Option.filter]
        cases belongs module visit.scope table[visit.index] <;> rfl
  · rw [dif_neg inTable, List.getElem?_eq_none (Nat.le_of_not_lt inTable)]
    rfl

theorem length_unseen_lt_of_counted {seen : List Nat} {visit : Visit} {object : ClassObject}
    (counted : counted? table module seen visit = some object) :
    (unseen table.length (visit.index :: seen)).length < (unseen table.length seen).length := by
  obtain ⟨found, isNew, -⟩ := counted?_eq_some_iff.mp counted
  obtain ⟨inTable, -⟩ := List.getElem?_eq_some_iff.mp found
  exact length_unseen_lt inTable (by simpa using isNew)

/-- The numbers of the classes that count, in the order in which the walk comes upon
them. -/
def reported (table : ClassTable) (module : ModuleObject) (seen : List Nat) :
    List Visit → List Nat
  | [] => []
  | visit :: rest =>
      match _ : counted? table module seen visit with
      | none => reported table module seen rest
      | some object =>
          visit.index :: reported table module (visit.index :: seen)
            (visits (object.qualifiedName ++ ".") object.members ++ rest)
termination_by work => ((unseen table.length seen).length, work.length)
decreasing_by
  · exact Prod.Lex.right _ (by simp)
  · exact Prod.Lex.left _ _ (length_unseen_lt_of_counted ‹_›)

theorem reported_cons (seen : List Nat) (visit : Visit) (rest : List Visit) :
    reported table module seen (visit :: rest) =
      match counted? table module seen visit with
      | none => reported table module seen rest
      | some object =>
          visit.index :: reported table module (visit.index :: seen)
            (visits (object.qualifiedName ++ ".") object.members ++ rest) := by
  rw [reported]
  split <;> simp_all only

/-- The classes with the given numbers. -/
def classesAt (table : ClassTable) (numbers : List Nat) : List ClassObject :=
  numbers.filterMap (table[·]?)

theorem classesAt_cons {number : Nat} {object : ClassObject} (found : table[number]? = some object)
    (rest : List Nat) : classesAt table (number :: rest) = object :: classesAt table rest := by
  rw [classesAt, List.filterMap_cons_some found, classesAt]

variable {seen : List Nat} {work : List Visit}

theorem shows_walk (table : ClassTable) (module : ModuleObject) (seen : List Nat)
    (work : List Visit) :
    (walk table module seen work).Shows
      ((classesAt table (reported table module seen work)).map (declare module)) := by
  fun_induction reported table module seen work with
  | case1 seen =>
      rw [walk]
      exact SourceOutcome.shows_empty
  | case2 seen visit rest missed induction =>
      rw [walk_cons, missed]
      exact induction
  | case3 seen visit rest object counted induction =>
      have found := (counted?_eq_some_iff.mp counted).1
      rw [walk_cons, counted, classesAt_cons found, List.map_cons]
      cases declared : declare module object with
      | error failure =>
          simp only [declared]
          exact SourceOutcome.shows_fail failure _
      | ok declaration =>
          simp only [declared]
          exact (SourceOutcome.shows_yield declaration).andThen induction

/-! ## Own classes -/

/-- Whether a visit leads to a class that belongs there. -/
def Leads (table : ClassTable) (module : ModuleObject) (visit : Visit) : Prop :=
  ∃ object, table[visit.index]? = some object ∧ belongs module visit.scope object = true

/-- A class of the module that is bound in it and has its name alone for a path of names. -/
def IsOutermost (table : ClassTable) (module : ModuleObject) (number : Nat) : Prop :=
  ∃ object, module.members.Binds number ∧ table[number]? = some object ∧
    object.moduleName = module.name ∧ object.qualifiedName = object.name

/-- A class of the module that is bound in another class and continues the path of names
of that class by its own name. -/
def IsInside (table : ClassTable) (module : ModuleObject) (outer number : Nat) : Prop :=
  ∃ outerObject object, table[outer]? = some outerObject ∧ outerObject.members.Binds number ∧
    table[number]? = some object ∧ object.moduleName = module.name ∧
    object.qualifiedName = outerObject.qualifiedName ++ "." ++ object.name

/-- The classes to which a chain of such bindings leads from the module. -/
inductive OwnClass (table : ClassTable) (module : ModuleObject) : Nat → Prop
  | outermost {number : Nat} (isOutermost : IsOutermost table module number) :
      OwnClass table module number
  | inside {outer number : Nat} (outerOwn : OwnClass table module outer)
      (isInside : IsInside table module outer number) : OwnClass table module number

theorem mem_visits_iff {scope : String} {space : Namespace} {visit : Visit} :
    visit ∈ visits scope space ↔ space.Binds visit.index ∧ visit.scope = scope := by
  rw [visits, List.mem_map, ← Namespace.mem_classes_iff]
  constructor
  · rintro ⟨index, member, rfl⟩
    exact ⟨member, rfl⟩
  · rintro ⟨member, rfl⟩
    exact ⟨visit.index, member, rfl⟩

theorem belongs_iff {scope : String} {object : ClassObject} :
    belongs module scope object = true ↔
      object.moduleName = module.name ∧ object.qualifiedName = scope ++ object.name := by
  simp [belongs]

theorem isOutermost_iff {number : Nat} :
    IsOutermost table module number ↔
      ∃ visit ∈ visits "" module.members, visit.index = number ∧ Leads table module visit := by
  simp only [mem_visits_iff, Leads, belongs_iff]
  constructor
  · rintro ⟨object, bound, found, own, named⟩
    exact ⟨⟨number, ""⟩, ⟨bound, rfl⟩, rfl, object, found, own, by simpa using named⟩
  · rintro ⟨⟨index, scope⟩, ⟨bound, rfl⟩, rfl, object, found, own, named⟩
    exact ⟨object, bound, found, own, by simpa using named⟩

theorem isInside_iff {outer number : Nat} {outerObject : ClassObject}
    (isOuter : table[outer]? = some outerObject) :
    IsInside table module outer number ↔
      ∃ visit ∈ visits (outerObject.qualifiedName ++ ".") outerObject.members,
        visit.index = number ∧ Leads table module visit := by
  simp only [mem_visits_iff, Leads, belongs_iff]
  constructor
  · rintro ⟨_, object, found, bound, isObject, own, named⟩
    obtain rfl := Option.some.inj (isOuter.symm.trans found)
    exact ⟨⟨number, _⟩, ⟨bound, rfl⟩, rfl, object, isObject, own, named⟩
  · rintro ⟨⟨index, scope⟩, ⟨bound, rfl⟩, rfl, object, isObject, own, named⟩
    exact ⟨outerObject, object, isOuter, bound, isObject, own, named⟩

/-! ## What the walk reports -/

theorem leads_of_counted {visit : Visit} {object : ClassObject}
    (counted : counted? table module seen visit = some object) : Leads table module visit := by
  obtain ⟨found, -, own⟩ := counted?_eq_some_iff.mp counted
  exact ⟨object, found, own⟩

theorem not_mem_seen_of_mem_reported {number : Nat}
    (member : number ∈ reported table module seen work) : number ∉ seen := by
  fun_induction reported table module seen work with
  | case1 seen => cases member
  | case2 seen visit rest missed induction => exact induction member
  | case3 seen visit rest object counted induction =>
      rcases List.mem_cons.mp member with rfl | later
      · exact (counted?_eq_some_iff.mp counted).2.1
      · exact fun known => induction later (List.mem_cons_of_mem _ known)

theorem nodup_reported (table : ClassTable) (module : ModuleObject) (seen : List Nat)
    (work : List Visit) : (reported table module seen work).Nodup := by
  fun_induction reported table module seen work with
  | case1 seen => exact List.nodup_nil
  | case2 seen visit rest missed induction => exact induction
  | case3 seen visit rest object counted induction =>
      refine List.nodup_cons.mpr ⟨?_, induction⟩
      exact fun again => not_mem_seen_of_mem_reported again List.mem_cons_self

/-- A reported class was waiting from the start, or is inside a class reported before. -/
theorem origin_of_reported {before after : List Nat} {number : Nat}
    (split : reported table module seen work = before ++ number :: after) :
    (∃ visit ∈ work, visit.index = number ∧ Leads table module visit) ∨
      ∃ outer ∈ before, IsInside table module outer number := by
  fun_induction reported table module seen work generalizing before with
  | case1 seen => simp at split
  | case2 seen visit rest missed induction =>
      rcases induction split with ⟨waiting, member, found⟩ | inside
      · exact .inl ⟨waiting, List.mem_cons_of_mem _ member, found⟩
      · exact .inr inside
  | case3 seen visit rest object counted induction =>
      cases before with
      | nil =>
          obtain ⟨rfl, -⟩ := List.cons.inj split
          exact .inl ⟨visit, List.mem_cons_self, rfl, leads_of_counted counted⟩
      | cons first before =>
          obtain ⟨rfl, later⟩ := List.cons.inj split
          rcases induction later with ⟨waiting, member, found⟩ | ⟨outer, earlier, inside⟩
          · rcases List.mem_append.mp member with inClass | inRest
            · have isObject := (counted?_eq_some_iff.mp counted).1
              exact .inr ⟨visit.index, List.mem_cons_self,
                (isInside_iff isObject).mpr ⟨waiting, inClass, found⟩⟩
            · exact .inl ⟨waiting, List.mem_cons_of_mem _ inRest, found⟩
          · exact .inr ⟨outer, List.mem_cons_of_mem _ earlier, inside⟩

private theorem seen_or_reported_cons {first number : Nat} {later : List Nat}
    (known : number ∈ first :: seen ∨ number ∈ later) :
    number ∈ seen ∨ number ∈ first :: later := by
  simp only [List.mem_cons] at known ⊢
  tauto

/-- A waiting class that belongs where it was found has been seen or will be reported. -/
theorem mem_reported_of_leads {visit : Visit} (member : visit ∈ work)
    (leads : Leads table module visit) :
    visit.index ∈ seen ∨ visit.index ∈ reported table module seen work := by
  fun_induction reported table module seen work with
  | case1 seen => cases member
  | case2 seen other rest missed induction =>
      rcases List.mem_cons.mp member with rfl | later
      · obtain ⟨object, found, own⟩ := leads
        by_contra! neither
        have counted := counted?_eq_some_iff.mpr ⟨found, neither.1, own⟩
        rw [missed] at counted
        cases counted
      · exact induction later
  | case3 seen other rest object counted induction =>
      rcases List.mem_cons.mp member with rfl | later
      · exact .inr List.mem_cons_self
      · exact seen_or_reported_cons (induction (List.mem_append_right _ later))

/-- So have the classes inside a reported one, by whatever way it was reached. -/
theorem mem_reported_of_isInside {outer number : Nat}
    (member : outer ∈ reported table module seen work)
    (inside : IsInside table module outer number) :
    number ∈ seen ∨ number ∈ reported table module seen work := by
  fun_induction reported table module seen work with
  | case1 seen => cases member
  | case2 seen visit rest missed induction => exact induction member
  | case3 seen visit rest object counted induction =>
      have isObject := (counted?_eq_some_iff.mp counted).1
      apply seen_or_reported_cons
      rcases List.mem_cons.mp member with rfl | later
      · obtain ⟨waiting, inClass, rfl, leads⟩ := (isInside_iff isObject).mp inside
        exact mem_reported_of_leads (List.mem_append_left _ inClass) leads
      · exact induction later

/-- The numbers of all classes that a module declares, in their order. -/
def ownNumbers (table : ClassTable) (module : ModuleObject) : List Nat :=
  reported table module [] (visits "" module.members)

theorem outermost_or_inside {before after : List Nat} {number : Nat}
    (split : ownNumbers table module = before ++ number :: after) :
    IsOutermost table module number ∨ ∃ outer ∈ before, IsInside table module outer number := by
  rw [isOutermost_iff]
  exact origin_of_reported split

theorem ownClass_of_split {before after : List Nat} {number : Nat}
    (split : ownNumbers table module = before ++ number :: after) :
    OwnClass table module number := by
  -- The class that holds this one comes earlier, so the induction is on what comes before.
  induction length : before.length using Nat.strongRecOn
    generalizing before number after with
  | ind size induction =>
      rcases outermost_or_inside split with isOutermost | ⟨outer, earlier, isInside⟩
      · exact .outermost isOutermost
      · obtain ⟨start, between, rfl⟩ := List.append_of_mem earlier
        rw [List.append_assoc, List.cons_append] at split
        have shorter : start.length < size := by
          rw [← length, List.length_append, List.length_cons]
          omega
        exact .inside (induction start.length shorter split rfl) isInside

theorem mem_ownNumbers_iff {number : Nat} :
    number ∈ ownNumbers table module ↔ OwnClass table module number := by
  constructor
  · intro member
    obtain ⟨before, after, split⟩ := List.append_of_mem member
    exact ownClass_of_split split
  · intro own
    induction own with
    | outermost isOutermost =>
        obtain ⟨visit, waiting, rfl, leads⟩ := isOutermost_iff.mp isOutermost
        exact (mem_reported_of_leads waiting leads).resolve_left List.not_mem_nil
    | inside _ isInside induction =>
        exact (mem_reported_of_isInside induction isInside).resolve_left List.not_mem_nil

/-! ## Words of a class

What a class says about itself, its documentation and its marker, decides neither
which classes are reported nor what is said about another class. -/

/-- A class without its words. -/
def wordless (object : ClassObject) : ClassObject := { object with doc := .absent, marker := none }

theorem counted?_map_wordless (table : ClassTable) (module : ModuleObject) (seen : List Nat)
    (visit : Visit) :
    counted? (table.map wordless) module seen visit =
      (counted? table module seen visit).map wordless := by
  rw [counted?, counted?, List.getElem?_map]
  cases table[visit.index]? with
  | none => rfl
  | some object =>
      have unchanged : belongs module visit.scope (wordless object) =
          belongs module visit.scope object := rfl
      simp only [Option.filter, Option.map_some, unchanged]
      split <;> rfl

theorem reported_map_wordless (table : ClassTable) (module : ModuleObject) (seen : List Nat)
    (work : List Visit) :
    reported (table.map wordless) module seen work = reported table module seen work := by
  fun_induction reported table module seen work with
  | case1 seen => rw [reported]
  | case2 seen visit rest missed induction =>
      rw [reported_cons, counted?_map_wordless, missed]
      exact induction
  | case3 seen visit rest object counted induction =>
      rw [reported_cons, counted?_map_wordless, counted]
      exact congrArg (visit.index :: ·) induction

theorem ownNumbers_congr {other : ClassTable} (same : other.map wordless = table.map wordless) :
    ownNumbers other module = ownNumbers table module := by
  rw [ownNumbers, ← reported_map_wordless, same, reported_map_wordless]
  rfl

/-! ## All own classes -/

theorem exists_object_of_ownClass {number : Nat} (own : OwnClass table module number) :
    ∃ object, table[number]? = some object := by
  cases own with
  | outermost isOutermost =>
      obtain ⟨object, -, found, -⟩ := isOutermost
      exact ⟨object, found⟩
  | inside _ isInside =>
      obtain ⟨-, object, -, -, found, -⟩ := isInside
      exact ⟨object, found⟩

theorem map_getElem?_eq_classesAt {numbers : List Nat}
    (inTable : ∀ number ∈ numbers, ∃ object, table[number]? = some object) :
    numbers.map (table[·]?) = (classesAt table numbers).map some := by
  induction numbers with
  | nil => rfl
  | cons number rest induction =>
      have parts := List.forall_mem_cons.mp inTable
      obtain ⟨object, found⟩ := parts.1
      rw [List.map_cons, induction parts.2, classesAt_cons found, found, List.map_cons]

theorem declared_iff {object : ClassObject} :
    (∃ declaration, declare module object = .ok declaration) ↔
      ∀ kind, object.doc ≠ .notText kind := by
  rw [declare]
  cases object.doc <;> simp [documentation, Except.map]

/-- What inspecting a module gives: the classes with the given numbers, each once. -/
structure ReportsOwnClasses (table : ClassTable) (module : ModuleObject) (numbers : List Nat) :
    Prop where
  once : numbers.Nodup
  bounded : numbers.length ≤ table.length
  exactly : ∀ number, number ∈ numbers ↔ OwnClass table module number
  /-- A class inside another one comes after a class that holds it. -/
  outerFirst : ∀ before number after, numbers = before ++ number :: after →
    IsOutermost table module number ∨ ∃ outer ∈ before, IsInside table module outer number
  found : numbers.map (table[·]?) = (classesAt table numbers).map some
  outcome : (inspect table module).Shows ((classesAt table numbers).map (declare module))
  /-- Other words change the words of their own class alone. -/
  ownWords : ∀ other : ClassTable, other.map wordless = table.map wordless →
    (inspect other module).Shows ((classesAt other numbers).map (declare module))
  /-- Nothing but documentation that is no text ends the walk early. -/
  ended : (inspect table module).failure = none ↔
    ∀ number object, OwnClass table module number → table[number]? = some object →
      ∀ kind, object.doc ≠ .notText kind

theorem inspect_reports_own_classes (table : ClassTable) (module : ModuleObject) :
    ∃ numbers, ReportsOwnClasses table module numbers := by
  have inTable : ∀ number ∈ ownNumbers table module, ∃ object, table[number]? = some object :=
    fun number member => exists_object_of_ownClass (mem_ownNumbers_iff.mp member)
  have outcome : ∀ other : ClassTable, other.map wordless = table.map wordless →
      (inspect other module).Shows
        ((classesAt other (ownNumbers table module)).map (declare module)) := by
    intro other same
    rw [← ownNumbers_congr same]
    exact shows_walk other module [] _
  refine ⟨ownNumbers table module, ?_⟩
  constructor
  case once => exact nodup_reported table module [] _
  case bounded =>
    have within : ownNumbers table module ⊆ List.range table.length := by
      intro number member
      obtain ⟨object, found⟩ := inTable number member
      exact List.mem_range.mpr (List.getElem?_eq_some_iff.mp found).1
    have most := (List.subperm_of_subset (nodup_reported table module [] _) within).length_le
    rwa [List.length_range] at most
  case exactly => exact fun number => mem_ownNumbers_iff
  case outerFirst => exact fun before number after split => outermost_or_inside split
  case found => exact map_getElem?_eq_classesAt inTable
  case outcome => exact outcome table rfl
  case ownWords => exact outcome
  case ended =>
    rw [(outcome table rfl).failure_eq_none_iff]
    simp only [List.forall_mem_map, declared_iff, classesAt, List.mem_filterMap,
      mem_ownNumbers_iff]
    exact ⟨fun all number object own found => all object ⟨number, own, found⟩,
      fun all object ⟨number, own, found⟩ => all number object own found⟩

/-- A class whose documentation is no text is not declared, nor is one behind it. -/
theorem inspect_stops_at_own_class :
    let first : ClassObject :=
      { name := "A", moduleName := "m", qualifiedName := "A", doc := .notText "int" }
    let second : ClassObject := { name := "B", moduleName := "m", qualifiedName := "B" }
    let module : ModuleObject :=
      { name := "m", members := [("A", .classAt 0), ("B", .classAt 1)] }
    OwnClass [first, second] module 0 ∧ OwnClass [first, second] module 1 ∧
      (inspect [first, second] module).declarations = [] := by
  intro first second module
  refine ⟨.outermost ⟨first, ⟨"A", by simp [module]⟩, rfl, rfl, rfl⟩,
    .outermost ⟨second, ⟨"B", by simp [module]⟩, rfl, rfl, rfl⟩, ?_⟩
  rw [inspect]
  have visited : visits "" module.members = [⟨0, ""⟩, ⟨1, ""⟩] := rfl
  rw [visited, walk_cons]
  rfl

end ModuleInspection

end TaggedCatalog
