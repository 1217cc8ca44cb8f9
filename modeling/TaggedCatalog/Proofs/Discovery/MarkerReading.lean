import Mathlib.Data.List.Basic
import TaggedCatalog.Discovery.ClassWalk
import TaggedCatalog.Discovery.ModuleObject

/-! # Markers, read and run

Reading the decorators of a class finds the marker that running them would leave on
it. A call that is run fills the parameters of the marker with its arguments. The
decorators are applied from the last to the first, so the first call of the marker is
the one whose marker stays. -/

namespace TaggedCatalog

/-! ## Arguments by name -/

/-- The last argument of a name. -/
def lastNamed? {Name Value : Type} [BEq Name] (arguments : List (Name × Value)) (name : Name) :
    Option Value :=
  (arguments.reverse.find? fun argument => argument.1 == name).map (·.2)

section

variable {Name Value : Type} [BEq Name]

theorem lastNamed?_cons (argument : Name × Value) (arguments : List (Name × Value)) (name : Name) :
    lastNamed? (argument :: arguments) name =
      (lastNamed? arguments name).or (lastNamed? [argument] name) := by
  simp only [lastNamed?, List.reverse_cons, List.find?_append, Option.map_or, List.reverse_nil,
    List.nil_append]

variable [LawfulBEq Name] {arguments : List (Name × Value)} {name : Name}

theorem lastNamed?_eq_none_iff :
    lastNamed? arguments name = none ↔ ∀ argument ∈ arguments, argument.1 ≠ name := by
  simp only [lastNamed?, Option.map_eq_none_iff, List.find?_eq_none, List.mem_reverse, beq_iff_eq,
    ne_eq]

theorem lastNamed?_eq_some_iff {value : Value} :
    lastNamed? arguments name = some value ↔
      ∃ before after, arguments = before ++ (name, value) :: after ∧
        ∀ argument ∈ after, argument.1 ≠ name := by
  constructor
  · intro found
    rcases Option.map_eq_some_iff.mp found with ⟨argument, isFirst, rfl⟩
    rcases List.find?_eq_some_iff_append.mp isFirst with ⟨isNamed, later, earlier, split, others⟩
    refine ⟨earlier.reverse, later.reverse, ?_, by simpa using others⟩
    rw [← beq_iff_eq.mp isNamed]
    simpa using congrArg List.reverse split
  · rintro ⟨before, after, rfl, others⟩
    have passed : after.reverse.find? (fun argument => argument.1 == name) = none := by
      simpa using others
    simp [lastNamed?, passed]

end

/-! ## Filling parameters -/

/-- A parameter: its name, its default if it has one, and what it has been given. -/
structure Slot where
  name : String
  fallback : Option CodeText := none
  given : Option CodeText := none
deriving DecidableEq, Repr

namespace Slot

/-- Positional arguments fill the slots in their order. There may not be more of them
than slots. -/
def fillInOrder : List Slot → List CodeText → Option (List Slot)
  | slots, [] => some slots
  | [], _ :: _ => none
  | slot :: slots, value :: values =>
      (fillInOrder slots values).map ({ slot with given := some value } :: ·)

/-- A named argument fills the slot of its name, which has to be there and empty. -/
def fillNamed (argument : String × CodeText) : List Slot → Option (List Slot)
  | [] => none
  | slot :: slots =>
      if slot.name = argument.1 then
        if slot.given = none then some ({ slot with given := some argument.2 } :: slots) else none
      else (fillNamed argument slots).map (slot :: ·)

def fillAllNamed : List Slot → List (String × CodeText) → Option (List Slot)
  | slots, [] => some slots
  | slots, argument :: arguments =>
      (fillNamed argument slots).bind (fillAllNamed · arguments)

def value? (slot : Slot) : Option CodeText := slot.given.or slot.fallback

/-- The values that a call gives to the parameters, if it is accepted. -/
def accept? (slots : List Slot) (positional : List CodeText) (named : List (String × CodeText)) :
    Option (List CodeText) :=
  ((fillInOrder slots positional).bind (fillAllNamed · named)).bind (·.mapM value?)

/-- A slot once arguments have been given by name. -/
def receive (named : List (String × CodeText)) (slot : Slot) : Slot :=
  { slot with given := (lastNamed? named slot.name).or slot.given }

theorem receive_cons (argument : String × CodeText) (named : List (String × CodeText))
    (slot : Slot) :
    receive (argument :: named) slot = receive named (receive [argument] slot) := by
  rw [receive, lastNamed?_cons, Option.or_assoc]
  rfl

theorem receive_other {argument : String × CodeText} {slot : Slot}
    (different : slot.name ≠ argument.1) : receive [argument] slot = slot := by
  simp [receive, lastNamed?, Ne.symm different]

theorem fillNamed_eq_some {argument : String × CodeText} {slots filled : List Slot}
    (distinct : (slots.map name).Nodup) (isFilled : fillNamed argument slots = some filled) :
    filled = slots.map (receive [argument]) := by
  induction slots generalizing filled with
  | nil => cases isFilled
  | cons slot slots induction =>
      have parts := List.nodup_cons.mp distinct
      rw [fillNamed] at isFilled
      split at isFilled
      case isTrue same =>
        split at isFilled
        case isTrue =>
          -- No other slot has the name, so the rest stays as it is.
          have untouched : slots.map (receive [argument]) = slots.map id := by
            apply List.map_congr_left
            intro other member
            apply receive_other
            intro equal
            exact parts.1 (List.mem_map.mpr ⟨other, member, equal.trans same.symm⟩)
          cases isFilled
          rw [List.map_cons, untouched]
          simp [receive, lastNamed?, same]
        case isFalse => cases isFilled
      case isFalse different =>
        rcases Option.map_eq_some_iff.mp isFilled with ⟨others, othersFilled, rfl⟩
        rw [induction parts.2 othersFilled, List.map_cons, receive_other different]

/-- Each slot ends with the last argument of its name, or else with what it had. -/
theorem fillAllNamed_eq_some {named : List (String × CodeText)} {slots filled : List Slot}
    (distinct : (slots.map name).Nodup) (isFilled : fillAllNamed slots named = some filled) :
    filled = slots.map (receive named) := by
  induction named generalizing slots with
  | nil =>
      cases isFilled
      exact (List.map_id filled).symm
  | cons argument named induction =>
      rcases Option.bind_eq_some_iff.mp isFilled with ⟨next, nextFilled, isFilled⟩
      have nextEq := fillNamed_eq_some distinct nextFilled
      subst next
      have namesKept : (slots.map (receive [argument])).map name = slots.map name := by
        rw [List.map_map]
        rfl
      rw [induction (namesKept ▸ distinct) isFilled, List.map_map]
      apply List.map_congr_left
      intro slot _
      exact (receive_cons argument named slot).symm

end Slot

namespace Source.Expr

/-- The text that an expression is, if it is a plain text. -/
def text? : Expr → Option CodeText
  | text _ value => some value
  | _ => none

end Source.Expr

namespace ClassWalk

open Source

/-! ## Calls of the marker -/

/-- A decorator that calls the marker, by its name or as a member of anything. -/
inductive IsMarkerCall (word : String) : Expr → MarkerCall → Prop
  | byName (line nameLine : Nat) (positional : List Expr) (named : List (Option String × Expr)) :
      IsMarkerCall word (.call line (.name nameLine word) positional named)
        ⟨line, positional, named⟩
  | byMember (line memberLine : Nat) (base : Expr) (positional : List Expr)
      (named : List (Option String × Expr)) :
      IsMarkerCall word (.call line (.member memberLine base word) positional named)
        ⟨line, positional, named⟩

theorem markerCall?_eq_some_iff {word : String} {decorator : Expr} {call : MarkerCall} :
    markerCall? word decorator = some call ↔ IsMarkerCall word decorator call := by
  constructor
  · intro found
    cases decorator with
    | call line function positional named =>
        cases function with
        | name nameLine called =>
            simp only [markerCall?, calledName?, Option.some.injEq, Option.ite_none_right_eq_some]
              at found
            rcases found with ⟨rfl, rfl⟩
            exact .byName ..
        | member memberLine base called =>
            simp only [markerCall?, calledName?, Option.some.injEq, Option.ite_none_right_eq_some]
              at found
            rcases found with ⟨rfl, rfl⟩
            exact .byMember ..
        | _ => simp [markerCall?, calledName?] at found
    | _ => simp [markerCall?] at found
  · intro isCall
    cases isCall <;> simp [markerCall?, calledName?]

theorem markerCall?_eq_none_iff {word : String} {decorator : Expr} :
    markerCall? word decorator = none ↔ ∀ call, ¬IsMarkerCall word decorator call := by
  simp only [Option.eq_none_iff_forall_ne_some, ne_eq, markerCall?_eq_some_iff]

/-- Whether a call is that of the foremost decorator that calls the marker. -/
def IsFirstCall (word : String) (decorators : List Expr) (call : MarkerCall) : Prop :=
  ∃ before decorator after, decorators = before ++ decorator :: after ∧
    (∀ earlier ∈ before, ∀ other, ¬IsMarkerCall word earlier other) ∧
    IsMarkerCall word decorator call

theorem findMarkerCall_eq_some_iff {word : String} {decorators : List Expr} {call : MarkerCall} :
    findMarkerCall word decorators = some call ↔ IsFirstCall word decorators call := by
  simp only [findMarkerCall, List.findSome?_eq_some_iff, markerCall?_eq_some_iff,
    markerCall?_eq_none_iff, IsFirstCall]
  constructor
  · rintro ⟨before, decorator, after, split, isCall, others⟩
    exact ⟨before, decorator, after, split, others, isCall⟩
  · rintro ⟨before, decorator, after, split, others, isCall⟩
    exact ⟨before, decorator, after, split, isCall, others⟩

theorem findMarkerCall_eq_none_iff {word : String} {decorators : List Expr} :
    findMarkerCall word decorators = none ↔
      ∀ decorator ∈ decorators, ∀ call, ¬IsMarkerCall word decorator call := by
  simp only [findMarkerCall, List.findSome?_eq_none_iff, markerCall?_eq_none_iff]

namespace MarkerCall

variable {call : MarkerCall}

/-- What a call gives to a field: the last argument of that name, or else the
positional argument at a place. -/
inductive Gives (call : MarkerCall) (field : String) (place : Nat) : Option Expr → Prop
  | named {before after : List (Option String × Expr)} {value : Expr}
      (split : call.named = before ++ (some field, value) :: after)
      (last : ∀ argument ∈ after, argument.1 ≠ some field) : Gives call field place (some value)
  | positional (unnamed : ∀ argument ∈ call.named, argument.1 ≠ some field) :
      Gives call field place call.positional[place]?

theorem fields_name : fields[0]? = some "name" := rfl

theorem fields_options : fields[1]? = some "options" := rfl

theorem find?_fields {place : Nat} {field : String} (isField : fields[place]? = some field)
    (positional : List Expr) :
    ((fields.zip positional).find? fun argument => argument.1 == field).map (·.2) =
      positional[place]? := by
  match place, isField with
  | 0, isField =>
      cases isField
      cases positional <;> simp [fields]
  | 1, isField =>
      cases isField
      match positional with
      | [] => rfl
      | [_] => rfl
      | _ :: _ :: _ => rfl

theorem argument?_eq_or {place : Nat} {field : String} (isField : fields[place]? = some field)
    (call : MarkerCall) :
    call.argument? field = (lastNamed? call.named (some field)).or call.positional[place]? := by
  rw [argument?, List.getLast?_filter, find?_fields isField, lastNamed?]
  cases call.named.reverse.find? fun argument => argument.1 == some field <;> rfl

theorem gives_iff {place : Nat} {field : String} (isField : fields[place]? = some field)
    {bound : Option Expr} : call.Gives field place bound ↔ call.argument? field = bound := by
  rw [argument?_eq_or isField]
  constructor
  · intro gives
    cases gives with
    | named split last =>
        rw [lastNamed?_eq_some_iff.mpr ⟨_, _, split, last⟩, Option.some_or]
    | positional unnamed => rw [lastNamed?_eq_none_iff.mpr unnamed, Option.none_or]
  · rintro rfl
    cases found : lastNamed? call.named (some field) with
    | none => exact .positional (lastNamed?_eq_none_iff.mp found)
    | some value =>
        rcases lastNamed?_eq_some_iff.mp found with ⟨before, after, split, last⟩
        exact .named split last

/-! ## Running a call -/

def parameters : List Slot := [{ name := "name" }, { name := "options", fallback := some [] }]

/-- The marker that a call makes when it is run: its arguments are plain texts, and the
parameters accept them. -/
inductive Makes (call : MarkerCall) (marker : Marker) : Prop
  | run {positional : List CodeText} {named : List (String × CodeText)}
      (inOrder : call.positional.map Expr.text? = positional.map some)
      (byName : call.named.map (fun argument => (argument.1, argument.2.text?)) =
        named.map fun argument => (some argument.1, some argument.2))
      (accepted : Slot.accept? parameters positional named = some [marker.name, marker.options])

theorem fillInOrder_parameters {positional : List CodeText} {slots : List Slot}
    (filled : Slot.fillInOrder parameters positional = some slots) :
    slots = [{ name := "name", given := positional[0]? },
      { name := "options", fallback := some [], given := positional[1]? }] := by
  match positional with
  | [] => simpa [Slot.fillInOrder, parameters] using filled.symm
  | [_] => simpa [Slot.fillInOrder, parameters] using filled.symm
  | [_, _] => simpa [Slot.fillInOrder, parameters] using filled.symm
  | _ :: _ :: _ :: _ => simp [Slot.fillInOrder, parameters] at filled

theorem accept?_parameters {positional : List CodeText} {named : List (String × CodeText)}
    {marker : Marker}
    (accepted : Slot.accept? parameters positional named = some [marker.name, marker.options]) :
    (lastNamed? named "name").or positional[0]? = some marker.name ∧
      ((lastNamed? named "options").or positional[1]?).getD [] = marker.options := by
  rcases Option.bind_eq_some_iff.mp accepted with ⟨filled, isFilled, values⟩
  rcases Option.bind_eq_some_iff.mp isFilled with ⟨slots, inOrder, byName⟩
  rw [fillInOrder_parameters inOrder] at byName
  rw [Slot.fillAllNamed_eq_some (by simp) byName] at values
  simp only [List.map_cons, List.map_nil, Slot.receive, List.mapM_cons, List.mapM_nil, Slot.value?,
    Option.or_none, Option.pure_def, Option.bind_eq_bind, Option.bind_some] at values
  generalize (lastNamed? named "name").or positional[0]? = name at values ⊢
  generalize (lastNamed? named "options").or positional[1]? = options at values ⊢
  cases name with
  | none => cases values
  | some name => cases options <;> simpa using values

/-- Reading an argument gives the text that running the call passes. -/
theorem map_text?_argument? {place : Nat} {field : String}
    (isField : fields[place]? = some field) {positional : List CodeText}
    {named : List (String × CodeText)}
    (inOrder : call.positional.map Expr.text? = positional.map some)
    (byName : call.named.map (fun argument => (argument.1, argument.2.text?)) =
      named.map fun argument => (some argument.1, some argument.2)) :
    (call.argument? field).map Expr.text? =
      ((lastNamed? named field).or positional[place]?).map some := by
  have atPlace : call.positional[place]?.map Expr.text? = positional[place]?.map some := by
    rw [← List.getElem?_map, inOrder, List.getElem?_map]
  have lastOfName :
      (lastNamed? call.named (some field)).map Expr.text? = (lastNamed? named field).map some := by
    have found := congrArg (lastNamed? · (some field)) byName
    simpa [← List.map_reverse, Function.comp_def, lastNamed?] using found
  rw [argument?_eq_or isField, Option.map_or, Option.map_or, atPlace, lastOfName]

end MarkerCall

/-! ## Reading a call -/

variable {place : Place} {className : String} {call : MarkerCall}

/-- What comes of reading a field, by the argument that the field is given. -/
inductive FieldReading (call : MarkerCall) (field : String) :
    Except SourceFailure (Option CodeText) → Prop
  | absent (given : call.argument? field = none) : FieldReading call field (.ok none)
  | text {line : Nat} {content : CodeText}
      (given : call.argument? field = some (.text line content)) :
      FieldReading call field (.ok (some content))
  | other {value : Expr} {failure : SourceFailure} (given : call.argument? field = some value)
      (notText : value.text? = none) (isParse : failure.kind = .parse) :
      FieldReading call field (.error failure)

theorem reads_fieldText (place : Place) (className : String) (call : MarkerCall)
    (field : String) : FieldReading call field (fieldText place className call field) := by
  rw [fieldText]
  cases given : call.argument? field with
  | none => exact .absent given
  | some value =>
      cases value with
      | text line content => exact .text given
      | _ => exact .other given rfl rfl

theorem FieldReading.eq_ok {field : String} {read : Except SourceFailure (Option CodeText)}
    {content : Option CodeText} (reads : FieldReading call field read)
    (texts : (call.argument? field).map Expr.text? = content.map some) : read = .ok content := by
  cases reads with
  | absent given =>
      rw [given] at texts
      rw [Option.map_eq_none_iff.mp texts.symm]
  | text given =>
      rw [given] at texts
      rcases Option.map_eq_some_iff.mp texts.symm with ⟨word, rfl, same⟩
      rw [← Option.some.inj same]
  | other given notText =>
      rw [given, Option.map_some, notText] at texts
      cases content <;> cases texts

theorem readMarker_of_makes {marker : Marker} (makes : call.Makes marker) :
    readMarker place className call = .ok marker := by
  rcases makes with ⟨inOrder, byName, accepted⟩
  rcases MarkerCall.accept?_parameters accepted with ⟨name, options⟩
  have nameTexts := MarkerCall.map_text?_argument? MarkerCall.fields_name inOrder byName
  have optionsTexts := MarkerCall.map_text?_argument? MarkerCall.fields_options inOrder byName
  rw [readMarker, (reads_fieldText ..).eq_ok nameTexts, (reads_fieldText ..).eq_ok optionsTexts,
    name]
  simp only [options]

/-- A call that gives its name no plain text or nothing at all, or that gives its
options something else than a plain text. -/
def MarkerCall.BadlyGiven (call : MarkerCall) : Prop :=
  (∃ bound, call.Gives "name" 0 bound ∧ bound.bind Expr.text? = none) ∨
    ∃ value, call.Gives "options" 1 (some value) ∧ value.text? = none

theorem MarkerCall.badlyGiven_iff :
    call.BadlyGiven ↔ (call.argument? "name").bind Expr.text? = none ∨
      ∃ value, call.argument? "options" = some value ∧ value.text? = none := by
  simp only [BadlyGiven, gives_iff fields_name, gives_iff fields_options, exists_eq_left']

inductive MarkerReading (call : MarkerCall) : Except SourceFailure Marker → Prop
  | read {marker : Marker} (given : ¬call.BadlyGiven) : MarkerReading call (.ok marker)
  | failed {failure : SourceFailure} (given : call.BadlyGiven) (isParse : failure.kind = .parse) :
      MarkerReading call (.error failure)

theorem reads_readMarker (place : Place) (className : String) (call : MarkerCall) :
    MarkerReading call (readMarker place className call) := by
  have nameReads := reads_fieldText place className call "name"
  have optionsReads := reads_fieldText place className call "options"
  rw [readMarker]
  generalize fieldText place className call "name" = nameRead at nameReads ⊢
  generalize fieldText place className call "options" = optionsRead at optionsReads ⊢
  cases nameReads with
  | absent given => exact .failed (MarkerCall.badlyGiven_iff.mpr (.inl (by rw [given]; rfl))) rfl
  | other given notText isParse =>
      exact .failed (MarkerCall.badlyGiven_iff.mpr (.inl (by rw [given]; exact notText))) isParse
  | text given =>
      cases optionsReads with
      | other optionsGiven notText isParse =>
          exact .failed (MarkerCall.badlyGiven_iff.mpr (.inr ⟨_, optionsGiven, notText⟩)) isParse
      | absent optionsGiven =>
          exact .read (by simp [MarkerCall.badlyGiven_iff, given, optionsGiven, Expr.text?])
      | text optionsGiven =>
          exact .read (by simp [MarkerCall.badlyGiven_iff, given, optionsGiven, Expr.text?])

theorem markerOf_of_found {decorators : List Expr}
    (found : findMarkerCall place.marker decorators = some call) :
    markerOf place className decorators = (readMarker place className call).map some := by
  rw [markerOf, found]

theorem markerOf_eq_error {decorators : List Expr} {failure : SourceFailure}
    (failed : markerOf place className decorators = .error failure) :
    failure.kind = .parse ∧ ∃ call, IsFirstCall place.marker decorators call ∧ call.BadlyGiven := by
  cases found : findMarkerCall place.marker decorators with
  | none =>
      rw [markerOf, found] at failed
      cases failed
  | some call =>
      have reads := reads_readMarker place className call
      rw [markerOf_of_found found] at failed
      generalize readMarker place className call = read at reads failed
      cases reads with
      | read => cases failed
      | failed given isParse =>
          cases failed
          exact ⟨isParse, call, findMarkerCall_eq_some_iff.mp found, given⟩

theorem exists_markerOf_eq_error {decorators : List Expr}
    (first : IsFirstCall place.marker decorators call) (given : call.BadlyGiven) :
    ∃ failure, markerOf place className decorators = .error failure := by
  have reads := reads_readMarker place className call
  rw [markerOf_of_found (findMarkerCall_eq_some_iff.mpr first)]
  generalize readMarker place className call = read at reads ⊢
  cases reads with
  | read wellGiven => exact absurd given wellGiven
  | failed => exact ⟨_, rfl⟩

theorem markerOf_eq_none_iff {decorators : List Expr} :
    markerOf place className decorators = .ok none ↔
      ∀ decorator ∈ decorators, ∀ call, ¬IsMarkerCall place.marker decorator call := by
  rw [← findMarkerCall_eq_none_iff]
  cases found : findMarkerCall place.marker decorators with
  | none => simp [markerOf, found]
  | some call =>
      rw [markerOf_of_found found]
      cases readMarker place className call <;> simp [Except.map]

/-! ## Running decorators -/

/-- What a marker does to the class that it is applied to. -/
def tag (marker : Marker) (object : ClassObject) : ClassObject :=
  { object with marker := some marker }

/-- What decorators do to a class that is defined under them: each call of the marker
makes a marker and leaves it on the class, and any other decorator gives the class back
as it is. -/
structure RunAs (word : String) (decorators : List Expr)
    (effect : Expr → ClassObject → ClassObject) : Prop where
  tags : ∀ decorator ∈ decorators, ∀ call, IsMarkerCall word decorator call →
    ∃ marker, call.Makes marker ∧ effect decorator = tag marker
  keeps : ∀ decorator ∈ decorators, (∀ call, ¬IsMarkerCall word decorator call) →
    effect decorator = id

theorem marker_foldr {word : String} {decorators : List Expr}
    {effect : Expr → ClassObject → ClassObject} (run : RunAs word decorators effect)
    {object : ClassObject} (untagged : object.marker = none) :
    (findMarkerCall word decorators = none ∧ (decorators.foldr effect object).marker = none) ∨
      ∃ call marker, findMarkerCall word decorators = some call ∧ call.Makes marker ∧
        (decorators.foldr effect object).marker = some marker := by
  induction decorators with
  | nil => exact .inl ⟨rfl, untagged⟩
  | cons decorator decorators induction =>
      have later : RunAs word decorators effect :=
        ⟨fun other member => run.tags other (List.mem_cons_of_mem _ member),
          fun other member => run.keeps other (List.mem_cons_of_mem _ member)⟩
      cases found : markerCall? word decorator with
      | none =>
          have kept := run.keeps decorator List.mem_cons_self (markerCall?_eq_none_iff.mp found)
          rw [List.foldr_cons, kept]
          simpa [findMarkerCall, found] using induction later
      | some call =>
          rcases run.tags decorator List.mem_cons_self call (markerCall?_eq_some_iff.mp found) with
            ⟨marker, makes, tagged⟩
          -- The head is applied last, so its marker replaces what the others have left.
          refine .inr ⟨call, marker, ?_, makes, ?_⟩
          · simp [findMarkerCall, found]
          · rw [List.foldr_cons, tagged, tag]

/-- Reading the decorators of a class agrees with running them. -/
structure AgreesWithRun (place : Place) (className : String) (decorators : List Expr) : Prop where
  /-- The marker that is read is the one that the class has once they have run. -/
  sameMarker : ∀ effect, RunAs place.marker decorators effect → ∀ object : ClassObject,
    object.marker = none →
    markerOf place className decorators = .ok (decorators.foldr effect object).marker
  untagged : markerOf place className decorators = .ok none ↔
    ∀ decorator ∈ decorators, ∀ call, ¬IsMarkerCall place.marker decorator call
  /-- The foremost call alone decides whether reading fails. -/
  fails : (∃ failure, markerOf place className decorators = .error failure) ↔
    ∃ call, IsFirstCall place.marker decorators call ∧ call.BadlyGiven
  isParse : ∀ failure, markerOf place className decorators = .error failure → failure.kind = .parse

theorem markerOf_agreesWithRun (place : Place) (className : String) (decorators : List Expr) :
    AgreesWithRun place className decorators where
  sameMarker := by
    intro effect run object untagged
    rcases marker_foldr run untagged with ⟨found, marker⟩ | ⟨call, marker, found, makes, tagged⟩
    · rw [markerOf, found, marker]
    · rw [markerOf_of_found found, tagged, readMarker_of_makes makes]
      rfl
  untagged := markerOf_eq_none_iff
  fails := by
    constructor
    · rintro ⟨failure, failed⟩
      exact (markerOf_eq_error failed).2
    · rintro ⟨call, first, given⟩
      exact exists_markerOf_eq_error first given
  isParse := fun failure failed => (markerOf_eq_error failed).1

/-- Of two markers on a class the outer one stays. -/
theorem markerOf_outer_marker_stays :
    let decorators : List Expr :=
      [.name 1 "final",
        .call 2 (.member 2 (.name 2 "shop") "command") [.text 2 "pay"]
          [(some "options", .text 2 "-v")],
        .call 3 (.name 3 "command") [] [(some "name", .text 3 "old")]]
    let effect : Expr → ClassObject → ClassObject := fun decorator =>
      match decorator with
      | .call 2 _ _ _ => tag ⟨"pay", "-v"⟩
      | .call 3 _ _ _ => tag ⟨"old", ""⟩
      | _ => id
    let object : ClassObject := { name := "Pay", moduleName := "shop", qualifiedName := "Pay" }
    let place : Place := ⟨⟨.relative, ["shop.py"]⟩, "", "command"⟩
    RunAs place.marker decorators effect ∧ object.marker = none ∧
      markerOf place "Pay" decorators = .ok (decorators.foldr effect object).marker ∧
      (decorators.foldr effect object).marker = some ⟨"pay", "-v"⟩ := by
  intro decorators effect object place
  have run : RunAs place.marker decorators effect := by
    constructor
    · intro decorator member call isCall
      simp only [decorators, List.mem_cons, List.not_mem_nil, or_false] at member
      rcases member with rfl | rfl | rfl
      · cases isCall
      · cases isCall
        exact ⟨_, @MarkerCall.Makes.run _ _ ["pay"] [("options", "-v")] rfl rfl rfl, rfl⟩
      · cases isCall
        exact ⟨_, @MarkerCall.Makes.run _ _ [] [("name", "old")] rfl rfl rfl, rfl⟩
    · intro decorator member notCall
      simp only [decorators, List.mem_cons, List.not_mem_nil, or_false] at member
      rcases member with rfl | rfl | rfl
      · rfl
      · exact absurd (.byMember ..) (notCall _)
      · exact absurd (.byName ..) (notCall _)
  have agrees := markerOf_agreesWithRun place "Pay" decorators
  exact ⟨run, rfl, agrees.sameMarker effect run object rfl, rfl⟩

end ClassWalk

end TaggedCatalog
