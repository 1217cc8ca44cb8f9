import TaggedCatalog.Proofs.Toml.ProperTables
import TaggedCatalog.Toml.Document

/-! # Tables that are read

Every table that is read from a document is proper. A draft is proper when it will be a
proper table: each step of the reading puts nodes under keys, a key that is there already
keeps its place, and so no key is ever there twice. -/

namespace TaggedCatalog.Toml

/-! ## Drafts -/

inductive DraftNode.IsProper : DraftNode → Prop
  | leaf {value : Value} (proper : value.IsProper) : IsProper (.leaf value)
  | table {origin : TableOrigin} {entries : Draft} (distinct : (entries.map Prod.fst).Nodup)
      (each : ∀ entry ∈ entries, entry.2.IsProper) : IsProper (.table origin entries)
  | tables {items : List Draft} (distinct : ∀ item ∈ items, (item.map Prod.fst).Nodup)
      (each : ∀ item ∈ items, ∀ entry ∈ item, entry.2.IsProper) : IsProper (.tables items)

namespace Draft

structure IsProper (draft : Draft) : Prop where
  distinct : (draft.map Prod.fst).Nodup
  each : ∀ entry ∈ draft, entry.2.IsProper

theorem isProper_nil : IsProper [] := ⟨List.nodup_nil, by simp⟩

variable {draft : Draft} {key : String} {node : DraftNode}

theorem isProper_table_iff {origin : TableOrigin} :
    DraftNode.IsProper (.table origin draft) ↔ draft.IsProper := by
  constructor
  · rintro (_ | _)
    exact ⟨‹_›, ‹_›⟩
  · rintro ⟨distinct, each⟩
    exact .table distinct each

theorem isProper_tables_iff {items : List Draft} :
    DraftNode.IsProper (.tables items) ↔ ∀ item ∈ items, IsProper item := by
  constructor
  · rintro (_ | _) item member
    rename_i distinct each
    exact ⟨distinct item member, each item member⟩
  · intro each
    exact .tables (fun item member => (each item member).distinct)
      fun item member => (each item member).each

theorem nodup_keys_put (distinct : (draft.map Prod.fst).Nodup) (key : String)
    (node : DraftNode) : ((draft.put key node).map Prod.fst).Nodup := by
  rw [put]
  split
  · have sameKeys : (draft.map fun entry => if entry.1 == key then (key, node) else entry).map
        Prod.fst = draft.map Prod.fst := by
      rw [List.map_map]
      apply List.map_congr_left
      intro entry _
      by_cases same : entry.1 = key <;> simp [same]
    rwa [sameKeys]
  · rename_i isNew
    rw [List.map_append, List.map_singleton, ← List.concat_eq_append]
    apply List.Nodup.concat _ distinct
    intro isThere
    rcases List.mem_map.mp isThere with ⟨entry, member, same⟩
    exact isNew (List.any_eq_true.mpr ⟨entry, member, beq_iff_eq.mpr same⟩)

theorem eq_or_mem_of_mem_put {entry : String × DraftNode} (member : entry ∈ draft.put key node) :
    entry = (key, node) ∨ entry ∈ draft := by
  rw [put] at member
  split at member
  · rcases List.mem_map.mp member with ⟨old, isThere, rfl⟩
    split
    · exact .inl rfl
    · exact .inr isThere
  · rcases List.mem_append.mp member with old | new
    · exact .inr old
    · exact .inl (List.mem_singleton.mp new)

namespace IsProper

theorem get? (proper : draft.IsProper) (found : draft.get? key = some node) : node.IsProper := by
  rcases Option.map_eq_some_iff.mp found with ⟨entry, isFirst, rfl⟩
  exact proper.each entry (List.mem_of_find?_eq_some isFirst)

theorem put (proper : draft.IsProper) (key : String) (properNode : node.IsProper) :
    (draft.put key node).IsProper := by
  constructor
  · exact nodup_keys_put proper.distinct key node
  · intro entry member
    rcases eq_or_mem_of_mem_put member with rfl | old
    · exact properNode
    · exact proper.each entry old

end IsProper

/-- A change to a draft after which it is still proper. -/
def KeepsProper (change : Draft → Option Draft) : Prop :=
  ∀ ⦃draft next : Draft⦄, draft.IsProper → change draft = some next → next.IsProper

theorem keepsProper_assign {value : Value} (properValue : value.IsProper) (path : List String) :
    KeepsProper (assign value path) := by
  intro draft next proper assigned
  fun_induction assign value path draft generalizing next with
  | case1 => cases assigned
  | case2 => cases assigned
  | case3 key draft isNew =>
      cases assigned
      exact proper.put key (.leaf properValue)
  | case4 key rest draft _ _ induction =>
      rcases Option.map_eq_some_iff.mp assigned with ⟨inner, isInner, rfl⟩
      exact proper.put key (isProper_table_iff.mpr (induction isProper_nil isInner))
  | case5 key rest draft _ entries found induction =>
      rcases Option.map_eq_some_iff.mp assigned with ⟨inner, isInner, rfl⟩
      have properEntries := isProper_table_iff.mp (proper.get? found)
      exact proper.put key (isProper_table_iff.mpr (induction properEntries isInner))
  | case6 => cases assigned

theorem keepsProper_within {change : Draft → Option Draft} (keeps : KeepsProper change)
    (path : List String) : KeepsProper (within change path) := by
  intro draft next proper changed
  fun_induction within change path draft generalizing next with
  | case1 draft => exact keeps proper changed
  | case2 key rest draft _ induction =>
      rcases Option.map_eq_some_iff.mp changed with ⟨inner, isInner, rfl⟩
      exact proper.put key (isProper_table_iff.mpr (induction isProper_nil isInner))
  | case3 key rest draft origin entries found induction =>
      rcases Option.map_eq_some_iff.mp changed with ⟨inner, isInner, rfl⟩
      have properEntries := isProper_table_iff.mp (proper.get? found)
      exact proper.put key (isProper_table_iff.mpr (induction properEntries isInner))
  | case4 => cases changed
  | case5 key rest draft items found last isLast induction =>
      rcases Option.map_eq_some_iff.mp changed with ⟨inner, isInner, rfl⟩
      have properItems := isProper_tables_iff.mp (proper.get? found)
      have properInner := induction (properItems last (List.mem_of_getLast? isLast)) isInner
      apply proper.put key (isProper_tables_iff.mpr (List.forall_mem_append.mpr ⟨?_, ?_⟩))
      · exact fun item old => properItems item ((List.dropLast_sublist items).subset old)
      · exact List.forall_mem_singleton.mpr properInner
  | case6 => cases changed

theorem keepsProper_defineTable (key : String) : KeepsProper (defineTable key) := by
  intro draft next proper defined
  rw [defineTable] at defined
  split at defined
  · cases defined
    exact proper.put key (isProper_table_iff.mpr isProper_nil)
  · rename_i entries found
    cases defined
    exact proper.put key (isProper_table_iff.mpr (isProper_table_iff.mp (proper.get? found)))
  · cases defined

theorem keepsProper_addTable (key : String) : KeepsProper (addTable key) := by
  intro draft next proper added
  have properEmpty := List.forall_mem_singleton.mpr isProper_nil
  rw [addTable] at added
  split at added
  · cases added
    exact proper.put key (isProper_tables_iff.mpr properEmpty)
  · rename_i items found
    cases added
    have properItems := isProper_tables_iff.mp (proper.get? found)
    exact proper.put key
      (isProper_tables_iff.mpr (List.forall_mem_append.mpr ⟨properItems, properEmpty⟩))
  · cases added

theorem keepsProper_atLastKey {step : String → Draft → Option Draft}
    (keeps : ∀ key, KeepsProper (step key)) (path : List String) :
    KeepsProper (atLastKey step path) := by
  intro draft next proper changed
  rw [atLastKey] at changed
  split at changed
  · cases changed
  · exact keepsProper_within (keeps _) _ proper changed

/-! ## Finished tables -/

theorem finish_eq_map (draft : Draft) :
    finish draft = draft.map fun entry => (entry.1, nodeValue entry.2) := by
  induction draft with
  | nil => rw [finish, List.map_nil]
  | cons entry rest induction => rw [finish, induction, List.map_cons]

theorem finishAll_eq_map (items : List Draft) :
    finishAll items = items.map fun item => .table (finish item) := by
  induction items with
  | nil => rw [finishAll, List.map_nil]
  | cons item rest induction => rw [finishAll, induction, List.map_cons]

theorem isProper_table_finish (distinct : (draft.map Prod.fst).Nodup)
    (each : ∀ entry ∈ draft, (nodeValue entry.2).IsProper) :
    Value.IsProper (.table (finish draft)) := by
  rw [finish_eq_map]
  apply Value.IsProper.table
  · rwa [List.map_map]
  · intro entry member
    rcases List.mem_map.mp member with ⟨old, isThere, rfl⟩
    exact each old isThere

theorem isProper_nodeValue (proper : node.IsProper) : (nodeValue node).IsProper := by
  induction proper with
  | leaf proper => rwa [nodeValue]
  | table distinct _ induction =>
      rw [nodeValue]
      exact isProper_table_finish distinct induction
  | tables distinct _ induction =>
      rw [nodeValue, finishAll_eq_map]
      apply Value.IsProper.list
      intro value member
      rcases List.mem_map.mp member with ⟨item, isThere, rfl⟩
      exact isProper_table_finish (distinct item isThere) (induction item isThere)

theorem isProper_finish (proper : draft.IsProper) : Value.IsProper (.table (finish draft)) :=
  isProper_table_finish proper.distinct fun entry member =>
    isProper_nodeValue (proper.each entry member)

end Draft

/-! ## Words -/

namespace Scalar

theorem isProper_of_number? {word : List Char} {value : Value}
    (isRead : number? word = some value) : value.IsProper := by
  rw [number?] at isRead
  dsimp only at isRead
  split at isRead
  · cases isRead
    exact .float _
  · split at isRead
    · split at isRead
      · cases isRead
      · rcases Option.bind_eq_some_iff.mp isRead with ⟨digits, -, isInteger⟩
        rcases Option.bind_eq_some_iff.mp isInteger with ⟨natural, -, isInteger⟩
        cases isInteger
        exact .integer natural
    · split at isRead
      · cases isRead
      · rcases Option.bind_eq_some_iff.mp isRead with ⟨plain, -, isNumber⟩
        split at isNumber
        · cases isNumber
          exact .integer _
        · rcases Option.bind_eq_some_iff.mp isNumber with ⟨decimal, -, isFloat⟩
          cases isFloat
          exact .float decimal

theorem isProper_of_dateTime? {word : List Char} {value : Value}
    (isRead : dateTime? word = some value) : value.IsProper := by
  rw [dateTime?] at isRead
  rcases Option.bind_eq_some_iff.mp isRead with ⟨day, _, isRead⟩
  split at isRead
  · split at isRead
    · rcases Option.bind_eq_some_iff.mp isRead with ⟨⟨clock, rest⟩, _, isRead⟩
      rcases Option.bind_eq_some_iff.mp isRead with ⟨offset, _, isRead⟩
      cases isRead
      exact .dateTime day clock offset
    · cases isRead
  · cases isRead

theorem isProper_of_ofWord? {word : List Char} {value : Value}
    (isRead : ofWord? word = some value) : value.IsProper := by
  rw [ofWord?] at isRead
  split at isRead
  · simp only [Option.or_eq_some_iff, Option.map_eq_some_iff] at isRead
    rcases isRead with ⟨day, -, rfl⟩ | ⟨-, ⟨clock, -, rfl⟩ | ⟨-, isRead | ⟨-, isRead⟩⟩⟩
    · exact .date day
    · exact .time clock
    · exact isProper_of_dateTime? isRead
    · exact isProper_of_number? isRead
  · exact isProper_of_number? isRead

end Scalar

/-! ## Readers -/

namespace Read

variable {α β : Type}

/-- All that a reader gives is of a kind. -/
def Gives (holds : α → Prop) (reader : Read α) : Prop :=
  ∀ ⦃text : List Char⦄ ⦃found : α⦄ ⦃rest : List Char⦄,
    reader text = some (found, rest) → holds found

variable {holds : α → Prop} {also : β → Prop}

theorem gives_fail : Gives holds fail := by
  intro text found rest isRead
  cases isRead

theorem gives_pure {value : α} (isSo : holds value) : Gives holds (pure value) := by
  intro text found rest isRead
  cases isRead
  exact isSo

theorem gives_lift {value : Option α} (isSo : ∀ found, value = some found → holds found) :
    Gives holds (lift value) := by
  intro text found rest isRead
  rcases Option.map_eq_some_iff.mp isRead with ⟨_, isValue, same⟩
  cases same
  exact isSo _ isValue

theorem Gives.bind {reader : Read α} {next : α → Read β} (first : Gives holds reader)
    (second : ∀ value, holds value → Gives also (next value)) : Gives also (reader >>= next) := by
  intro text found rest isRead
  rcases Option.bind_eq_some_iff.mp isRead with ⟨⟨value, between⟩, isFirst, isSecond⟩
  exact second value (first isFirst) isSecond

/-- Whatever a reader gives that says nothing about the next one. -/
theorem gives_bind {reader : Read α} {next : α → Read β}
    (second : ∀ value, Gives also (next value)) : Gives also (reader >>= next) := by
  intro text found rest isRead
  rcases Option.bind_eq_some_iff.mp isRead with ⟨⟨value, between⟩, -, isSecond⟩
  exact second value isSecond

theorem gives_bareWord : Gives Value.IsProper bareWord := by
  rw [bareWord]
  refine gives_bind fun word => ?_
  split
  · exact gives_lift fun value => Scalar.isProper_of_ofWord?
  · rename_i day _
    refine gives_bind fun text => ?_
    dsimp only
    split
    · exact gives_pure (.date day)
    · refine Gives.bind (gives_lift fun _ => Scalar.isProper_of_dateTime?) fun value proper => ?_
      refine gives_bind fun _ => ?_
      exact gives_pure proper

theorem gives_listItems {item : Read Value} (each : Gives Value.IsProper item) (fuel : Nat) :
    Gives (fun items => ∀ value ∈ items, value.IsProper) (listItems item fuel) := by
  induction fuel with
  | zero => exact gives_fail
  | succ fuel induction =>
      rw [listItems]
      refine gives_bind fun _ => ?_
      refine gives_bind fun isClosed => ?_
      split
      · exact gives_pure (by simp)
      · refine Gives.bind each fun first proper => ?_
        refine gives_bind fun _ => ?_
        refine gives_bind fun goesOn => ?_
        split
        · refine Gives.bind induction fun others properOthers => ?_
          exact gives_pure (List.forall_mem_cons.mpr ⟨proper, properOthers⟩)
        · refine gives_bind fun _ => ?_
          exact gives_pure (List.forall_mem_singleton.mpr proper)


theorem gives_tableEntries {item : Read Value} (each : Gives Value.IsProper item) (fuel : Nat)
    {draft : Draft} (proper : draft.IsProper) :
    Gives Draft.IsProper (tableEntries item fuel draft) := by
  induction fuel generalizing draft with
  | zero => exact gives_fail
  | succ fuel induction =>
      rw [tableEntries]
      refine gives_bind fun path => ?_
      refine gives_bind fun _ => ?_
      refine gives_bind fun _ => ?_
      refine Gives.bind each fun value properValue => ?_
      have assigned (next : Draft) (isNext : draft.assign value path = some next) : next.IsProper :=
        Draft.keepsProper_assign properValue path proper isNext
      refine Gives.bind (gives_lift assigned) fun next properNext => ?_
      refine gives_bind fun _ => ?_
      refine gives_bind fun goesOn => ?_
      split
      · exact induction properNext
      · refine gives_bind fun _ => ?_
        exact gives_pure properNext

theorem gives_valueWithin (fuel : Nat) : Gives Value.IsProper (valueWithin fuel) := by
  induction fuel with
  | zero => exact gives_fail
  | succ fuel induction =>
      rw [valueWithin]
      refine gives_bind fun next => ?_
      split
      · exact gives_bind fun text => gives_pure (.text text)
      · exact gives_bind fun text => gives_pure (.text text)
      · refine gives_bind fun isTrue => ?_
        split
        · exact gives_pure (.boolean true)
        · exact gives_fail
      · refine gives_bind fun isFalse => ?_
        split
        · exact gives_pure (.boolean false)
        · exact gives_fail
      · refine gives_bind fun _ => gives_bind fun text => ?_
        have items := gives_listItems induction (text.length + 1)
        refine Gives.bind items fun values proper => ?_
        exact gives_pure (.list proper)
      · refine gives_bind fun _ => gives_bind fun _ => gives_bind fun isEmpty => ?_
        split
        · exact gives_pure (.table List.nodup_nil (by simp))
        · refine gives_bind fun text => ?_
          have entries := gives_tableEntries induction (text.length + 1) Draft.isProper_nil
          refine Gives.bind entries fun draft proper => ?_
          exact gives_pure (Draft.isProper_finish proper)
      · exact gives_bareWord

theorem gives_value : Gives Value.IsProper value := by
  rw [value]
  exact gives_bind fun text => gives_valueWithin _

/-! ## Lines -/

section Lines

variable {progress : Progress}

theorem gives_header (proper : progress.draft.IsProper) :
    Gives (fun next => next.draft.IsProper) (header progress) := by
  rw [header]
  refine gives_bind fun isList => ?_
  split
  · refine gives_bind fun path => gives_bind fun _ => gives_bind fun _ => gives_bind fun _ => ?_
    have added (next : Draft) (isNext : progress.draft.atLastKey Draft.addTable path = some next) :=
      Draft.keepsProper_atLastKey Draft.keepsProper_addTable path proper isNext
    exact Gives.bind (gives_lift added) fun next properNext => gives_pure properNext
  · refine gives_bind fun path => gives_bind fun _ => gives_bind fun _ => ?_
    have defined (next : Draft)
        (isNext : progress.draft.atLastKey Draft.defineTable path = some next) :=
      Draft.keepsProper_atLastKey Draft.keepsProper_defineTable path proper isNext
    exact Gives.bind (gives_lift defined) fun next properNext => gives_pure properNext

theorem gives_assignment (proper : progress.draft.IsProper) :
    Gives (fun next => next.draft.IsProper) (assignment progress) := by
  rw [assignment]
  refine gives_bind fun path => gives_bind fun _ => gives_bind fun _ => ?_
  refine Gives.bind gives_value fun value properValue => gives_bind fun _ => ?_
  have assigned (next : Draft)
      (isNext : progress.draft.within (Draft.assign value path) progress.openTable = some next) :=
    Draft.keepsProper_within (Draft.keepsProper_assign properValue path) _ proper isNext
  exact Gives.bind (gives_lift assigned) fun next properNext => gives_pure properNext

theorem gives_line (proper : progress.draft.IsProper) :
    Gives (fun next => next.draft.IsProper) (line progress) := by
  rw [line]
  refine gives_bind fun _ => gives_bind fun next => ?_
  split
  · exact gives_pure proper
  · exact gives_bind fun _ => gives_pure proper
  · exact gives_bind fun _ => gives_pure proper
  · exact gives_bind fun _ => gives_header proper
  · exact gives_assignment proper

theorem gives_linesWithin (fuel : Nat) (proper : progress.draft.IsProper) :
    Gives (fun next => next.draft.IsProper) (linesWithin fuel progress) := by
  induction fuel generalizing progress with
  | zero => exact gives_fail
  | succ fuel induction =>
      rw [linesWithin]
      refine gives_bind fun next => ?_
      split
      · exact gives_pure proper
      · exact Gives.bind (gives_line proper) fun next properNext => induction properNext

end Lines

end Read

/-- No document gives a table with a key that is there twice, at any depth. -/
theorem isProper_of_read {text : String} {table : Table} (isRead : read text = some table) :
    Value.IsProper (.table table) := by
  rcases Option.map_eq_some_iff.mp isRead with ⟨⟨progress, rest⟩, isProgress, rfl⟩
  exact Draft.isProper_finish (Read.gives_linesWithin _ Draft.isProper_nil isProgress)

end TaggedCatalog.Toml
