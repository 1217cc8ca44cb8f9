import Mathlib.Algebra.Ring.Nat
import Mathlib.Data.List.Nodup
import TaggedCatalog.Toml.Value

/-! # Proper tables

A table is kept as a list of keys and values, so nothing but its making keeps a key from
being there twice. In a proper table every key is there once, and so it is in all tables
inside. Then the value under a key can be changed or dropped without looking at the
others, and the table is taken apart by its keys in any order. -/

namespace TaggedCatalog.Toml

namespace Value

/-- A value as a document can hold it: with distinct keys at every depth, and with a value
for each of them. -/
inductive IsProper : Value → Prop
  | text (value : String) : IsProper (.text value)
  | integer (value : Int) : IsProper (.integer value)
  | float (value : Double) : IsProper (.float value)
  | boolean (value : Bool) : IsProper (.boolean value)
  | date (value : Date) : IsProper (.date value)
  | time (value : Time) : IsProper (.time value)
  | dateTime (day : Date) (clock : Time) (offset : Option Int) :
      IsProper (.dateTime day clock offset)
  | list {items : List Value} (each : ∀ item ∈ items, item.IsProper) : IsProper (.list items)
  | table {entries : Table} (distinct : (entries.map Prod.fst).Nodup)
      (each : ∀ entry ∈ entries, entry.2.IsProper) : IsProper (.table entries)

theorem isProper_table_iff {entries : Table} :
    IsProper (.table entries) ↔
      (entries.map Prod.fst).Nodup ∧ ∀ entry ∈ entries, entry.2.IsProper := by
  constructor
  · rintro (_ | _)
    exact ⟨‹_›, ‹_›⟩
  · rintro ⟨distinct, each⟩
    exact .table distinct each

end Value

namespace Table

variable {table : Table}

theorem mem_of_get?_eq_some {key : String} {value : Value} (found : table.get? key = some value) :
    (key, value) ∈ table := by
  rcases Option.map_eq_some_iff.mp found with ⟨entry, isFirst, rfl⟩
  have sameKey : entry.1 = key := by simpa using List.find?_some isFirst
  rw [← sameKey]
  exact List.mem_of_find?_eq_some isFirst

theorem get?_eq_some_iff (distinct : (table.map Prod.fst).Nodup) {key : String} {value : Value} :
    table.get? key = some value ↔ (key, value) ∈ table := by
  constructor
  · exact mem_of_get?_eq_some
  · intro member
    have isThere : (table.find? fun entry => entry.1 == key).isSome := by
      rw [List.find?_isSome]
      exact ⟨_, member, beq_self_eq_true key⟩
    rcases Option.isSome_iff_exists.mp isThere with ⟨entry, isFirst⟩
    have sameKey : entry.1 = key := by simpa using List.find?_some isFirst
    have same :=
      List.inj_on_of_nodup_map distinct (List.mem_of_find?_eq_some isFirst) member sameKey
    rw [get?, isFirst, same]
    rfl

/-- A table with its values changed or dropped, each under its key. -/
def filterValues (change : String → Value → Option Value) (table : Table) : Table :=
  table.filterMap fun entry => (change entry.1 entry.2).map fun value => (entry.1, value)

theorem mem_filterValues_iff {change : String → Value → Option Value} {key : String}
    {value : Value} :
    (key, value) ∈ table.filterValues change ↔
      ∃ old, (key, old) ∈ table ∧ change key old = some value := by
  simp only [filterValues, List.mem_filterMap, Option.map_eq_some_iff, Prod.mk.injEq]
  constructor
  · rintro ⟨⟨_, old⟩, member, _, changed, rfl, rfl⟩
    exact ⟨old, member, changed⟩
  · rintro ⟨old, member, changed⟩
    exact ⟨(key, old), member, value, changed, rfl, rfl⟩

theorem keys_filterValues_sublist (change : String → Value → Option Value) (table : Table) :
    (table.filterValues change).map Prod.fst |>.Sublist (table.map Prod.fst) := by
  induction table with
  | nil => exact .slnil
  | cons entry rest induction =>
      rw [filterValues, List.filterMap_cons]
      cases change entry.1 entry.2 with
      | none => exact induction.cons _
      | some value => exact induction.cons_cons _

theorem nodup_keys_filterValues (distinct : (table.map Prod.fst).Nodup)
    (change : String → Value → Option Value) :
    ((table.filterValues change).map Prod.fst).Nodup :=
  distinct.sublist (keys_filterValues_sublist change table)

theorem get?_filterValues (distinct : (table.map Prod.fst).Nodup)
    (change : String → Value → Option Value) (key : String) :
    (table.filterValues change).get? key = (table.get? key).bind (change key) := by
  ext value
  rw [get?_eq_some_iff (nodup_keys_filterValues distinct change), mem_filterValues_iff,
    Option.bind_eq_some_iff]
  simp only [get?_eq_some_iff distinct]

/-- What every entry loses adds up to what the table loses. -/
theorem sum_filterValues {change : String → Value → Option Value} {size loss : String × Value → Nat}
    (each : ∀ entry, size entry =
      ((change entry.1 entry.2).elim 0 fun value => size (entry.1, value)) + loss entry)
    (table : Table) :
    (table.map size).sum = ((table.filterValues change).map size).sum + (table.map loss).sum := by
  induction table with
  | nil => rfl
  | cons entry rest induction =>
      rw [filterValues, List.filterMap_cons, List.map_cons, List.map_cons, List.sum_cons,
        List.sum_cons, induction, each entry]
      cases change entry.1 entry.2 with
      | none =>
          simp only [Option.elim_none, Option.map_none, filterValues]
          omega
      | some value =>
          simp only [Option.elim_some, Option.map_some, List.map_cons, List.sum_cons, filterValues]
          omega

/-- The entries of a table under some of its keys, in the order of these keys. -/
def entriesAt (table : Table) (keys : List String) : Table :=
  keys.filterMap fun key => (table.get? key).map fun value => (key, value)

theorem flatMap_entriesAt {α : Type} (table : Table) (keys : List String)
    (write : String × Value → List α) :
    (table.entriesAt keys).flatMap write =
      keys.flatMap fun key => (table.get? key).elim [] fun value => write (key, value) := by
  induction keys with
  | nil => rfl
  | cons key rest induction =>
      rw [entriesAt, List.filterMap_cons, List.flatMap_cons, ← induction]
      cases table.get? key <;> rfl

theorem mem_entriesAt_iff (distinct : (table.map Prod.fst).Nodup) {keys : List String}
    {entry : String × Value} :
    entry ∈ table.entriesAt keys ↔ entry ∈ table ∧ entry.1 ∈ keys := by
  simp only [entriesAt, List.mem_filterMap, Option.map_eq_some_iff, get?_eq_some_iff distinct]
  constructor
  · rintro ⟨key, isKey, value, member, rfl⟩
    exact ⟨member, isKey⟩
  · rintro ⟨member, isKey⟩
    exact ⟨entry.1, isKey, entry.2, member, rfl⟩

theorem nodup_entriesAt (table : Table) {keys : List String} (distinct : keys.Nodup) :
    (table.entriesAt keys).Nodup := by
  apply distinct.filterMap
  intro key other entry isFirst isSecond
  rcases Option.map_eq_some_iff.mp isFirst with ⟨value, -, rfl⟩
  rcases Option.map_eq_some_iff.mp isSecond with ⟨_, -, same⟩
  exact (Prod.mk.inj same).1.symm

/-- The entries of a table are those under any given keys, and the others. -/
theorem perm_entriesAt (distinct : (table.map Prod.fst).Nodup) {keys : List String}
    (distinctKeys : keys.Nodup) :
    table.Perm ((table.filter fun entry => !keys.contains entry.1) ++ table.entriesAt keys) := by
  have nodup := distinct.of_map
  have atKeys : (table.filter fun entry => keys.contains entry.1).Perm (table.entriesAt keys) := by
    rw [List.perm_ext_iff_of_nodup (nodup.filter _) (table.nodup_entriesAt distinctKeys)]
    intro entry
    rw [mem_entriesAt_iff distinct, List.mem_filter, List.contains_iff_mem]
  have parts := List.filter_append_perm (fun entry => keys.contains entry.1) table
  exact parts.symm.trans (List.perm_append_comm.trans (atKeys.append_left _))

theorem flatMap_perm_entriesAt {α : Type} (distinct : (table.map Prod.fst).Nodup)
    {keys : List String} (distinctKeys : keys.Nodup) (write : String × Value → List α) :
    (table.flatMap write).Perm
      ((table.filter fun entry => !keys.contains entry.1).flatMap write ++
        (table.entriesAt keys).flatMap write) := by
  rw [← List.flatMap_append]
  exact (perm_entriesAt distinct distinctKeys).flatMap_right write

end Table

end TaggedCatalog.Toml
