import Mathlib.Data.List.Lex
import Mathlib.Data.List.Sort
import Mathlib.Data.Prod.Lex
import Mathlib.Data.String.Basic
import TaggedCatalog.Catalog

/-! # Sorted entries and their ties

The order of entries looks at package and name only, so different entries may be
tied. A sorted list is determined by its ties, that is by the entries of every
package and name in the order in which they stand. Sorting orders the entries and
keeps their ties, and everything else about it follows. -/

namespace TaggedCatalog

/-- Code points are ordered as their numbers are. -/
instance : LinearOrder CodePoint := LinearOrder.lift' CodePoint.number CodePoint.number_injective

/-! ## Lists sorted by a key -/

section Keyed

variable {α β : Type} [LinearOrder β] {key : α → β}

private theorem exists_mem_of_ties_eq {left right : List α}
    (ties : ∀ common, left.filter (key · = common) = right.filter (key · = common))
    {value : α} (member : value ∈ right) : ∃ other ∈ left, key other = key value := by
  have tied : value ∈ right.filter (key · = key value) := by simp [member]
  rw [← ties] at tied
  exact ⟨value, List.mem_of_mem_filter tied, rfl⟩

/-- The first keys of sorted lists with the same ties agree in one direction. -/
private theorem key_head_le {head other : α} {tail rest : List α}
    (sorted : (head :: tail).Pairwise (key · ≤ key ·))
    (ties : ∀ common, (head :: tail).filter (key · = common) = (other :: rest).filter (key · = common)) :
    key head ≤ key other := by
  rcases exists_mem_of_ties_eq ties List.mem_cons_self with ⟨value, member, equal⟩
  rw [← equal]
  rcases List.mem_cons.mp member with same | inTail
  · rw [same]
  · exact List.rel_of_pairwise_cons sorted inTail

/-- Sorted lists with the same ties are the same list. -/
theorem eq_of_sorted_of_ties_eq {left right : List α}
    (leftSorted : left.Pairwise (key · ≤ key ·)) (rightSorted : right.Pairwise (key · ≤ key ·))
    (ties : ∀ common, left.filter (key · = common) = right.filter (key · = common)) : left = right := by
  induction left generalizing right with
  | nil =>
      cases right with
      | nil => rfl
      | cons other rest =>
          rcases exists_mem_of_ties_eq ties List.mem_cons_self with ⟨_, member, _⟩
          cases member
  | cons head tail induction =>
      cases right with
      | nil =>
          rcases exists_mem_of_ties_eq (fun common => (ties common).symm) List.mem_cons_self with
            ⟨_, member, _⟩
          cases member
      | cons other rest =>
          have sameKey : key head = key other :=
            le_antisymm (key_head_le leftSorted ties)
              (key_head_le rightSorted fun common => (ties common).symm)
          have sameTies := ties (key other)
          simp only [List.filter_cons, sameKey, decide_true, if_true, List.cons.injEq] at sameTies
          obtain ⟨sameHead, -⟩ := sameTies
          subst other
          congr 1
          apply induction leftSorted.of_cons rightSorted.of_cons
          intro common
          have tiesAt := ties common
          by_cases hit : key head = common <;> simpa [List.filter_cons, hit] using tiesAt

end Keyed

namespace Entry

/-! ## The order -/

/-- What the order of entries looks at. -/
def orderKey (entry : Entry) : String × CodeText := (entry.packageName, entry.name)

theorem precedes_iff (left right : Entry) :
    precedes left right = true ↔ toLex left.orderKey ≤ toLex right.orderKey := by
  rw [Prod.Lex.toLex_le_toLex]
  simp [precedes, orderKey]

theorem precedes_trans (first second third : Entry)
    (firstSecond : precedes first second = true) (secondThird : precedes second third = true) :
    precedes first third = true := by
  rw [precedes_iff] at *
  exact le_trans firstSecond secondThird

theorem precedes_total (left right : Entry) :
    (precedes left right || precedes right left) = true := by
  rw [Bool.or_eq_true, precedes_iff, precedes_iff]
  exact le_total _ _

/-- Entries one after the other in their order. -/
def Ordered (entries : List Entry) : Prop := entries.Pairwise fun left right => precedes left right

theorem ordered_iff (entries : List Entry) :
    Ordered entries ↔
      entries.Pairwise fun left right => toLex left.orderKey ≤ toLex right.orderKey := by
  simp only [Ordered, precedes_iff]

theorem Ordered.filter {entries : List Entry} (ordered : Ordered entries) (keep : Entry → Bool) :
    Ordered (entries.filter keep) :=
  List.Pairwise.filter keep ordered

/-! ## Ties -/

/-- The entries of a package and a name, in the order in which they stand. -/
def tiedAt (key : String × CodeText) (entries : List Entry) : List Entry :=
  entries.filter fun entry => entry.orderKey = key

theorem mem_tiedAt {key : String × CodeText} {entries : List Entry} {entry : Entry} :
    entry ∈ tiedAt key entries ↔ entry ∈ entries ∧ entry.orderKey = key := by
  simp [tiedAt]

theorem tiedAt_filter (key : String × CodeText) (entries : List Entry) (keep : Entry → Bool) :
    tiedAt key (entries.filter keep) = (tiedAt key entries).filter keep := by
  simp only [tiedAt, List.filter_filter, Bool.and_comm]

/-- Tied entries precede each other. -/
theorem ordered_tiedAt (key : String × CodeText) (entries : List Entry) :
    Ordered (tiedAt key entries) := by
  rw [ordered_iff]
  apply List.pairwise_of_forall_mem_list
  intro left leftMem right rightMem
  rw [(mem_tiedAt.mp leftMem).2, (mem_tiedAt.mp rightMem).2]

theorem mem_iff_of_tiedAt_eq {left right : List Entry}
    (ties : ∀ key, tiedAt key left = tiedAt key right) (entry : Entry) :
    entry ∈ left ↔ entry ∈ right := by
  have tied : entry ∈ tiedAt entry.orderKey left ↔ entry ∈ tiedAt entry.orderKey right := by
    rw [ties]
  simpa [mem_tiedAt] using tied

theorem Ordered.eq_of_tiedAt_eq {left right : List Entry} (leftOrdered : Ordered left)
    (rightOrdered : Ordered right) (ties : ∀ key, tiedAt key left = tiedAt key right) :
    left = right := by
  rw [ordered_iff] at leftOrdered rightOrdered
  apply eq_of_sorted_of_ties_eq leftOrdered rightOrdered
  intro key
  obtain ⟨key, rfl⟩ := toLex.surjective key
  simpa [tiedAt] using ties key

/-! ## Sorting -/

theorem sort_perm (entries : List Entry) : (sort entries).Perm entries :=
  List.mergeSort_perm entries precedes

theorem ordered_sort (entries : List Entry) : Ordered (sort entries) :=
  List.pairwise_mergeSort precedes_trans precedes_total entries

/-- Sorting keeps tied entries in the order in which they stand. -/
theorem tiedAt_sort (key : String × CodeText) (entries : List Entry) :
    tiedAt key (sort entries) = tiedAt key entries := by
  have kept : (tiedAt key entries).Sublist (sort entries) :=
    List.sublist_mergeSort precedes_trans precedes_total (ordered_tiedAt key entries)
      List.filter_sublist
  have keptTies : (tiedAt key entries).Sublist (tiedAt key (sort entries)) := by
    have filtered := kept.filter fun entry => entry.orderKey = key
    simpa [tiedAt] using filtered
  have sameLength : (tiedAt key entries).length = (tiedAt key (sort entries)).length :=
    ((sort_perm entries).filter _).length_eq.symm
  exact (keptTies.eq_of_length sameLength).symm

/-- The sorted list is the only ordered list with the ties of the given one. -/
theorem eq_sort_iff (entries sorted : List Entry) :
    sorted = sort entries ↔ Ordered sorted ∧ ∀ key, tiedAt key sorted = tiedAt key entries := by
  constructor
  · rintro rfl
    exact ⟨ordered_sort entries, fun key => tiedAt_sort key entries⟩
  · rintro ⟨ordered, ties⟩
    apply ordered.eq_of_tiedAt_eq (ordered_sort entries)
    intro key
    rw [ties, tiedAt_sort]

theorem sort_eq_of_tiedAt_eq {left right : List Entry}
    (ties : ∀ key, tiedAt key left = tiedAt key right) : sort left = sort right := by
  rw [eq_sort_iff]
  refine ⟨ordered_sort left, fun key => ?_⟩
  rw [tiedAt_sort, ties]

/-- Sorting commutes with leaving entries out. -/
theorem filter_sort (entries : List Entry) (keep : Entry → Bool) :
    (sort entries).filter keep = sort (entries.filter keep) := by
  rw [eq_sort_iff]
  refine ⟨(ordered_sort entries).filter keep, fun key => ?_⟩
  rw [tiedAt_filter, tiedAt_sort, tiedAt_filter]

end Entry

end TaggedCatalog
