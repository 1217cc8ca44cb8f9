import TaggedCatalog.Proofs.Catalog.EntryOrder

/-! # The stable sort of entries

Texts compare by the numbers of their code points. Of all lists with the same entries,
exactly one ascends in that order and keeps tied entries as they stand, and sorting
gives this one. So entries that come in parts may be sorted part by part first. -/

namespace TaggedCatalog

/-- Lists of letters compare as the lists of their numbers do. -/
theorem map_lt_map_iff {α : Type} [LT α] {number : α → Nat} (distinct : Function.Injective number)
    (ascends : ∀ first second, number first < number second ↔ first < second)
    (left right : List α) : left.map number < right.map number ↔ left < right := by
  induction left generalizing right with
  | nil => cases right <;> simp
  | cons c rest induction =>
      cases right with
      | nil => simp
      | cons other others =>
          rw [List.map_cons, List.map_cons, List.cons_lt_cons_iff, List.cons_lt_cons_iff,
            induction, ascends, distinct.eq_iff]

namespace CodeText

def numbers (codes : CodeText) : List Nat := codes.map CodePoint.number

theorem numbers_lt_iff (left right : CodeText) : numbers left < numbers right ↔ left < right :=
  map_lt_map_iff CodePoint.number_injective (fun _ _ => Iff.rfl) left right

theorem numbers_le_iff (left right : CodeText) : numbers left ≤ numbers right ↔ left ≤ right := by
  rw [← not_lt, ← not_lt, numbers_lt_iff]

theorem numbers_of (text : String) : numbers (of text) = text.toList.map Char.toNat := by
  rw [numbers, of, List.map_map]
  rfl

theorem numbers_of_lt_iff (left right : String) :
    numbers (of left) < numbers (of right) ↔ left < right := by
  have distinct : Function.Injective Char.toNat := fun _ _ same => Char.toNat_inj.mp same
  rw [numbers_of, numbers_of, map_lt_map_iff distinct fun _ _ => Iff.rfl, String.lt_iff_toList_lt]

theorem numbers_of_inj (left right : String) :
    numbers (of left) = numbers (of right) ↔ left = right :=
  ((List.map_injective_iff.mpr CodePoint.number_injective).comp of_injective).eq_iff

end CodeText

namespace Entry

/-! ## The only stable sort -/

/-- The code points of package and name, compared package first. -/
def points (entry : Entry) : List Nat ×ₗ List Nat :=
  toLex (CodeText.numbers entry.packageName, CodeText.numbers entry.name)

theorem precedes_iff_points_le (left right : Entry) :
    precedes left right = true ↔ left.points ≤ right.points := by
  rw [precedes_iff, Prod.Lex.toLex_le_toLex, points, points, Prod.Lex.toLex_le_toLex,
    CodeText.numbers_of_lt_iff, CodeText.numbers_le_iff, CodeText.numbers_of_inj]
  rfl

/-- A list that holds the given entries, ascends by code points and keeps tied entries as
they stand. -/
structure IsStableSort (entries sorted : List Entry) : Prop where
  permuted : sorted.Perm entries
  ascends : sorted.Pairwise fun left right => left.points ≤ right.points
  stable : ∀ key, tiedAt key sorted = tiedAt key entries

theorem ordered_iff_ascends (entries : List Entry) :
    Ordered entries ↔ entries.Pairwise fun left right => left.points ≤ right.points := by
  simp only [Ordered, precedes_iff_points_le]

theorem isStableSort_iff (entries sorted : List Entry) :
    IsStableSort entries sorted ↔ sorted = sort entries := by
  constructor
  · intro isSort
    rw [eq_sort_iff, ordered_iff_ascends]
    exact ⟨isSort.ascends, isSort.stable⟩
  · rintro rfl
    exact ⟨sort_perm entries, (ordered_iff_ascends _).mp (ordered_sort entries),
      fun key => tiedAt_sort key entries⟩

/-! ## Sorting part by part -/

theorem tiedAt_flatten (key : String × CodeText) (parts : List (List Entry)) :
    tiedAt key parts.flatten = (parts.map (tiedAt key)).flatten :=
  List.filter_flatten

theorem sort_flatten_map_sort (parts : List (List Entry)) :
    sort (parts.map sort).flatten = sort parts.flatten := by
  apply sort_eq_of_tiedAt_eq
  intro key
  have sameTies : parts.map (tiedAt key ∘ sort) = parts.map (tiedAt key) := by
    apply List.map_congr_left
    intro part _
    exact tiedAt_sort key part
  rw [tiedAt_flatten, tiedAt_flatten, List.map_map, sameTies]

/-- Sorting gives the only stable sort of any entries, and sorting two parts first makes
no difference. -/
theorem sort_is_only_stable_sort :
    (∀ entries sorted, IsStableSort entries sorted ↔ sorted = sort entries) ∧
      ∀ first second, sort (sort first ++ sort second) = sort (first ++ second) := by
  refine ⟨isStableSort_iff, fun first second => ?_⟩
  have twoParts := sort_flatten_map_sort [first, second]
  simpa using twoParts

end Entry

end TaggedCatalog
