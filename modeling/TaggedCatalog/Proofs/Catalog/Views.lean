import TaggedCatalog.Proofs.Catalog.EntryOrder

/-! # The two views of a catalog

The groups of a catalog and its list of entries are sorted apart from each other.
They still show the same: read by the key of a group, the list of all entries is
that group. -/

namespace TaggedCatalog

/-! ## Extraction -/

namespace Declaration

def isTagged (declaration : Declaration) : Bool := declaration.marker.isSome

/-- Whether a declaration is tagged and its entry is the given one. -/
def Gives (declaration : Declaration) (entry : Entry) : Prop :=
  ∃ marker, declaration.marker = some marker ∧ entry = Entry.ofMarked declaration marker

end Declaration

namespace Entry

/-- The tagged declarations give one entry each, in their order, and the others
give none. -/
theorem gives_extract (declarations : List Declaration) :
    List.Forall₂ Declaration.Gives (declarations.filter Declaration.isTagged)
      (extract declarations) := by
  induction declarations with
  | nil => exact .nil
  | cons declaration rest induction =>
      cases tag : declaration.marker with
      | none => simpa [extract, ofDeclaration?, Declaration.isTagged, tag] using induction
      | some marker =>
          have given : ofDeclaration? declaration = some (ofMarked declaration marker) := by
            simp [ofDeclaration?, tag]
          rw [List.filter_cons_of_pos (by simp [Declaration.isTagged, tag]), extract,
            List.filterMap_cons_some given]
          exact .cons ⟨marker, tag, rfl⟩ induction

end Entry

/-! ## Keys of groups -/

/-- No value occurs twice once duplicates are erased. -/
theorem nodup_eraseDups (values : List String) : values.eraseDups.Nodup := by
  induction length : values.length using Nat.strong_induction_on generalizing values with
  | _ size induction =>
      cases values with
      | nil => simp
      | cons head tail =>
          rw [List.eraseDups_cons, List.nodup_cons]
          constructor
          · simp [List.mem_eraseDups]
          · apply induction _ _ _ rfl
            rw [← length, List.length_cons]
            exact Nat.lt_succ_of_le (List.length_filter_le _ _)

namespace Group

theorem mem_keys {start : Option String} {entries : List Entry} {key : String} :
    key ∈ keys start entries ↔ ∃ entry ∈ entries, entry.groupKey start = key := by
  simp [keys, List.mem_mergeSort, List.mem_eraseDups]

theorem keys_ascend (start : Option String) (entries : List Entry) :
    (keys start entries).Pairwise (· < ·) := by
  have sorted : (keys start entries).Pairwise (· ≤ ·) := by
    have merged := @List.pairwise_mergeSort _ (fun left right : String => decide (left ≤ right))
      (fun first second third firstSecond secondThird => by
        simp only [decide_eq_true_eq] at *
        exact le_trans firstSecond secondThird)
      (fun left right => by simpa using le_total left right)
      (entries.map (Entry.groupKey start)).eraseDups
    simpa [keys] using merged
  have distinct : (keys start entries).Nodup :=
    (List.mergeSort_perm _ _).nodup_iff.mpr (nodup_eraseDups _)
  exact (sorted.and distinct).imp fun both => lt_of_le_of_ne both.1 both.2

theorem map_key_classify (start : Option String) (entries : List Entry) :
    (classify start entries).map key = keys start entries := by
  simp [classify, ofKey, Function.comp_def]

theorem mem_classify {start : Option String} {entries : List Entry} {group : Group} :
    group ∈ classify start entries ↔
      ∃ key, (∃ entry ∈ entries, entry.groupKey start = key) ∧ ofKey start entries key = group := by
  simp [classify, mem_keys]

/-- A group is what its key leaves of the sorted list of all entries. -/
theorem entries_ofKey (start : Option String) (entries : List Entry) (key : String) :
    (ofKey start entries key).entries =
      (Entry.sort entries).filter fun entry => entry.groupKey start == key := by
  rw [Entry.filter_sort]
  rfl

theorem entries_ofKey_ne_nil {start : Option String} {entries : List Entry} {entry : Entry}
    (member : entry ∈ entries) : (ofKey start entries (entry.groupKey start)).entries ≠ [] := by
  have inGroup : entry ∈ (ofKey start entries (entry.groupKey start)).entries := by
    rw [entries_ofKey, List.mem_filter]
    exact ⟨(Entry.sort_perm entries).mem_iff.mpr member, by simp⟩
  exact List.ne_nil_of_mem inGroup

/-- An entry is in the group of its own key as often as it occurs, and in no other. -/
theorem count_entries_ofKey (start : Option String) (entries : List Entry) (key : String)
    (entry : Entry) :
    (ofKey start entries key).entries.count entry =
      if entry.groupKey start = key then entries.count entry else 0 := by
  rw [entries_ofKey]
  split
  · rename_i own
    rw [List.count_filter (by simpa using own), (Entry.sort_perm entries).count_eq]
  · rename_i other
    apply List.count_eq_zero_of_not_mem
    intro member
    exact other (by simpa using (List.mem_filter.mp member).2)

/-- Parts of a list by distinct keys, put together, hold what has one of the keys. -/
private theorem flatMap_filter_perm (keyOf : Entry → String) {keys : List String}
    (distinct : keys.Nodup) (entries : List Entry) :
    (keys.flatMap fun key => entries.filter fun entry => keyOf entry == key).Perm
      (entries.filter fun entry => keys.contains (keyOf entry)) := by
  induction keys with
  | nil => simp
  | cons first rest induction =>
      have parts := List.nodup_cons.mp distinct
      have atFirst : (entries.filter fun entry => (first :: rest).contains (keyOf entry)).filter
            (fun entry => keyOf entry == first) =
          entries.filter fun entry => keyOf entry == first := by
        rw [List.filter_filter]
        apply List.filter_congr
        intro entry _
        simp +contextual
      have atRest : (entries.filter fun entry => (first :: rest).contains (keyOf entry)).filter
            (fun entry => !(keyOf entry == first)) =
          entries.filter fun entry => rest.contains (keyOf entry) := by
        rw [List.filter_filter]
        apply List.filter_congr
        intro entry _
        by_cases atKey : keyOf entry = first
        · simp [atKey, parts.1]
        · simp [atKey]
      have together := List.filter_append_perm (fun entry => keyOf entry == first)
        (entries.filter fun entry => (first :: rest).contains (keyOf entry))
      rw [atFirst, atRest] at together
      rw [List.flatMap_cons]
      exact ((induction parts.2).append_left _).trans together

/-- The groups together hold the entries, as often as they occur. -/
theorem flatMap_entries_classify_perm (start : Option String) (entries : List Entry) :
    ((classify start entries).flatMap Group.entries).Perm entries := by
  have distinct : (keys start entries).Nodup := (keys_ascend start entries).imp ne_of_lt
  have covered : ((Entry.sort entries).filter fun entry =>
      (keys start entries).contains (entry.groupKey start)) = Entry.sort entries := by
    rw [List.filter_eq_self]
    intro entry member
    rw [List.contains_iff_mem, mem_keys]
    exact ⟨entry, (Entry.sort_perm entries).mem_iff.mp member, rfl⟩
  have parts := flatMap_filter_perm (Entry.groupKey start) distinct (Entry.sort entries)
  rw [covered] at parts
  rw [classify, List.flatMap_map]
  simp only [entries_ofKey]
  exact parts.trans (Entry.sort_perm entries)

end Group

/-! ## Agreement -/

namespace Catalog

/-- The two views of a catalog show the same entries: those of the tagged
declarations. -/
structure ViewsAgree (start : Option String) (declarations : List Declaration)
    (catalog : Catalog) : Prop where
  keysAscend : (catalog.groups.map Group.key).Pairwise (· < ·)
  groupsNonempty : ∀ group ∈ catalog.groups, group.entries ≠ []
  /-- Every group is a part of the list of entries, in the order of that list. -/
  groupsFilter : ∀ group ∈ catalog.groups, group.entries = catalog.entries.filter fun entry =>
    GroupKey.derive start entry.packageName == group.key
  keysListed : ∀ entry ∈ catalog.entries,
    GroupKey.derive start entry.packageName ∈ catalog.groups.map Group.key
  /-- There is one extracted entry per tagged declaration and no other. -/
  onlyTagged : List.Forall₂ Declaration.Gives (declarations.filter Declaration.isTagged)
    (Entry.extract declarations)
  entriesPerm : catalog.entries.Perm (Entry.extract declarations)
  /-- Nothing is lost or repeated over all groups together. -/
  groupsPerm : (catalog.groups.flatMap Group.entries).Perm (Entry.extract declarations)
  /-- An entry is in one group only, as often as it was extracted. -/
  groupsCount : ∀ group ∈ catalog.groups, ∀ entry, group.entries.count entry =
    if GroupKey.derive start entry.packageName = group.key
    then (Entry.extract declarations).count entry else 0

theorem build_viewsAgree (start : Option String) (declarations : List Declaration) :
    ViewsAgree start declarations (build start declarations) where
  keysAscend := by
    rw [build, Group.map_key_classify]
    exact Group.keys_ascend start _
  groupsNonempty := by
    intro group member
    rcases Group.mem_classify.mp member with ⟨key, ⟨entry, entryMember, rfl⟩, rfl⟩
    exact Group.entries_ofKey_ne_nil entryMember
  groupsFilter := by
    intro group member
    rcases Group.mem_classify.mp member with ⟨key, _, rfl⟩
    exact Group.entries_ofKey start _ key
  keysListed := by
    intro entry member
    rw [build, Group.map_key_classify, Group.mem_keys]
    exact ⟨entry, (Entry.sort_perm _).mem_iff.mp member, rfl⟩
  onlyTagged := Entry.gives_extract declarations
  entriesPerm := Entry.sort_perm _
  groupsPerm := Group.flatMap_entries_classify_perm start _
  groupsCount := by
    intro group member entry
    rcases Group.mem_classify.mp member with ⟨key, _, rfl⟩
    exact Group.count_entries_ofKey start _ key entry

end Catalog

end TaggedCatalog
