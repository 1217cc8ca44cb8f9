import TaggedCatalog.Generation
import TaggedCatalog.Proofs.Catalog.Views
import TaggedCatalog.Settings.Layer

/-! # Catalogs and the order of discovery

Sources find declarations in some order. A catalog shows of it only how tagged
declarations of one package and one name follow each other, and so does the text
that is rendered from it. -/

namespace TaggedCatalog

/-! ## Tags -/

namespace Declaration

/-- The package and the name that a declaration is tagged with. -/
def tag? (declaration : Declaration) : Option (String × CodeText) :=
  declaration.marker.map fun marker => (declaration.packageName, marker.name)

/-- The tagged declarations of a package and a name, in the order in which they were found. -/
def taggedAt (package : String) (name : CodeText) (declarations : List Declaration) :
    List Declaration :=
  declarations.filter fun declaration => declaration.tag? = some (package, name)

/-- Whether lists of declarations differ only by what is not tagged and by how
declarations with different tags follow each other. -/
def SameTies (first second : List Declaration) : Prop :=
  ∀ package name, taggedAt package name first = taggedAt package name second

theorem isTagged_of_tag?_eq_some {declaration : Declaration} {tag : String × CodeText}
    (tagged : declaration.tag? = some tag) : declaration.isTagged = true := by
  cases found : declaration.marker <;> simp [tag?, isTagged, found] at tagged ⊢

/-- Declarations that are not tagged do not count for ties. -/
theorem taggedAt_filter_isTagged (package : String) (name : CodeText)
    (declarations : List Declaration) :
    taggedAt package name (declarations.filter isTagged) = taggedAt package name declarations := by
  rw [taggedAt, List.filter_filter]
  apply List.filter_congr
  intro declaration _
  by_cases tagged : declaration.tag? = some (package, name)
  · simp [tagged, isTagged_of_tag?_eq_some tagged]
  · simp [tagged]

theorem sameTies_of_filter_eq {first second : List Declaration}
    (same : first.filter isTagged = second.filter isTagged) : SameTies first second := by
  intro package name
  rw [← taggedAt_filter_isTagged, same, taggedAt_filter_isTagged]

theorem length_taggedAt_le_one {declarations : List Declaration}
    (distinct : (declarations.map tag?).Nodup) (package : String) (name : CodeText) :
    (taggedAt package name declarations).length ≤ 1 := by
  have kept : ((taggedAt package name declarations).map tag?).Nodup :=
    distinct.sublist (List.filter_sublist.map tag?)
  have alike : (taggedAt package name declarations).map tag? =
      List.replicate (taggedAt package name declarations).length (some (package, name)) := by
    rw [List.map_eq_replicate_iff]
    intro declaration member
    simpa using (List.mem_filter.mp member).2
  rw [alike, List.nodup_replicate] at kept
  exact kept

theorem sameTies_of_perm {first second : List Declaration}
    (permuted : (first.filter isTagged).Perm (second.filter isTagged))
    (distinct : ((first.filter isTagged).map tag?).Nodup) : SameTies first second := by
  intro package name
  rw [← taggedAt_filter_isTagged package name first, ← taggedAt_filter_isTagged package name second]
  have tied : (taggedAt package name (first.filter isTagged)).Perm
      (taggedAt package name (second.filter isTagged)) := permuted.filter _
  -- At most one declaration is left on either side, so there is nothing to permute.
  have short := length_taggedAt_le_one distinct package name
  cases left : taggedAt package name (first.filter isTagged) with
  | nil =>
      rw [left] at tied
      exact (List.nil_perm.mp tied).symm
  | cons head tail =>
      rw [left, List.length_cons] at short
      have single : tail = [] := List.eq_nil_of_length_eq_zero (by omega)
      rw [left, single] at tied
      rw [single]
      exact List.singleton_perm.mp tied

end Declaration

/-! ## What a catalog takes from its declarations -/

namespace Entry

theorem ofDeclaration?_orderKey (declaration : Declaration) :
    (ofDeclaration? declaration).map orderKey = declaration.tag? := by
  cases found : declaration.marker <;>
    simp [ofDeclaration?, Declaration.tag?, found, ofMarked, orderKey]

theorem tiedAt_extract (package : String) (name : CodeText) (declarations : List Declaration) :
    tiedAt (package, name) (extract declarations) =
      extract (Declaration.taggedAt package name declarations) := by
  induction declarations with
  | nil => rfl
  | cons declaration rest induction =>
      have key := ofDeclaration?_orderKey declaration
      cases found : ofDeclaration? declaration with
      | none =>
          rw [found, Option.map_none] at key
          simpa [extract, Declaration.taggedAt, found, ← key] using induction
      | some entry =>
          rw [found, Option.map_some] at key
          by_cases tied : entry.orderKey = (package, name)
          · simpa [extract, tiedAt, Declaration.taggedAt, found, ← key, tied] using induction
          · simpa [extract, tiedAt, Declaration.taggedAt, found, ← key, tied] using induction

theorem tiedAt_extract_eq {first second : List Declaration}
    (same : Declaration.SameTies first second) (key : String × CodeText) :
    tiedAt key (extract first) = tiedAt key (extract second) := by
  obtain ⟨package, name⟩ := key
  rw [tiedAt_extract, tiedAt_extract, same]

end Entry

namespace Group

/-- Lists with the same ties have the same keys, whichever comes first. -/
theorem keys_eq_of_tiedAt_eq (start : Option String) {first second : List Entry}
    (ties : ∀ key, Entry.tiedAt key first = Entry.tiedAt key second) :
    keys start first = keys start second := by
  apply List.Pairwise.eq_of_mem_iff (keys_ascend start first) (keys_ascend start second)
  intro key
  simp only [mem_keys, Entry.mem_iff_of_tiedAt_eq ties]

theorem ofKey_eq_of_tiedAt_eq (start : Option String) {first second : List Entry}
    (ties : ∀ key, Entry.tiedAt key first = Entry.tiedAt key second) (key : String) :
    ofKey start first key = ofKey start second key := by
  have sorted : Entry.sort (first.filter fun entry => entry.groupKey start == key) =
      Entry.sort (second.filter fun entry => entry.groupKey start == key) := by
    apply Entry.sort_eq_of_tiedAt_eq
    intro tie
    rw [Entry.tiedAt_filter, ties, Entry.tiedAt_filter]
  rw [ofKey, sorted, ofKey]

theorem classify_eq_of_tiedAt_eq (start : Option String) {first second : List Entry}
    (ties : ∀ key, Entry.tiedAt key first = Entry.tiedAt key second) :
    classify start first = classify start second := by
  rw [classify, classify, keys_eq_of_tiedAt_eq start ties]
  exact List.map_congr_left fun key _ => ofKey_eq_of_tiedAt_eq start ties key

end Group

namespace Catalog

theorem build_eq_of_sameTies (start : Option String) {first second : List Declaration}
    (same : Declaration.SameTies first second) : build start first = build start second := by
  have ties := Entry.tiedAt_extract_eq same
  rw [build, build, Group.classify_eq_of_tiedAt_eq start ties, Entry.sort_eq_of_tiedAt_eq ties]

end Catalog

/-! ## Generation -/

namespace Generation

theorem runLogged_eq_of_sameTies (start : Option String) (format : Format)
    {first second : List Declaration} (same : Declaration.SameTies first second) :
    runLogged start format first = runLogged start format second := by
  rw [runLogged, runLogged, run, run, Catalog.build_eq_of_sameTies start same]

/-- The catalog, its text and what is logged are the same for lists of declarations
with the same ties. So it is for lists with the same tagged declarations, and for
lists whose tagged declarations are in another order and have different tags. -/
theorem runLogged_order_irrelevant (settings : Settings) (first second : List Declaration) :
    let generated := runLogged settings.packageStart settings.format
    (Declaration.SameTies first second → generated first = generated second) ∧
    (first.filter Declaration.isTagged = second.filter Declaration.isTagged →
      generated first = generated second) ∧
    ((first.filter Declaration.isTagged).Perm (second.filter Declaration.isTagged) →
      ((first.filter Declaration.isTagged).map Declaration.tag?).Nodup →
      generated first = generated second) := by
  refine ⟨fun same => ?_, fun same => ?_, fun permuted distinct => ?_⟩
  · exact runLogged_eq_of_sameTies _ _ same
  · exact runLogged_eq_of_sameTies _ _ (Declaration.sameTies_of_filter_eq same)
  · exact runLogged_eq_of_sameTies _ _ (Declaration.sameTies_of_perm permuted distinct)

/-- Two declarations with the same tag keep their order; the others do not. -/
theorem runLogged_reordered :
    let ping : Declaration :=
      { qualifiedName := "a.Ping", packageName := "a", sourceFile := "a.py",
        marker := some { name := "ping" } }
    let pong : Declaration := { ping with qualifiedName := "a.Pong" }
    let list : Declaration := { ping with marker := some { name := "list" } }
    let base : Declaration := { ping with marker := none }
    let settings : Settings := SettingsLayer.settle {}
    Declaration.SameTies [ping, base, list, pong] [list, ping, pong] ∧
      runLogged settings.packageStart settings.format [ping, base, list, pong] =
        runLogged settings.packageStart settings.format [list, ping, pong] := by
  intro ping pong list base settings
  have same : Declaration.SameTies [ping, base, list, pong] [list, ping, pong] := by
    intro package name
    by_cases atList : CodeText.of "list" = name
    · subst name
      simp [Declaration.taggedAt, Declaration.tag?, List.filter_cons, ping, pong, list, base]
    · simp [Declaration.taggedAt, Declaration.tag?, List.filter_cons, ping, pong, list, base,
        atList]
  exact ⟨same, (runLogged_order_irrelevant settings _ _).1 same⟩

end Generation

end TaggedCatalog
