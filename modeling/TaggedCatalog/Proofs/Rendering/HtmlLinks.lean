import TaggedCatalog.Rendering.Html
import TaggedCatalog.Proofs.Catalog.Views

/-! # Links between index and descriptions

Index items are written group by group and headings in the order of all entries, but
both views hold the same names. So every link leads to an anchor of the other part. An
anchor is found by its id alone, and the ids of the two parts share one namespace: they
stay apart only if no name is another one behind the mark of the index. -/

namespace TaggedCatalog.Html

/-! ## The fragment as a list of elements -/

/-- A place in the fragment that can be linked to, and the link that stands there. -/
structure Anchor where
  id : CodeText
  target : CodeText
  label : CodeText
deriving DecidableEq, Repr

/-- What one line of the printer holds. -/
inductive Element where
  | indexItem (anchor : Anchor)
  | heading (anchor : Anchor)
  | other (text : CodeText)
deriving DecidableEq, Repr

namespace Element

def text : Element → CodeText
  | indexItem anchor =>
      "<li id='" ++ anchor.id ++ "'><a href='#" ++ anchor.target ++ "'>" ++ anchor.label ++ "</a>"
  | heading anchor =>
      "<h3 id='" ++ anchor.id ++ "'><a href='#" ++ anchor.target ++ "'>" ++ anchor.label ++
        "</a></h3>"
  | other text => text

@[simp] theorem text_other (text : CodeText) : (other text).text = text := rfl

def indexItem? : Element → Option Anchor
  | indexItem anchor => some anchor
  | heading _ | other _ => none

def heading? : Element → Option Anchor
  | heading anchor => some anchor
  | indexItem _ | other _ => none

def id? : Element → Option CodeText
  | indexItem anchor | heading anchor => some anchor.id
  | other _ => none

/-- The elements, each on a line of its own. -/
def render (elements : List Element) : CodeText :=
  elements.flatMap fun element => Printer.line element.text

end Element

def indexAnchor (name : CodeText) : Anchor where
  id := "pkg_" ++ name
  target := name
  label := name

def headingAnchor (name : CodeText) : Anchor where
  id := name
  target := "pkg_" ++ name
  label := name

def groupElements (group : Group) : List Element :=
  .other ("<dt>" ++ group.key ++ "</dt>") :: .other "<dd><ul>" ::
    (group.entries.map fun entry => .indexItem (indexAnchor entry.name)) ++ [.other "</ul></dd>"]

def entryElements (entry : Entry) : List Element :=
  .heading (headingAnchor entry.name) ::
    .other ("<p>" ++ entry.description ++ "</p>") ::
    .other "<ul>" ::
    (entry.options.map fun option => .other ("<li>" ++ option)) ++
    [.other "</ul>", .other "<ul>", .other ("<li>" ++ entry.qualifiedName),
      .other ("<li>" ++ entry.sourceFile), .other "</ul>"]

/-- The elements of a catalog in the order in which they are printed. -/
def elements (catalog : Catalog) : List Element :=
  .other "<dl>" :: catalog.groups.flatMap groupElements ++
    .other "</dl>" :: catalog.entries.flatMap entryElements

theorem text_indexItem (name : CodeText) :
    (Element.indexItem (indexAnchor name)).text = indexItem name := by
  simp only [Element.text, indexAnchor, indexItem, List.append_assoc]
  rfl

theorem text_heading (name : CodeText) :
    (Element.heading (headingAnchor name)).text = heading name := by
  simp only [Element.text, headingAnchor, heading, List.append_assoc]
  rfl

theorem render_groupElements (group : Group) :
    Element.render (groupElements group) = (renderGroup group.key group.entries).flatten := by
  simp only [Element.render, List.flatMap_def, groupElements, renderGroup, List.map_append,
    List.map_cons, List.map_nil, List.map_map, Function.comp_def, text_indexItem,
    Element.text_other, List.cons_append]

theorem render_entryElements (entry : Entry) :
    Element.render (entryElements entry) = (renderEntry entry).flatten := by
  simp only [Element.render, List.flatMap_def, entryElements, renderEntry, List.map_append,
    List.map_cons, List.map_nil, List.map_map, Function.comp_def, text_heading,
    Element.text_other, List.cons_append]

/-- A catalog is printed as its elements are, line by line. -/
theorem render_eq_render_elements (catalog : Catalog) :
    printer.render catalog = Element.render (elements catalog) := by
  have groups : Element.render (catalog.groups.flatMap groupElements) =
      catalog.groups.flatMap fun group => (renderGroup group.key group.entries).flatten := by
    simp only [← render_groupElements, Element.render, List.flatMap_assoc]
  have entries : Element.render (catalog.entries.flatMap entryElements) =
      catalog.entries.flatMap fun entry => (renderEntry entry).flatten := by
    simp only [← render_entryElements, Element.render, List.flatMap_assoc]
  have rendered : Element.render (elements catalog) =
      Printer.line "<dl>" ++ Element.render (catalog.groups.flatMap groupElements) ++
        (Printer.line "</dl>" ++ Element.render (catalog.entries.flatMap entryElements)) := by
    simp only [elements, Element.render, List.flatMap_append, List.flatMap_cons,
      List.cons_append, Element.text_other, List.append_assoc]
  rw [rendered, groups, entries, Printer.render_eq]
  simp only [printer, List.flatten_cons, List.flatten_nil, List.append_nil, List.nil_append,
    List.append_assoc]

/-! ## Anchors -/

def indexItems (catalog : Catalog) : List Anchor := (elements catalog).filterMap Element.indexItem?

def headings (catalog : Catalog) : List Anchor := (elements catalog).filterMap Element.heading?

/-- All ids that the printer writes, in both parts. -/
def ids (catalog : Catalog) : List CodeText := (elements catalog).filterMap Element.id?

def indexNames (catalog : Catalog) : List CodeText :=
  (catalog.groups.flatMap Group.entries).map Entry.name

section Selection

variable {α : Type} (select : Element → Option α)

theorem filterMap_groupElements (plain : ∀ text, select (.other text) = none) (group : Group) :
    (groupElements group).filterMap select =
      group.entries.filterMap fun entry => select (.indexItem (indexAnchor entry.name)) := by
  simp [groupElements, plain]

theorem filterMap_entryElements (plain : ∀ text, select (.other text) = none) (entry : Entry) :
    (entryElements entry).filterMap select =
      (select (.heading (headingAnchor entry.name))).toList := by
  have options : (entry.options.map fun option => Element.other ("<li>" ++ option)).filterMap
      select = [] := by
    simp [plain]
  cases head : select (.heading (headingAnchor entry.name)) <;>
    simp [entryElements, plain, options, head]

/-- A choice that takes no plain text takes first from the index items and then from the
headings. -/
theorem filterMap_elements (plain : ∀ text, select (.other text) = none) (catalog : Catalog) :
    (elements catalog).filterMap select =
      ((indexNames catalog).filterMap fun name => select (.indexItem (indexAnchor name))) ++
        (catalog.entries.map Entry.name).filterMap fun name =>
          select (.heading (headingAnchor name)) := by
  have index : (catalog.groups.flatMap groupElements).filterMap select =
      (indexNames catalog).filterMap fun name => select (.indexItem (indexAnchor name)) := by
    rw [List.filterMap_flatMap, indexNames, List.filterMap_map, List.filterMap_flatMap]
    simp only [filterMap_groupElements select plain, Function.comp_def]
  have descriptions : (catalog.entries.flatMap entryElements).filterMap select =
      (catalog.entries.map Entry.name).filterMap fun name =>
        select (.heading (headingAnchor name)) := by
    rw [List.filterMap_flatMap, List.filterMap_map, List.filterMap_eq_flatMap_toList]
    simp only [filterMap_entryElements select plain, Function.comp_def]
  rw [elements, List.cons_append, List.filterMap_cons_none (plain _), List.filterMap_append,
    List.filterMap_cons_none (plain _), index, descriptions]

end Selection

theorem indexItems_eq (catalog : Catalog) :
    indexItems catalog = (indexNames catalog).map indexAnchor := by
  rw [indexItems, filterMap_elements _ fun _ => rfl]
  simp [Element.indexItem?]

theorem headings_eq (catalog : Catalog) :
    headings catalog = (catalog.entries.map Entry.name).map headingAnchor := by
  rw [headings, filterMap_elements _ fun _ => rfl]
  simp [Element.heading?]

theorem ids_eq (catalog : Catalog) :
    ids catalog =
      (indexNames catalog).map (CodeText.of "pkg_" ++ ·) ++ catalog.entries.map Entry.name := by
  rw [ids, filterMap_elements _ fun _ => rfl]
  simp [Element.id?, indexAnchor, headingAnchor]

/-! ## Links and ids of a built catalog -/

/-- The index holds every name as often as the list of entries does. -/
theorem indexNames_build_perm (start : Option String) (declarations : List Declaration) :
    (indexNames (Catalog.build start declarations)).Perm
      ((Catalog.build start declarations).entries.map Entry.name) := by
  apply List.Perm.map
  exact (Group.flatMap_entries_classify_perm start _).trans (Entry.sort_perm _).symm

theorem countP_indexItems (catalog : Catalog) (name : CodeText) :
    (indexItems catalog).countP (fun item => item.id = "pkg_" ++ name ∧ item.target = name) =
      (indexNames catalog).count name := by
  rw [indexItems_eq, List.countP_map, List.count]
  congr 1
  funext other
  by_cases same : other = name <;> simp [indexAnchor, same]

theorem countP_headings (catalog : Catalog) (name : CodeText) :
    (headings catalog).countP (fun heading =>
        heading.id = name ∧ heading.target = "pkg_" ++ name) =
      (catalog.entries.map Entry.name).count name := by
  rw [headings_eq, List.countP_map, List.count]
  congr 1
  funext other
  by_cases same : other = name <;> simp [headingAnchor, same]

theorem nodup_ids_iff {catalog : Catalog}
    (agree : (indexNames catalog).Perm (catalog.entries.map Entry.name)) :
    (ids catalog).Nodup ↔
      (catalog.entries.map Entry.name).Nodup ∧
        ∀ entry ∈ catalog.entries, ∀ other ∈ catalog.entries,
          entry.name ≠ "pkg_" ++ other.name := by
  have marked : ((indexNames catalog).map (CodeText.of "pkg_" ++ ·)).Nodup ↔
      (catalog.entries.map Entry.name).Nodup := by
    rw [List.nodup_map_iff fun _ _ => List.append_cancel_left, agree.nodup_iff]
  rw [ids_eq, List.nodup_append, marked]
  -- What is left is that no id of the index is the name of a heading.
  constructor
  · rintro ⟨distinct, -, apart⟩
    refine ⟨distinct, ?_⟩
    intro entry entryMember other otherMember clash
    have listed : other.name ∈ indexNames catalog :=
      agree.mem_iff.mpr (List.mem_map_of_mem otherMember)
    exact apart _ (List.mem_map_of_mem listed) _ (List.mem_map_of_mem entryMember) clash.symm
  · rintro ⟨distinct, apart⟩
    refine ⟨distinct, distinct, ?_⟩
    intro id inIndex name inNames same
    obtain ⟨listedName, listed, rfl⟩ := List.mem_map.mp inIndex
    obtain ⟨other, otherMember, rfl⟩ := List.mem_map.mp (agree.mem_iff.mp listed)
    obtain ⟨entry, entryMember, rfl⟩ := List.mem_map.mp inNames
    exact apart entry entryMember other otherMember same.symm

/-- In the fragment of a built catalog, every name has as many index items as headings,
which link to each other, and no id is written twice exactly if no name is repeated or
marked as an index item of another. -/
theorem build_links_resolve (start : Option String) (declarations : List Declaration) :
    let catalog := Catalog.build start declarations
    printer.render catalog = Element.render (elements catalog) ∧
      (∀ name : CodeText,
        (indexItems catalog).countP (fun item => item.id = "pkg_" ++ name ∧ item.target = name) =
            (headings catalog).countP (fun heading =>
              heading.id = name ∧ heading.target = "pkg_" ++ name) ∧
          (headings catalog).countP (fun heading =>
              heading.id = name ∧ heading.target = "pkg_" ++ name) =
            (catalog.entries.map Entry.name).count name) ∧
      (∀ item ∈ indexItems catalog, ∃ heading ∈ headings catalog,
        heading.id = item.target ∧ heading.target = item.id) ∧
      (∀ heading ∈ headings catalog, ∃ item ∈ indexItems catalog,
        item.id = heading.target ∧ item.target = heading.id) ∧
      ((ids catalog).Nodup ↔
        (catalog.entries.map Entry.name).Nodup ∧
          ∀ entry ∈ catalog.entries, ∀ other ∈ catalog.entries,
            entry.name ≠ "pkg_" ++ other.name) := by
  intro catalog
  have agree : (indexNames catalog).Perm (catalog.entries.map Entry.name) :=
    indexNames_build_perm start declarations
  refine ⟨render_eq_render_elements catalog, ?_, ?_, ?_, nodup_ids_iff agree⟩
  · intro name
    rw [countP_indexItems, countP_headings]
    exact ⟨agree.count_eq name, rfl⟩
  · intro item member
    rw [indexItems_eq] at member
    obtain ⟨name, listed, rfl⟩ := List.mem_map.mp member
    refine ⟨headingAnchor name, ?_, rfl, rfl⟩
    rw [headings_eq]
    exact List.mem_map_of_mem (agree.mem_iff.mp listed)
  · intro heading member
    rw [headings_eq] at member
    obtain ⟨name, described, rfl⟩ := List.mem_map.mp member
    refine ⟨indexAnchor name, ?_, rfl, rfl⟩
    rw [indexItems_eq]
    exact List.mem_map_of_mem (agree.mem_iff.mpr described)

end TaggedCatalog.Html
