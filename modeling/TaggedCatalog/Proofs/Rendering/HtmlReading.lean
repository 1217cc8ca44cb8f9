import Mathlib.Tactic.MkIffOfInductiveProp
import TaggedCatalog.GroupKey
import TaggedCatalog.Proofs.Rendering.Reading
import TaggedCatalog.Proofs.Text.Splitting
import TaggedCatalog.Rendering.Html

/-! # Reading HTML

The pieces of the fragment are what stands between its opening angle brackets: a tag
and the text behind it. Where no text of the catalog has such a bracket, every piece
starts with the tag that the printer wrote, so names, items and descriptions are
found by their tags and taken out from between two fixed texts. -/

namespace TaggedCatalog

namespace GroupKey

@[simp] theorem stripStart_append {α : Type} [DecidableEq α] (start text : List α) :
    stripStart start (start ++ text) = some text := by
  induction start with
  | nil => rfl
  | cons c start induction => simp [stripStart, induction]

end GroupKey

namespace Html

/-! ## Pieces -/

/-- The tag of an item in the index, and that of the link in it. -/
def indexPieces (entry : Entry) : List CodeText :=
  ["li id='pkg_" ++ entry.name ++ "'>",
   "a href='#" ++ entry.name ++ "'>" ++ entry.name, "/a>\n"]

def itemPiece (text : CodeText) : CodeText := "li>" ++ text ++ "\n"

/-- The heading and the description, up to the list of options. -/
def headPieces (entry : Entry) : List CodeText :=
  ["h3 id='" ++ entry.name ++ "'>",
   "a href='#pkg_" ++ entry.name ++ "'>" ++ entry.name,
   "/a>", "/h3>\n", "p>" ++ entry.description, "/p>\n", "ul>\n"]

/-- The end of the list of options, and the list of where the class comes from. -/
def originPieces (entry : Entry) : List CodeText :=
  ["/ul>\n", "ul>\n", itemPiece entry.qualifiedName, itemPiece entry.sourceFile, "/ul>\n"]

def layout : CatalogLayout CodeText where
  opening := ["dl>\n"]
  group group :=
    ("dt>" ++ CodeText.of group.key) :: "/dt>\n" :: "dd>" :: "ul>\n" ::
      (group.entries.flatMap indexPieces ++ [CodeText.of "/ul>", CodeText.of "/dd>\n"])
  closing := ["/dl>\n"]
  entry entry := headPieces entry ++ (entry.options.map itemPiece ++ originPieces entry)

/-- A piece as it was written. -/
def opened (piece : CodeText) : CodeText := .char '<' :: piece

theorem line_indexItem (entry : Entry) :
    Printer.line (indexItem entry.name) = (indexPieces entry).flatMap opened := by
  simp only [Printer.line, indexItem, indexPieces, List.flatMap_cons, List.flatMap_nil, opened,
    List.append_assoc, List.cons_append]
  rfl

theorem line_item (text : CodeText) : Printer.line ("<li>" ++ text) = opened (itemPiece text) := by
  simp only [Printer.line, itemPiece, opened, List.append_assoc]
  rfl

theorem flatten_renderGroup (group : Group) :
    (renderGroup group.key group.entries).flatten = (layout.group group).flatMap opened := by
  have items : (group.entries.map fun entry => Printer.line (indexItem entry.name)).flatten =
      (group.entries.flatMap indexPieces).flatMap opened := by
    rw [List.flatMap_assoc, List.flatMap_def]
    simp only [line_indexItem]
  simp only [renderGroup, layout, List.cons_append, List.flatten_cons, List.flatten_append,
    items, List.flatMap_cons, List.flatMap_append]
  simp only [Printer.line, opened, List.append_assoc, List.cons_append]
  rfl

theorem flatten_renderEntry (entry : Entry) :
    (renderEntry entry).flatten = (layout.entry entry).flatMap opened := by
  have options : (entry.options.map fun option => opened (itemPiece option)).flatten =
      (entry.options.map itemPiece).flatMap opened := by
    rw [List.flatMap_map, List.flatMap_def]
  simp only [renderEntry, layout, headPieces, originPieces, heading, List.cons_append,
    List.flatten_cons, List.flatten_append, line_item, options, List.flatMap_cons,
    List.flatMap_append, List.flatten_nil, List.flatMap_nil]
  simp only [Printer.line, opened, List.append_assoc, List.cons_append, List.nil_append]
  rfl

/-- The fragment is the pieces of the layout, each with its bracket. -/
theorem render_eq_pieces (catalog : Catalog) :
    printer.render catalog = (layout.pieces catalog).flatMap opened := by
  simp only [Printer.render_eq, printer, flatten_renderGroup, flatten_renderEntry,
    CatalogLayout.pieces, CatalogLayout.index, CatalogLayout.descriptions,
    List.flatMap_append, List.flatMap_assoc, List.flatten_nil, List.nil_append, List.append_nil,
    List.append_assoc]
  rfl

/-! ## Reading pieces -/

/-- What stands between two texts, if a piece starts with one and ends with the other. -/
def between (start finish piece : CodeText) : Option CodeText := do
  let rest ← GroupKey.stripStart start piece
  let turned ← GroupKey.stripStart finish.reverse rest.reverse
  return turned.reverse

theorem between_append (start finish text : CodeText) :
    between start finish (start ++ text ++ finish) = some text := by
  simp [between]

def key? : CodeText → Option CodeText := GroupKey.stripStart "dt>"

def indexName? : CodeText → Option CodeText := between "li id='pkg_" "'>"

def headingName? : CodeText → Option CodeText := between "h3 id='" "'>"

def description? : CodeText → Option CodeText := GroupKey.stripStart "p>"

def item? : CodeText → Option CodeText := between "li>" "\n"

/-- The key and the names of the items. -/
def readGroup : List CodeText → Option ShownGroup
  | first :: rest =>
      (key? first).map fun key => ⟨key, rest.filterMap indexName?⟩
  | [] => none

/-- The name in the heading, the description, and the items, of which the last two say
where the class comes from. -/
def readEntry (pieces : List CodeText) : Option ShownEntry := do
  let name ← pieces.head?.bind headingName?
  let description ← pieces.findSome? description?
  match (pieces.filterMap item?).reverse with
  | sourceFile :: qualifiedName :: options =>
      return {
        name := name
        options := options.reverse
        description := description
        qualifiedName := qualifiedName
        sourceFile := sourceFile }
  | _ => none

def reader : CatalogReader CodeText where
  startsGroup piece := (key? piece).isSome
  startsEntry piece := (headingName? piece).isSome
  endsIndex piece := piece == "/dl>\n"
  group := readGroup
  entry := readEntry

/-- What a text in this format shows. -/
def decode (text : CodeText) : Option ShownCatalog :=
  reader.read (Text.splitOnChar (.char '<') text).tail

/-! ### Groups -/

theorem mem_indexPieces_iff {entry : Entry} {piece : CodeText} :
    piece ∈ indexPieces entry ↔
      piece = "li id='pkg_" ++ entry.name ++ "'>" ∨
      piece = "a href='#" ++ entry.name ++ "'>" ++ entry.name ∨
      piece = "/a>\n" := by
  simp only [indexPieces, List.mem_cons, List.not_mem_nil, or_false]

theorem isBlock_group (group : Group) : IsBlock reader.startsGroup (layout.group group) := by
  refine ⟨rfl, ?_⟩
  intro piece member
  simp only [List.mem_cons, List.mem_append, List.mem_flatMap, List.not_mem_nil, or_false,
    mem_indexPieces_iff] at member
  rcases member with rfl | rfl | rfl | ⟨entry, -, rfl | rfl | rfl⟩ | rfl | rfl <;> rfl

/-- No piece of a group is taken for the end of the index or for a heading. -/
theorem inIndex_group {group : Group} {piece : CodeText} (member : piece ∈ layout.group group) :
    reader.endsIndex piece = false ∧ reader.startsEntry piece = false := by
  simp only [layout, List.mem_cons, List.mem_append, List.mem_flatMap, List.not_mem_nil, or_false,
    mem_indexPieces_iff] at member
  rcases member with rfl | rfl | rfl | rfl | ⟨entry, -, rfl | rfl | rfl⟩ | rfl | rfl <;>
    exact ⟨rfl, rfl⟩

theorem filterMap_indexName_indexPieces (entry : Entry) :
    (indexPieces entry).filterMap indexName? = [entry.name] := by
  have name : indexName? ("li id='pkg_" ++ entry.name ++ "'>") =
      some entry.name := between_append _ _ _
  rw [indexPieces, List.filterMap_cons_some name]
  rfl

theorem readGroup_layout (group : Group) : readGroup (layout.group group) = some group.shown := by
  have names : (group.entries.flatMap indexPieces).filterMap indexName? =
      group.entries.map fun entry => entry.name := by
    simp only [List.filterMap_flatMap, filterMap_indexName_indexPieces]
    exact List.flatMap_pure_eq_map _ _
  have key : key? ("dt>" ++ CodeText.of group.key) =
      some (CodeText.of group.key) :=
    GroupKey.stripStart_append _ _
  have items : (CodeText.of "/dt>\n" :: CodeText.of "dd>" :: CodeText.of "ul>\n" ::
      (group.entries.flatMap indexPieces ++ [CodeText.of "/ul>", CodeText.of "/dd>\n"])).filterMap
        indexName? = group.entries.map fun entry => entry.name := by
    rw [List.filterMap_cons_none rfl, List.filterMap_cons_none rfl, List.filterMap_cons_none rfl,
      List.filterMap_append, names]
    exact List.append_nil _
  simp only [layout, readGroup, key, items]
  rfl

/-! ### Entries -/

theorem headingName_heading (name : CodeText) :
    headingName? ("h3 id='" ++ name ++ "'>") = some name :=
  between_append _ _ _

theorem item_itemPiece (text : CodeText) : item? (itemPiece text) = some text :=
  between_append _ _ _

theorem isBlock_headPieces (entry : Entry) : IsBlock reader.startsEntry (headPieces entry) := by
  constructor
  · simp only [reader, headingName_heading, Option.isSome_some]
  · intro piece member
    simp only [List.mem_cons, List.not_mem_nil, or_false] at member
    rcases member with rfl | rfl | rfl | rfl | rfl | rfl <;> rfl

theorem isBlock_entry (entry : Entry) : IsBlock reader.startsEntry (layout.entry entry) := by
  apply (isBlock_headPieces entry).append
  intro piece member
  simp only [originPieces, List.mem_append, List.mem_map, List.mem_cons, List.not_mem_nil,
    or_false] at member
  rcases member with ⟨option, -, rfl⟩ | rfl | rfl | rfl | rfl | rfl <;> rfl

/-- The items of a description are the options and, last, where the class comes from. -/
theorem filterMap_item_layout (entry : Entry) :
    (layout.entry entry).filterMap item? =
      entry.options ++ [CodeText.of entry.qualifiedName, CodeText.of entry.sourceFile] := by
  have options : (entry.options.map itemPiece).filterMap item? = entry.options := by
    rw [List.filterMap_map, Function.comp_def]
    simp only [item_itemPiece, List.filterMap_some]
  have origin : (originPieces entry).filterMap item? =
      [CodeText.of entry.qualifiedName, CodeText.of entry.sourceFile] := by
    rw [originPieces, List.filterMap_cons_none rfl, List.filterMap_cons_none rfl,
      List.filterMap_cons_some (item_itemPiece _), List.filterMap_cons_some (item_itemPiece _)]
    rfl
  have head : (headPieces entry).filterMap item? = [] := rfl
  rw [layout, List.filterMap_append, List.filterMap_append, head, options, origin, List.nil_append]

theorem findSome_description_layout (entry : Entry) :
    (layout.entry entry).findSome? description? = some entry.description := rfl

theorem readEntry_layout (entry : Entry) : readEntry (layout.entry entry) = some entry.shown := by
  have heading : (layout.entry entry).head?.bind headingName? = some entry.name :=
    headingName_heading _
  simp only [readEntry, heading, findSome_description_layout, filterMap_item_layout]
  simp [Entry.shown]

/-! ## Catalogs that are read back -/

/-- A text in which no tag can start. -/
def Tagless (text : CodeText) : Prop := CodePoint.char '<' ∉ text

instance (text : CodeText) : Decidable (Tagless text) :=
  inferInstanceAs (Decidable (CodePoint.char '<' ∉ text))

@[mk_iff] structure TaglessGroup (group : Group) : Prop where
  key : Tagless group.key
  names : ∀ entry ∈ group.entries, Tagless entry.name

instance (group : Group) : Decidable (TaglessGroup group) :=
  decidable_of_iff _ (taglessGroup_iff group).symm

@[mk_iff] structure TaglessEntry (entry : Entry) : Prop where
  name : Tagless entry.name
  options : ∀ option ∈ entry.options, Tagless option
  description : Tagless entry.description
  qualifiedName : Tagless entry.qualifiedName
  sourceFile : Tagless entry.sourceFile

instance (entry : Entry) : Decidable (TaglessEntry entry) :=
  decidable_of_iff _ (taglessEntry_iff entry).symm

/-- All tags in the text of the catalog are the printer's own. -/
@[mk_iff] structure TaglessCatalog (catalog : Catalog) : Prop where
  group : ∀ group ∈ catalog.groups, TaglessGroup group
  entry : ∀ entry ∈ catalog.entries, TaglessEntry entry

instance (catalog : Catalog) : Decidable (TaglessCatalog catalog) :=
  decidable_of_iff _ (taglessCatalog_iff catalog).symm

theorem reader_understands (catalog : Catalog) : reader.Understands layout catalog where
  opening := by decide
  group group _ := isBlock_group group
  groupRead group _ := readGroup_layout group
  index := CatalogLayout.forall_mem_index (by decide) fun _ _ _ => inIndex_group
  indexEnd := by
    rintro piece ⟨⟩
    rfl
  closing := by decide
  entry entry _ := isBlock_entry entry
  entryRead entry _ := readEntry_layout entry

theorem bracket_not_mem_of_mem_group {group : Group} (tagless : TaglessGroup group)
    {piece : CodeText} (member : piece ∈ layout.group group) : CodePoint.char '<' ∉ piece := by
  have key : CodePoint.char '<' ∉ CodeText.of group.key := tagless.key
  simp only [layout, List.mem_cons, List.mem_append, List.mem_flatMap, List.not_mem_nil, or_false,
    mem_indexPieces_iff] at member
  rcases member with rfl | rfl | rfl | rfl | ⟨entry, entryMember, isPiece⟩ | rfl | rfl
  · simp [key]
  · decide
  · decide
  · decide
  · have name : CodePoint.char '<' ∉ entry.name := tagless.names entry entryMember
    rcases isPiece with rfl | rfl | rfl <;> simp [name]
  · decide
  · decide

theorem bracket_not_mem_itemPiece {text : CodeText} (tagless : Tagless text) :
    CodePoint.char '<' ∉ itemPiece text := by
  have free : CodePoint.char '<' ∉ text := tagless
  simp [itemPiece, free]

theorem bracket_not_mem_of_mem_entry {entry : Entry} (tagless : TaglessEntry entry)
    {piece : CodeText} (member : piece ∈ layout.entry entry) : CodePoint.char '<' ∉ piece := by
  have name : CodePoint.char '<' ∉ entry.name := tagless.name
  have description : CodePoint.char '<' ∉ entry.description := tagless.description
  rcases List.mem_append.mp member with inHead | inRest
  · simp only [headPieces, List.mem_cons, List.not_mem_nil, or_false] at inHead
    rcases inHead with rfl | rfl | rfl | rfl | rfl | rfl | rfl <;> simp [name, description]
  · rcases List.mem_append.mp inRest with inOptions | inOrigin
    · obtain ⟨option, optionMember, rfl⟩ := List.mem_map.mp inOptions
      exact bracket_not_mem_itemPiece (tagless.options option optionMember)
    · simp only [originPieces, List.mem_cons, List.not_mem_nil, or_false] at inOrigin
      rcases inOrigin with rfl | rfl | rfl | rfl | rfl
      · decide
      · decide
      · exact bracket_not_mem_itemPiece tagless.qualifiedName
      · exact bracket_not_mem_itemPiece tagless.sourceFile
      · decide

theorem bracket_not_mem_of_mem_pieces {catalog : Catalog} (tagless : TaglessCatalog catalog) :
    ∀ piece ∈ layout.pieces catalog, CodePoint.char '<' ∉ piece := by
  refine CatalogLayout.forall_mem_pieces (by decide) ?_ (by decide) ?_
  · intro group member piece inGroup
    exact bracket_not_mem_of_mem_group (tagless.group group member) inGroup
  · intro entry member piece inEntry
    exact bracket_not_mem_of_mem_entry (tagless.entry entry member) inEntry

/-- The fragment of a catalog without tags of its own can be read back. -/
theorem decode_render {catalog : Catalog} (tagless : TaglessCatalog catalog) :
    decode (printer.render catalog) = some catalog.shown := by
  have pieces : Text.splitOnChar (.char '<') ((layout.pieces catalog).flatMap opened) =
      [] :: layout.pieces catalog :=
    Text.splitOnChar_started List.not_mem_nil (bracket_not_mem_of_mem_pieces tagless)
  rw [decode, render_eq_pieces, pieces, List.tail_cons]
  exact CatalogReader.read_pieces (reader_understands catalog)

/-- Catalogs without tags of their own that are printed as the same fragment show the
same, since what a catalog shows can be read off its fragment. -/
theorem render_keeps_all_shown (left right : Catalog) (leftTagless : TaglessCatalog left)
    (rightTagless : TaglessCatalog right) :
    (printer.render left = printer.render right → left.shown = right.shown) ∧
      decode (printer.render left) = some left.shown := by
  have leftRead := decode_render leftTagless
  refine ⟨?_, leftRead⟩
  intro same
  rw [same, decode_render rightTagless] at leftRead
  exact (Option.some.inj leftRead).symm

/-- Quotes, closing brackets, ampersands and line ends are no obstacle. -/
theorem render_keeps_quotes_and_lines :
    let quoted : Entry :=
      { name := "a'>b\nc", options := ["&lt;", "\nli>", ""], qualifiedName := "'pkg_'",
        packageName := "a", sourceFile := "/ul>\n", doc := "p>x\n/p>\n'h3" }
    let moved : Entry := { quoted with packageName := "b" }
    let left : Catalog := ⟨[⟨"dt>\n", [quoted]⟩, ⟨"", []⟩], [quoted]⟩
    let right : Catalog := ⟨[⟨"dt>\n", [moved]⟩, ⟨"", []⟩], [moved]⟩
    TaglessCatalog left ∧ TaglessCatalog right ∧ left ≠ right ∧
      printer.render left = printer.render right ∧ left.shown = right.shown ∧
      decode (printer.render left) = some left.shown := by
  intro quoted moved left right
  have leftTagless : TaglessCatalog left := by decide +kernel
  have rightTagless : TaglessCatalog right := by decide +kernel
  have same : printer.render left = printer.render right := by decide +kernel
  obtain ⟨injective, decoded⟩ := render_keeps_all_shown left right leftTagless rightTagless
  exact ⟨leftTagless, rightTagless, by decide, same, injective same, decoded⟩

end Html

end TaggedCatalog
