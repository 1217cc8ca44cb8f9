import Mathlib.Tactic.MkIffOfInductiveProp
import TaggedCatalog.Proofs.Description.KeptLines
import TaggedCatalog.Proofs.Rendering.Reading
import TaggedCatalog.Proofs.Text.Splitting
import TaggedCatalog.Rendering.PlainText

/-! # Reading plain text

The pieces of plain text are its lines. The index ends at the first line of equal
signs, and in it the keys are the lines that are not indented. A description has no
end mark: it is all that stands between the line of hyphens and the last three
lines before the next line of equal signs, or before the end. This works because a
description is made of whole lines. -/

namespace TaggedCatalog

namespace PlainText

/-! ## Lines -/

def optionLine (option : CodeText) : CodeText := .char ' ' :: .char ' ' :: option

def nameLine (entry : Entry) : CodeText := .char ' ' :: entry.name

def layout : CatalogLayout CodeText where
  opening := []
  group group := CodeText.of group.key :: group.entries.map nameLine
  closing := []
  entry entry :=
    CodeText.of entrySeparator :: entry.name :: (entry.options.map optionLine ++
      CodeText.of headerSeparator :: (Description.keptLines entry.doc ++
        [CodeText.of entry.qualifiedName, CodeText.of entry.sourceFile, []]))

theorem flatten_renderGroup (group : Group) :
    (renderGroup group.key group.entries).flatten =
      (layout.group group).flatMap Description.endLine := by
  simp only [renderGroup, layout, List.flatten_cons, List.flatMap_cons, List.flatMap_map]
  rfl

theorem flatten_renderEntry (entry : Entry) :
    (renderEntry entry).flatten = (layout.entry entry).flatMap Description.endLine := by
  have options : (entry.options.map fun option => Printer.line ("  " ++ option)).flatten =
      (entry.options.map optionLine).flatMap Description.endLine := by
    rw [List.flatMap_map]
    rfl
  simp only [renderEntry, layout, List.cons_append, List.flatten_cons, List.flatten_append,
    options, List.flatMap_cons, List.flatMap_append, List.flatten_nil, List.flatMap_nil]
  rfl

/-- The text is the lines of the layout, each with its end. -/
theorem render_eq_lines (catalog : Catalog) :
    printer.render catalog = (layout.pieces catalog).flatMap Description.endLine := by
  simp only [Printer.render_eq, printer, flatten_renderGroup, flatten_renderEntry,
    CatalogLayout.pieces, CatalogLayout.index, CatalogLayout.descriptions, layout,
    List.flatMap_append, List.flatMap_assoc, List.flatten_nil, List.nil_append, List.append_nil]

/-! ## Reading lines -/

def isSeparator (line : CodeText) : Bool := line == CodeText.of entrySeparator

def isHyphens (line : CodeText) : Bool := line == CodeText.of headerSeparator

def isIndented (line : CodeText) : Bool := line.head? == some (.char ' ')

/-- A key and the names below it. -/
def readGroup : List CodeText → Option ShownGroup
  | key :: names => some ⟨key, names.map (List.drop 1)⟩
  | [] => none

/-- A description and, in the last three of the given lines, where it comes from. -/
def readBody (name : CodeText) (options body : List CodeText) : Option ShownEntry :=
  match body.reverse with
  | _ :: sourceFile :: qualifiedName :: description =>
      some
        { name := name
          options := options.map (List.drop 2)
          description := description.reverse.flatMap Description.endLine
          qualifiedName := qualifiedName
          sourceFile := sourceFile }
  | _ => none

/-- The name below the separator, the options up to the line of hyphens, and the rest. -/
def readEntry : List CodeText → Option ShownEntry
  | _ :: name :: rest =>
      readBody name (rest.takeWhile (!isHyphens ·)) ((rest.dropWhile (!isHyphens ·)).drop 1)
  | _ => none

def reader : CatalogReader CodeText where
  startsGroup line := !isIndented line
  startsEntry := isSeparator
  endsIndex := isSeparator
  group := readGroup
  entry := readEntry

/-- What a text in this format shows. -/
def decode (text : CodeText) : Option ShownCatalog :=
  reader.read (Text.splitOnChar .lineFeed text).dropLast

/-! ## Catalogs that are read back -/

/-- A text that is one line, and not the one that starts a description. -/
@[mk_iff] structure PlainLine (text : CodeText) : Prop where
  oneLine : .lineFeed ∉ text
  notSeparator : text ≠ entrySeparator

instance (text : CodeText) : Decidable (PlainLine text) :=
  decidable_of_iff _ (plainLine_iff text).symm

@[mk_iff] structure PlainGroup (group : Group) : Prop where
  key : PlainLine group.key
  notIndented : (CodeText.of group.key).head? ≠ some (.char ' ')
  names : ∀ entry ∈ group.entries, .lineFeed ∉ entry.name

instance (group : Group) : Decidable (PlainGroup group) :=
  decidable_of_iff _ (plainGroup_iff group).symm

@[mk_iff] structure PlainEntry (entry : Entry) : Prop where
  name : PlainLine entry.name
  options : ∀ option ∈ entry.options, .lineFeed ∉ option
  description : CodeText.of entrySeparator ∉ Text.splitOnChar .lineFeed entry.description
  qualifiedName : PlainLine entry.qualifiedName
  sourceFile : PlainLine entry.sourceFile

instance (entry : Entry) : Decidable (PlainEntry entry) :=
  decidable_of_iff _ (plainEntry_iff entry).symm

/-- Every text of the catalog stands on lines of its own. -/
@[mk_iff] structure PlainCatalog (catalog : Catalog) : Prop where
  group : ∀ group ∈ catalog.groups, PlainGroup group
  entry : ∀ entry ∈ catalog.entries, PlainEntry entry

instance (catalog : Catalog) : Decidable (PlainCatalog catalog) :=
  decidable_of_iff _ (plainCatalog_iff catalog).symm

theorem PlainLine.isSeparator_eq {text : CodeText} (plain : PlainLine text) :
    isSeparator text = false :=
  beq_eq_false_iff_ne.mpr plain.notSeparator

theorem isSeparator_eq_of_isIndented {line : CodeText} (indented : isIndented line = true) :
    isSeparator line = false := by
  rw [isSeparator, beq_eq_false_iff_ne]
  rintro rfl
  revert indented
  decide

theorem isSeparator_eq_of_mem_keptLines {entry : Entry} (plain : PlainEntry entry)
    {line : CodeText} (kept : line ∈ Description.keptLines entry.doc) :
    isSeparator line = false := by
  rw [isSeparator, beq_eq_false_iff_ne]
  rintro rfl
  apply plain.description
  rw [Entry.description, Description.splitOnChar_ofText]
  exact List.mem_append_left _ kept

/-! ### Groups -/

theorem isBlock_group {group : Group} (plain : PlainGroup group) :
    IsBlock reader.startsGroup (layout.group group) := by
  constructor
  · simp [reader, isIndented, plain.notIndented]
  · intro line member
    obtain ⟨entry, -, rfl⟩ := List.mem_map.mp member
    rfl

theorem readGroup_layout (group : Group) : readGroup (layout.group group) = some group.shown := by
  simp only [readGroup, layout, Group.shown, List.map_map]
  rfl

theorem isSeparator_of_mem_group {group : Group} (plain : PlainGroup group) {line : CodeText}
    (member : line ∈ layout.group group) : isSeparator line = false := by
  rcases List.mem_cons.mp member with rfl | inNames
  · exact plain.key.isSeparator_eq
  · obtain ⟨entry, -, rfl⟩ := List.mem_map.mp inNames
    exact isSeparator_eq_of_isIndented rfl

/-! ### Entries -/

theorem isBlock_entry {entry : Entry} (plain : PlainEntry entry) :
    IsBlock reader.startsEntry (layout.entry entry) := by
  constructor
  · exact beq_self_eq_true _
  · intro line member
    simp only [List.mem_cons, List.mem_append, List.mem_map, List.not_mem_nil, or_false] at member
    rcases member with rfl | ⟨option, -, rfl⟩ | rfl | kept | rfl | rfl | rfl
    · exact plain.name.isSeparator_eq
    · exact isSeparator_eq_of_isIndented rfl
    · decide
    · exact isSeparator_eq_of_mem_keptLines plain kept
    · exact plain.qualifiedName.isSeparator_eq
    · exact plain.sourceFile.isSeparator_eq
    · decide

theorem readBody_layout (entry : Entry) :
    readBody entry.name (entry.options.map optionLine)
        (Description.keptLines entry.doc ++
          [CodeText.of entry.qualifiedName, CodeText.of entry.sourceFile, []]) =
      some entry.shown := by
  have options : (entry.options.map optionLine).map (List.drop 2) = entry.options := by
    rw [List.map_map]
    exact List.map_id _
  simp only [readBody, options, List.reverse_append, List.reverse_cons, List.reverse_nil,
    List.nil_append, List.cons_append, List.reverse_reverse]
  rfl

theorem readEntry_layout (entry : Entry) : readEntry (layout.entry entry) = some entry.shown := by
  have options : ∀ line ∈ entry.options.map optionLine, (!isHyphens line) = true := by
    intro line member
    obtain ⟨option, -, rfl⟩ := List.mem_map.mp member
    rfl
  simp only [layout, readEntry]
  rw [List.takeWhile_append_of_pos options, List.dropWhile_append_of_pos options]
  simpa [isHyphens] using readBody_layout entry

/-! ### Catalogs -/

theorem reader_understands {catalog : Catalog} (plain : PlainCatalog catalog) :
    reader.Understands layout catalog where
  opening := by simp [layout]
  group group member := isBlock_group (plain.group group member)
  groupRead group _ := readGroup_layout group
  index := by
    refine CatalogLayout.forall_mem_index (by simp [layout]) ?_
    intro group groupMember line inGroup
    have notSeparator := isSeparator_of_mem_group (plain.group group groupMember) inGroup
    exact ⟨notSeparator, notSeparator⟩
  indexEnd := by
    intro line first
    cases entries : catalog.entries with
    | nil => simp [CatalogLayout.descriptions, layout, entries] at first
    | cons entry rest =>
        simp only [CatalogLayout.descriptions, layout, entries, List.nil_append, List.flatMap_cons,
          List.cons_append, List.head?_cons, Option.mem_some_iff] at first
        subst first
        exact beq_self_eq_true _
  closing := by simp [layout]
  entry entry member := isBlock_entry (plain.entry entry member)
  entryRead entry _ := readEntry_layout entry

theorem lineFeed_not_mem_of_mem_group {group : Group} (plain : PlainGroup group)
    {line : CodeText} (member : line ∈ layout.group group) : .lineFeed ∉ line := by
  rcases List.mem_cons.mp member with rfl | inNames
  · exact plain.key.oneLine
  · obtain ⟨entry, entryMember, rfl⟩ := List.mem_map.mp inNames
    simpa [nameLine, CodePoint.lineFeed] using plain.names entry entryMember

theorem lineFeed_not_mem_of_mem_entry {entry : Entry} (plain : PlainEntry entry)
    {line : CodeText} (member : line ∈ layout.entry entry) : .lineFeed ∉ line := by
  simp only [layout, List.mem_cons, List.mem_append, List.mem_map, List.not_mem_nil,
    or_false] at member
  rcases member with rfl | rfl | ⟨option, optionMember, rfl⟩ | rfl | kept | rfl | rfl | rfl
  · decide
  · exact plain.name.oneLine
  · simpa [optionLine, CodePoint.lineFeed] using plain.options option optionMember
  · decide
  · exact (Description.isOneLine_of_mem_keptLines kept).noFeed
  · exact plain.qualifiedName.oneLine
  · exact plain.sourceFile.oneLine
  · exact List.not_mem_nil

theorem lineFeed_not_mem_of_mem_pieces {catalog : Catalog} (plain : PlainCatalog catalog) :
    ∀ line ∈ layout.pieces catalog, .lineFeed ∉ line := by
  refine CatalogLayout.forall_mem_pieces (by simp [layout]) ?_ (by simp [layout]) ?_
  · intro group member line inGroup
    exact lineFeed_not_mem_of_mem_group (plain.group group member) inGroup
  · intro entry member line inEntry
    exact lineFeed_not_mem_of_mem_entry (plain.entry entry member) inEntry

/-- The text of a catalog on plain lines can be read back. -/
theorem decode_render {catalog : Catalog} (plain : PlainCatalog catalog) :
    decode (printer.render catalog) = some catalog.shown := by
  have lines : Text.splitOnChar .lineFeed ((layout.pieces catalog).flatMap Description.endLine) =
      layout.pieces catalog ++ [[]] :=
    Text.splitOnChar_ended (lineFeed_not_mem_of_mem_pieces plain)
  rw [decode, render_eq_lines, lines, List.dropLast_concat]
  exact CatalogReader.read_pieces (reader_understands plain)

/-- Catalogs on plain lines that are printed as the same text show the same, since
what a catalog shows can be read off its text. -/
theorem render_loses_nothing (left right : Catalog) (leftPlain : PlainCatalog left)
    (rightPlain : PlainCatalog right) :
    (printer.render left = printer.render right → left.shown = right.shown) ∧
      decode (printer.render left) = some left.shown := by
  have leftRead := decode_render leftPlain
  refine ⟨?_, leftRead⟩
  intro same
  rw [same, decode_render rightPlain] at leftRead
  exact (Option.some.inj leftRead).symm

/-- The package of an entry is not printed. Names and descriptions may look like the
line of hyphens, and keys may be empty. -/
theorem render_loses_nothing_but_package :
    let hyphens : Entry :=
      { name := "----------------", options := ["", " force"], qualifiedName := "a.Ping",
        packageName := "a", sourceFile := "a.py", doc := " Sends.\n\n ----------------\nEnd.\n" }
    let ping : Entry := { hyphens with name := " ping", options := [], doc := "@since 1" }
    let left : Catalog := ⟨[⟨"", [hyphens, ping]⟩, ⟨"net", []⟩], [ping, hyphens]⟩
    let right : Catalog := { left with entries := [{ ping with packageName := "b" }, hyphens] }
    PlainCatalog left ∧ PlainCatalog right ∧ left ≠ right ∧
      printer.render left = printer.render right ∧ left.shown = right.shown ∧
      decode (printer.render left) = some left.shown := by
  intro hyphens ping left right
  have leftPlain : PlainCatalog left := by decide +kernel
  have rightPlain : PlainCatalog right := by decide +kernel
  have same : printer.render left = printer.render right := by decide +kernel
  obtain ⟨injective, decoded⟩ := render_loses_nothing left right leftPlain rightPlain
  exact ⟨leftPlain, rightPlain, by decide, same, injective same, decoded⟩

end PlainText

end TaggedCatalog
