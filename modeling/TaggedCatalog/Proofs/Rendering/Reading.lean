import Mathlib.Data.List.SplitBy
import TaggedCatalog.Rendering.Printer

/-! # Reading a catalog back

A catalog is printed as a row of pieces: lines, or tags with the text behind them.
Every group and every description is a block of pieces that starts with a piece of
its own kind, and nothing else is of that kind. So whoever can tell these kinds
apart and read single blocks can read all that the catalog shows. -/

namespace TaggedCatalog

/-! ## What a catalog shows -/

/-- A group as the index shows it. -/
structure ShownGroup where
  key : CodeText
  names : List CodeText
deriving DecidableEq, Repr

/-- An entry as its description shows it. -/
structure ShownEntry where
  name : CodeText
  options : List CodeText
  description : CodeText
  qualifiedName : CodeText
  sourceFile : CodeText
deriving DecidableEq, Repr

structure ShownCatalog where
  groups : List ShownGroup
  entries : List ShownEntry
deriving DecidableEq, Repr

def Group.shown (group : Group) : ShownGroup where
  key := group.key
  names := group.entries.map Entry.name

def Entry.shown (entry : Entry) : ShownEntry where
  name := entry.name
  options := entry.options
  description := entry.description
  qualifiedName := entry.qualifiedName
  sourceFile := entry.sourceFile

def Catalog.shown (catalog : Catalog) : ShownCatalog where
  groups := catalog.groups.map Group.shown
  entries := catalog.entries.map Entry.shown

/-! ## Blocks -/

section Blocks

variable {α β γ : Type} {isHead : α → Bool}

/-- Pieces of which the first is a head and no other is. -/
def IsBlock (isHead : α → Bool) : List α → Prop
  | [] => False
  | first :: rest => isHead first = true ∧ ∀ piece ∈ rest, isHead piece = false

/-- The blocks in a row of pieces. What stands before the first head is in none. -/
def blocks (isHead : α → Bool) (pieces : List α) : List (List α) :=
  (pieces.dropWhile (!isHead ·)).splitBy fun _ next => !isHead next

theorem IsBlock.ne_nil {block : List α} (isBlock : IsBlock isHead block) : block ≠ [] := by
  rintro rfl
  exact isBlock

theorem IsBlock.isHead_head {block : List α} (isBlock : IsBlock isHead block) :
    isHead (block.head isBlock.ne_nil) = true := by
  cases block with
  | nil => exact isBlock.elim
  | cons first rest => exact isBlock.1

theorem IsBlock.append {block rest : List α} (isBlock : IsBlock isHead block)
    (headless : ∀ piece ∈ rest, isHead piece = false) : IsBlock isHead (block ++ rest) := by
  cases block with
  | nil => exact isBlock.elim
  | cons first others =>
      refine ⟨isBlock.1, ?_⟩
      intro piece member
      rcases List.mem_append.mp member with inBlock | inRest
      · exact isBlock.2 piece inBlock
      · exact headless piece inRest

theorem IsBlock.isChain {block : List α} (isBlock : IsBlock isHead block) :
    block.IsChain fun _ next => !isHead next := by
  cases block with
  | nil => exact .nil
  | cons first rest =>
      have noHead : ∀ piece ∈ rest, (!isHead piece) = true := by simpa using isBlock.2
      apply List.Pairwise.isChain
      rw [List.pairwise_cons]
      exact ⟨noHead, List.pairwise_of_forall_mem_list fun _ _ next member => noHead next member⟩

/-- Blocks in a row, behind pieces that are no heads, are found again. -/
theorem blocks_append_flatten {before : List α} {parts : List (List α)}
    (headless : ∀ piece ∈ before, isHead piece = false)
    (each : ∀ part ∈ parts, IsBlock isHead part) :
    blocks isHead (before ++ parts.flatten) = parts := by
  have kept : parts.flatten.dropWhile (!isHead ·) = parts.flatten := by
    cases parts with
    | nil => rfl
    | cons part rest =>
        have isBlock := each part List.mem_cons_self
        cases part with
        | nil => exact isBlock.elim
        | cons first others => simp [isBlock.1]
  rw [blocks, List.dropWhile_append_of_pos (by simpa using headless), kept]
  apply List.splitBy_flatten
  · exact fun empty => (each _ empty).ne_nil rfl
  · exact fun part member => (each part member).isChain
  · apply List.Pairwise.isChain
    apply List.pairwise_of_forall_mem_list
    intro left leftMember right rightMember
    exact ⟨(each left leftMember).ne_nil, (each right rightMember).ne_nil,
      by simp [(each right rightMember).isHead_head]⟩

/-- Reads every block. -/
def readBlocks (isHead : α → Bool) (read : List α → Option γ) (pieces : List α) :
    Option (List γ) :=
  (blocks isHead pieces).mapM read

/-- Values written as blocks that can be read are all read. -/
theorem readBlocks_append_flatMap {before : List α} {values : List β} {write : β → List α}
    {read : List α → Option γ} {seen : β → γ}
    (headless : ∀ piece ∈ before, isHead piece = false)
    (each : ∀ value ∈ values, IsBlock isHead (write value))
    (reads : ∀ value ∈ values, read (write value) = some (seen value)) :
    readBlocks isHead read (before ++ values.flatMap write) = some (values.map seen) := by
  have found := blocks_append_flatten headless (List.forall_mem_map.mpr each)
  rw [List.flatMap_def, readBlocks, found]
  clear found each
  induction values with
  | nil => rfl
  | cons value rest induction =>
      have parts := List.forall_mem_cons.mp reads
      rw [List.map_cons, List.mapM_cons, parts.1, induction parts.2]
      rfl

end Blocks

/-! ## Readers -/

/-- How the pieces of a catalog are told apart and what a block of them says. -/
structure CatalogReader (α : Type) where
  startsGroup : α → Bool
  startsEntry : α → Bool
  /-- Whether the index has come to its end. -/
  endsIndex : α → Bool
  group : List α → Option ShownGroup
  entry : List α → Option ShownEntry

/-- The pieces that the parts of a catalog are printed as. -/
structure CatalogLayout (α : Type) where
  opening : List α
  group : Group → List α
  closing : List α
  entry : Entry → List α

namespace CatalogLayout

variable {α : Type}

def index (layout : CatalogLayout α) (catalog : Catalog) : List α :=
  layout.opening ++ catalog.groups.flatMap layout.group

def descriptions (layout : CatalogLayout α) (catalog : Catalog) : List α :=
  layout.closing ++ catalog.entries.flatMap layout.entry

def pieces (layout : CatalogLayout α) (catalog : Catalog) : List α :=
  layout.index catalog ++ layout.descriptions catalog

variable {layout : CatalogLayout α} {catalog : Catalog} {Holds : α → Prop}

theorem forall_mem_index (opening : ∀ piece ∈ layout.opening, Holds piece)
    (groups : ∀ group ∈ catalog.groups, ∀ piece ∈ layout.group group, Holds piece) :
    ∀ piece ∈ layout.index catalog, Holds piece := by
  intro piece member
  rcases List.mem_append.mp member with inOpening | inGroups
  · exact opening piece inOpening
  · obtain ⟨group, groupMember, inGroup⟩ := List.mem_flatMap.mp inGroups
    exact groups group groupMember piece inGroup

theorem forall_mem_pieces (opening : ∀ piece ∈ layout.opening, Holds piece)
    (groups : ∀ group ∈ catalog.groups, ∀ piece ∈ layout.group group, Holds piece)
    (closing : ∀ piece ∈ layout.closing, Holds piece)
    (entries : ∀ entry ∈ catalog.entries, ∀ piece ∈ layout.entry entry, Holds piece) :
    ∀ piece ∈ layout.pieces catalog, Holds piece := by
  intro piece member
  rcases List.mem_append.mp member with inIndex | inDescriptions
  · exact forall_mem_index opening groups piece inIndex
  · rcases List.mem_append.mp inDescriptions with inClosing | inEntries
    · exact closing piece inClosing
    · obtain ⟨entry, entryMember, inEntry⟩ := List.mem_flatMap.mp inEntries
      exact entries entry entryMember piece inEntry

end CatalogLayout

namespace CatalogReader

variable {α : Type}

/-- Reads the index up to its end, and the descriptions wherever they are. -/
def read (reader : CatalogReader α) (pieces : List α) : Option ShownCatalog := do
  let groups ← readBlocks reader.startsGroup reader.group
    (pieces.takeWhile (!reader.endsIndex ·))
  let entries ← readBlocks reader.startsEntry reader.entry pieces
  return ⟨groups, entries⟩

/-- A reader understands a catalog as it is laid out: it reads every block, and takes
no other piece for the start of a block or the end of the index. -/
structure Understands (reader : CatalogReader α) (layout : CatalogLayout α)
    (catalog : Catalog) : Prop where
  opening : ∀ piece ∈ layout.opening, reader.startsGroup piece = false
  group : ∀ group ∈ catalog.groups, IsBlock reader.startsGroup (layout.group group)
  groupRead : ∀ group ∈ catalog.groups, reader.group (layout.group group) = some group.shown
  index : ∀ piece ∈ layout.index catalog,
    reader.endsIndex piece = false ∧ reader.startsEntry piece = false
  indexEnd : ∀ piece ∈ (layout.descriptions catalog).head?, reader.endsIndex piece = true
  closing : ∀ piece ∈ layout.closing, reader.startsEntry piece = false
  entry : ∀ entry ∈ catalog.entries, IsBlock reader.startsEntry (layout.entry entry)
  entryRead : ∀ entry ∈ catalog.entries, reader.entry (layout.entry entry) = some entry.shown

theorem takeWhile_pieces {reader : CatalogReader α} {layout : CatalogLayout α} {catalog : Catalog}
    (understood : reader.Understands layout catalog) :
    (layout.pieces catalog).takeWhile (!reader.endsIndex ·) = layout.index catalog := by
  have within : ∀ piece ∈ layout.index catalog, (!reader.endsIndex piece) = true := by
    intro piece member
    simp [(understood.index piece member).1]
  have rest : (layout.descriptions catalog).takeWhile (!reader.endsIndex ·) = [] := by
    have ends := understood.indexEnd
    cases descriptions : layout.descriptions catalog with
    | nil => rfl
    | cons first others =>
        rw [descriptions] at ends
        simp [ends first rfl]
  rw [CatalogLayout.pieces, List.takeWhile_append_of_pos within, rest, List.append_nil]

/-- What is understood is read: all that the catalog shows. -/
theorem read_pieces {reader : CatalogReader α} {layout : CatalogLayout α} {catalog : Catalog}
    (understood : reader.Understands layout catalog) :
    reader.read (layout.pieces catalog) = some catalog.shown := by
  have groups : readBlocks reader.startsGroup reader.group (layout.index catalog) =
      some (catalog.groups.map Group.shown) :=
    readBlocks_append_flatMap understood.opening understood.group understood.groupRead
  have entries : readBlocks reader.startsEntry reader.entry (layout.pieces catalog) =
      some (catalog.entries.map Entry.shown) := by
    rw [CatalogLayout.pieces, CatalogLayout.descriptions, ← List.append_assoc]
    apply readBlocks_append_flatMap _ understood.entry understood.entryRead
    intro piece member
    rcases List.mem_append.mp member with inIndex | inClosing
    · exact (understood.index piece inIndex).2
    · exact understood.closing piece inClosing
  rw [read, takeWhile_pieces understood, groups, entries]
  rfl

end CatalogReader

end TaggedCatalog
