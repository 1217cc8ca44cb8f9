import TaggedCatalog.Entry
import TaggedCatalog.GroupKey

/-! # The catalog

A catalog shows its entries twice: grouped by plugin, and as one sorted list.
Both orders compare code point by code point, package first and name second,
and keep entries that agree on both in the order in which they were found. -/

namespace TaggedCatalog

namespace Entry

/-- The order of entries: by package, then by name. -/
def precedes (left right : Entry) : Bool :=
  decide (left.packageName < right.packageName) ||
    (left.packageName == right.packageName && !decide (right.name < left.name))

/-- The stable sort of entries. -/
def sort (entries : List Entry) : List Entry := entries.mergeSort precedes

/-- The group of an entry, given where plugins are found. -/
def groupKey (start : Option String) (entry : Entry) : String :=
  GroupKey.derive start entry.packageName

end Entry

/-- The entries that share a key. -/
structure Group where
  key : String
  entries : List Entry
deriving DecidableEq, Repr

namespace Group

/-- The keys that occur among the entries, each once, ascending. -/
def keys (start : Option String) (entries : List Entry) : List String :=
  ((entries.map (Entry.groupKey start)).eraseDups).mergeSort fun left right => decide (left ≤ right)

/-- The sorted group of one key. -/
def ofKey (start : Option String) (entries : List Entry) (key : String) : Group where
  key := key
  entries := Entry.sort (entries.filter fun entry => entry.groupKey start == key)

/-- All groups of the entries in ascending order of their keys. -/
def classify (start : Option String) (entries : List Entry) : List Group :=
  (keys start entries).map (ofKey start entries)

end Group

structure Catalog where
  groups : List Group
  entries : List Entry
deriving DecidableEq, Repr

namespace Catalog

/-- The catalog of the tagged declarations. -/
def build (start : Option String) (declarations : List Declaration) : Catalog :=
  let entries := Entry.extract declarations
  { groups := Group.classify start entries
    entries := Entry.sort entries }

def isEmpty (catalog : Catalog) : Bool := catalog.entries.isEmpty

end Catalog

end TaggedCatalog
