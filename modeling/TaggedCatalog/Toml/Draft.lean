import TaggedCatalog.Toml.Value

/-! # Documents under construction

Headers and keys fill a document in any order, but nothing is defined twice. So a
draft remembers for every table how it came about: a table that only leads to
another one may still get a header of its own, one that dotted keys have made may
get more dotted keys, and a list of tables gets another table from every header. -/

namespace TaggedCatalog.Toml

/-- How a table came about. -/
inductive TableOrigin where
  /-- It is on the way to a table with a header. -/
  | implied
  | headed
  | dotted
deriving DecidableEq, Repr

inductive DraftNode where
  | leaf (value : Value)
  | table (origin : TableOrigin) (entries : List (String × DraftNode))
  /-- A list of tables with headers, the last one open. -/
  | tables (items : List (List (String × DraftNode)))
deriving Inhabited

abbrev Draft := List (String × DraftNode)

namespace Draft

def get? (draft : Draft) (key : String) : Option DraftNode :=
  (draft.find? fun entry => entry.1 == key).map (·.2)

/-- Puts a node under a key. A key that is there already keeps its place. -/
def put (draft : Draft) (key : String) (node : DraftNode) : Draft :=
  if draft.any fun entry => entry.1 == key then
    draft.map fun entry => if entry.1 == key then (key, node) else entry
  else draft ++ [(key, node)]

/-- Gives a value to a dotted key. -/
def assign (value : Value) : List String → Draft → Option Draft
  | [], _ => none
  | [key], draft => if (draft.get? key).isSome then none else some (draft.put key (.leaf value))
  | key :: rest, draft =>
      match draft.get? key with
      | none => (assign value rest []).map fun inner => draft.put key (.table .dotted inner)
      | some (.table .dotted entries) =>
          (assign value rest entries).map fun inner => draft.put key (.table .dotted inner)
      | some _ => none

/-- Changes the table that a path leads to. -/
def within (change : Draft → Option Draft) : List String → Draft → Option Draft
  | [], draft => change draft
  | key :: rest, draft =>
      match draft.get? key with
      | none => (within change rest []).map fun inner => draft.put key (.table .implied inner)
      | some (.table origin entries) =>
          (within change rest entries).map fun inner => draft.put key (.table origin inner)
      | some (.tables items) =>
          match items.getLast? with
          | none => none
          | some last =>
              (within change rest last).map fun inner =>
                draft.put key (.tables (items.dropLast ++ [inner]))
      | some (.leaf _) => none

/-- Defines the table under a key by a header. -/
def defineTable (key : String) (draft : Draft) : Option Draft :=
  match draft.get? key with
  | none => some (draft.put key (.table .headed []))
  | some (.table .implied entries) => some (draft.put key (.table .headed entries))
  | some _ => none

/-- Adds a table to the list of tables under a key. -/
def addTable (key : String) (draft : Draft) : Option Draft :=
  match draft.get? key with
  | none => some (draft.put key (.tables [[]]))
  | some (.tables items) => some (draft.put key (.tables (items ++ [[]])))
  | some _ => none

/-- Applies a step to the table above the last key of a path. -/
def atLastKey (step : String → Draft → Option Draft) (path : List String) (draft : Draft) :
    Option Draft :=
  match path.getLast? with
  | none => none
  | some key => within (step key) path.dropLast draft

mutual

def nodeValue : DraftNode → Value
  | .leaf value => value
  | .table _ entries => .table (finish entries)
  | .tables items => .list (finishAll items)

/-- The table that a draft describes. -/
def finish : List (String × DraftNode) → Table
  | [] => []
  | (key, node) :: rest => (key, nodeValue node) :: finish rest

def finishAll : List (List (String × DraftNode)) → List Value
  | [] => []
  | item :: rest => .table (finish item) :: finishAll rest

end

end Draft

end TaggedCatalog.Toml
