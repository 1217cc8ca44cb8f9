import TaggedCatalog.Text.Lines

/-! # Group keys

Packages laid out as `<start>.plugin.<segment>…` are grouped by that segment;
any other package is its own group. The start is a fixed text, or any run of
non-empty segments, in which case the first `plugin` with a segment behind it
counts. -/

namespace TaggedCatalog.GroupKey

/-- The segment that introduces the name of a plugin. -/
def pluginSegment : List Char := "plugin".toList

/-- Looks for the plugin among the segments that follow a non-empty one. An
empty segment ends the search. -/
def pluginAmong : List (List Char) → Option (List Char)
  | segment :: next :: rest =>
      if segment = pluginSegment && !next.isEmpty then some next
      else if segment.isEmpty then none
      else pluginAmong (next :: rest)
  | _ => none

/-- The plugin of a package behind any start. -/
def afterAnyStart (package : List Char) : Option (List Char) :=
  match Text.splitOnChar '.' package with
  | first :: rest => if first.isEmpty then none else pluginAmong rest
  | [] => none

/-- The rest of a text behind a given beginning. -/
def stripStart {α : Type} [DecidableEq α] : List α → List α → Option (List α)
  | [], text => some text
  | c :: start, d :: text => if c = d then stripStart start text else none
  | _ :: _, [] => none

/-- The plugin of a package behind a fixed start. -/
def afterStart (start package : List Char) : Option (List Char) :=
  match stripStart (start ++ ".plugin.".toList) package with
  | none => none
  | some rest =>
      let segment := rest.takeWhile (· != '.')
      if segment.isEmpty then none else some segment

/-- The key of a package. A missing or empty start stands for any start. -/
def derive (start : Option String) (package : String) : String :=
  let plugin :=
    match start with
    | some fixed =>
        if fixed.isEmpty then afterAnyStart package.toList
        else afterStart fixed.toList package.toList
    | none => afterAnyStart package.toList
  match plugin with
  | some segment => String.ofList segment
  | none => package

example : afterAnyStart "a.b.plugin.net.x".toList = some "net".toList := by decide
example : afterAnyStart "a.plugin.plugin.net".toList = some "plugin".toList := by decide
example : afterAnyStart "plugin.net".toList = none := by decide
example : afterStart "a".toList "a.plugin.net".toList = some "net".toList := by decide

end TaggedCatalog.GroupKey
