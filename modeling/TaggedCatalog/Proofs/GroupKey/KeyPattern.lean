import Mathlib.Data.List.Basic
import TaggedCatalog.GroupKey
import TaggedCatalog.Proofs.Text.Splitting

/-! # Keys as captures of a pattern

The layout of packages with plugins is a regular expression: a start, the word for
plugins between two dots, and a segment that is captured. Such an expression may
match a text in several ways. They are tried in an order of preference, and the
first one counts. The key of a package is what is captured in that way. -/

namespace TaggedCatalog

/-- A regular expression, as far as keys need it. -/
inductive Pattern where
  | nothing
  | char (c : Char)
  /-- Any character but the given one. -/
  | other (c : Char)
  | sequence (first second : Pattern)
  /-- Once or more often, and as often as possible. -/
  | most (inner : Pattern)
  /-- Any number of times, and as seldom as possible. -/
  | fewest (inner : Pattern)
deriving DecidableEq, Repr

namespace Pattern

/-- All that may be left of a text once its start has matched, what is left by the
preferred match first. A repetition goes on only where it has read something. -/
def rests : Pattern → List Char → List (List Char)
  | nothing, text => [text]
  | char _, [] => []
  | char c, d :: rest => if d = c then [rest] else []
  | other _, [] => []
  | other c, d :: rest => if d = c then [] else [rest]
  | sequence first second, text => (first.rests text).flatMap second.rests
  | most inner, text =>
      (inner.rests text).flatMap fun rest =>
        (if rest.length < text.length then (most inner).rests rest else []) ++ [rest]
  | fewest inner, text =>
      text :: (inner.rests text).flatMap fun rest =>
        if rest.length < text.length then (fewest inner).rests rest else []
termination_by pattern text => (sizeOf pattern, text.length)

def text : List Char → Pattern
  | [] => nothing
  | c :: rest => sequence (char c) (text rest)

/-- What a pattern captures behind a start, the preferred capture first. -/
def captures (start captured : Pattern) (text : List Char) : List (List Char) :=
  (start.rests text).flatMap fun rest =>
    (captured.rests rest).map fun after => rest.take (rest.length - after.length)

@[simp] theorem rests_char_nil (c : Char) : (char c).rests [] = [] := by
  rw [rests]

@[simp] theorem rests_char_cons (c d : Char) (rest : List Char) :
    (char c).rests (d :: rest) = if d = c then [rest] else [] := by
  rw [rests]

@[simp] theorem rests_other_nil (c : Char) : (other c).rests [] = [] := by
  rw [rests]

@[simp] theorem rests_other_cons (c d : Char) (rest : List Char) :
    (other c).rests (d :: rest) = if d = c then [] else [rest] := by
  rw [rests]

@[simp] theorem rests_sequence (first second : Pattern) (given : List Char) :
    (sequence first second).rests given = (first.rests given).flatMap second.rests := by
  rw [rests]

theorem rests_text (expected given : List Char) :
    (text expected).rests given = (GroupKey.stripStart expected given).toList := by
  induction expected generalizing given with
  | nil => rw [text, rests, GroupKey.stripStart, Option.toList_some]
  | cons c expected induction =>
      cases given with
      | nil => simp [text, GroupKey.stripStart]
      | cons d given =>
          by_cases same : d = c
          · simp [text, GroupKey.stripStart, same, induction]
          · simp [text, GroupKey.stripStart, same, Ne.symm same]

/-! ## Segments -/

/-- A run of characters that are no dots. -/
def segment : Pattern := most (other '.')

@[simp] theorem rests_segment_nil : segment.rests [] = [] := by
  rw [segment, rests, rests_other_nil, List.flatMap_nil]

@[simp] theorem rests_segment_dot (rest : List Char) : segment.rests ('.' :: rest) = [] := by
  rw [segment, rests, rests_other_cons, if_pos rfl, List.flatMap_nil]

theorem rests_segment_cons {c : Char} (different : c ≠ '.') (rest : List Char) :
    segment.rests (c :: rest) = segment.rests rest ++ [rest] := by
  rw [segment, rests]
  simp [different]

theorem length_le_of_mem_rests_segment {given rest : List Char}
    (member : rest ∈ segment.rests given) : rest.length ≤ given.length := by
  induction given with
  | nil => simp at member
  | cons c given induction =>
      by_cases dot : c = '.'
      · subst dot
        simp at member
      · rw [rests_segment_cons dot, List.mem_append, List.mem_singleton] at member
        rcases member with earlier | rfl
        · exact Nat.le_succ_of_le (induction earlier)
        · exact Nat.le_succ _

theorem rests_segment_of_ends {rest : List Char} (ends : ∀ c ∈ rest.head?, c = '.') :
    segment.rests rest = [] := by
  cases rest with
  | nil => exact rests_segment_nil
  | cons c rest =>
      rw [ends c rfl]
      exact rests_segment_dot rest

/-- A segment is first read as a whole. Every other way leaves a part of it, so that
no dot comes next. -/
theorem rests_segment {first rest : List Char} (undotted : '.' ∉ first) (filled : first ≠ [])
    (ends : ∀ c ∈ rest.head?, c = '.') :
    ∃ partials, segment.rests (first ++ rest) = rest :: partials ∧
      ∀ left ∈ partials, ∃ c after, c ≠ '.' ∧ left = c :: after := by
  induction first with
  | nil => exact absurd rfl filled
  | cons c first induction =>
      have different : c ≠ '.' := fun same => undotted (same ▸ List.mem_cons_self)
      rw [List.cons_append, rests_segment_cons different]
      cases first with
      | nil =>
          rw [List.nil_append, rests_segment_of_ends ends]
          exact ⟨[], rfl, by simp⟩
      | cons d first =>
          have later : '.' ∉ d :: first := fun member => undotted (List.mem_cons_of_mem c member)
          obtain ⟨partials, read, shorter⟩ := induction later (List.cons_ne_nil d first)
          refine ⟨partials ++ [d :: first ++ rest], by rw [read, List.cons_append], ?_⟩
          intro left member
          rcases List.mem_append.mp member with earlier | last
          · exact shorter left earlier
          · have nextDifferent : d ≠ '.' := fun same => later (same ▸ List.mem_cons_self)
            exact ⟨d, first ++ rest, nextDifferent, List.mem_singleton.mp last⟩

end Pattern

namespace GroupKey

open Pattern

/-! ## The patterns of keys -/

/-- Segments with dots between them, as few as possible. -/
def anyStart : Pattern := .sequence segment (.fewest (.sequence (.char '.') segment))

def startPattern : Option String → Pattern
  | some fixed => if fixed.isEmpty then anyStart else .text fixed.toList
  | none => anyStart

/-- What the pattern for a start captures in a package, if it matches. -/
def captured? (start : Option String) (package : String) : Option String :=
  (captures (.sequence (startPattern start) (.text ".plugin.".toList)) segment
    package.toList).head?.map String.ofList

/-- The segment at the start of a text, if there is one. -/
def firstSegment? (given : List Char) : Option (List Char) :=
  let first := given.takeWhile (· != '.')
  if first.isEmpty then none else some first

theorem firstSegment?_append {first rest : List Char} (undotted : '.' ∉ first)
    (ends : ∀ c ∈ rest.head?, c = '.') :
    firstSegment? (first ++ rest) = if first.isEmpty then none else some first := by
  have allKept : ∀ c ∈ first, (c != '.') = true := by
    intro c member
    rw [bne_iff_ne]
    exact fun same => undotted (same ▸ member)
  have noneKept : rest.takeWhile (· != '.') = [] := by
    cases rest with
    | nil => rfl
    | cons c rest => simp [ends c rfl]
  rw [firstSegment?, List.takeWhile_append_of_pos allKept, noneKept, List.append_nil]

theorem head?_captures_segment (start : Pattern) (given : List Char) :
    (captures start segment given).head? = (start.rests given).findSome? firstSegment? := by
  rw [captures, List.head?_flatMap]
  congr 1
  funext left
  obtain ⟨first, pieces, split, joined⟩ := Text.exists_splitOnChar_eq '.' left
  have undotted : '.' ∉ first := Text.not_mem_of_mem_splitOnChar (split ▸ List.mem_cons_self)
  have ends : ∀ c ∈ (pieces.flatMap ('.' :: ·)).head?, c = '.' :=
    Text.head?_flatMap_separator pieces
  rw [joined, firstSegment?_append undotted ends]
  by_cases blank : first = []
  · simp [blank, rests_segment_of_ends ends]
  · obtain ⟨partials, read, -⟩ := rests_segment undotted blank ends
    simp [read, blank]

/-! ## Beginnings of texts -/

theorem stripStart_eq_some_iff {start given rest : List Char} :
    stripStart start given = some rest ↔ given = start ++ rest := by
  induction start generalizing given with
  | nil => simp [stripStart]
  | cons c start induction =>
      cases given with
      | nil => simp [stripStart]
      | cons d given =>
          by_cases same : c = d
          · simp [stripStart, same, induction]
          · simp [stripStart, same, Ne.symm same]

theorem stripStart_append_start (first second given : List Char) :
    stripStart (first ++ second) given = (stripStart first given).bind (stripStart second) := by
  ext rest
  simp only [stripStart_eq_some_iff, Option.bind_eq_some_iff, List.append_assoc]
  constructor
  · intro joined
    exact ⟨second ++ rest, joined, rfl⟩
  · rintro ⟨left, joined, rfl⟩
    exact joined

/-- A text determines the segment in front of its first dot. -/
theorem append_eq_append_dot_iff {first word rest after : List Char} (undotted : '.' ∉ first)
    (wordUndotted : '.' ∉ word) (ends : ∀ c ∈ rest.head?, c = '.') :
    first ++ rest = word ++ '.' :: after ↔ first = word ∧ rest = '.' :: after := by
  induction first generalizing word with
  | nil =>
      cases word with
      | nil => simp
      | cons d word =>
          refine ⟨fun joined => ?_, fun parts => absurd parts.1 (by simp)⟩
          have dot : d = '.' := ends d (by simp_all)
          exact absurd (dot ▸ List.mem_cons_self) wordUndotted
  | cons c first induction =>
      cases word with
      | nil =>
          refine ⟨fun joined => ?_, fun parts => absurd parts.1 (by simp)⟩
          have dot : c = '.' := (List.cons.inj joined).1
          exact absurd (dot ▸ List.mem_cons_self) undotted
      | cons d word =>
          have later := @induction word (fun member => undotted (List.mem_cons_of_mem c member))
            fun member => wordUndotted (List.mem_cons_of_mem d member)
          simp [later, and_assoc]

theorem stripStart_plugin_alone {first : List Char} (undotted : '.' ∉ first) :
    stripStart "plugin.".toList first = none := by
  rw [Option.eq_none_iff_forall_ne_some]
  intro rest stripped
  rw [stripStart_eq_some_iff] at stripped
  exact undotted (stripped ▸ by simp)

theorem stripStart_plugin {first : List Char} (undotted : '.' ∉ first) (after : List Char) :
    stripStart "plugin.".toList (first ++ '.' :: after) =
      if first = pluginSegment then some after else none := by
  ext rest
  have dotted : "plugin.".toList ++ rest = pluginSegment ++ '.' :: rest := rfl
  rw [stripStart_eq_some_iff, dotted, append_eq_append_dot_iff undotted (by decide) (by simp)]
  by_cases same : first = pluginSegment <;> simp [same]

/-! ## Any start

Behind its first segment, a start may end or go on with another segment. It can do
either only at a dot, so the ways to match are as many as the segments allow. -/

/-- What may be left behind the word for plugins, once the first segment of the start
has been read. -/
def behindStart (given : List Char) : List (List Char) :=
  ((fewest (.sequence (.char '.') segment)).rests given).flatMap (text ".plugin.".toList).rests

theorem behindStart_nil : behindStart [] = [] := by
  rw [behindStart, rests]
  simp [Pattern.text]

theorem behindStart_of_ne {c : Char} (different : c ≠ '.') (rest : List Char) :
    behindStart (c :: rest) = [] := by
  rw [behindStart, rests]
  simp [different, Pattern.text]

theorem behindStart_dot (rest : List Char) :
    behindStart ('.' :: rest) =
      (stripStart "plugin.".toList rest).toList ++ (segment.rests rest).flatMap behindStart := by
  rw [behindStart, rests, List.flatMap_cons, rests_text]
  congr 1
  rw [rests_sequence, rests_char_cons, if_pos rfl, List.flatMap_singleton, List.flatMap_assoc]
  apply List.flatMap_congr
  intro left member
  have shorter : left.length < ('.' :: rest).length :=
    Nat.lt_succ_of_le (length_le_of_mem_rests_segment member)
  rw [if_pos shorter]
  rfl

theorem flatMap_behindStart {first rest : List Char} (undotted : '.' ∉ first)
    (ends : ∀ c ∈ rest.head?, c = '.') :
    (segment.rests (first ++ rest)).flatMap behindStart =
      if first.isEmpty then [] else behindStart rest := by
  by_cases blank : first = []
  · simp [blank, rests_segment_of_ends ends]
  · obtain ⟨partials, read, shorter⟩ := rests_segment undotted blank ends
    have stuck : partials.flatMap behindStart = [] := by
      rw [List.flatMap_eq_nil_iff]
      intro left member
      obtain ⟨c, after, different, rfl⟩ := shorter left member
      exact behindStart_of_ne different after
    simp [read, blank, stuck]

theorem findSome?_behindStart {segments : List (List Char)}
    (undotted : ∀ segment ∈ segments, '.' ∉ segment) :
    (behindStart (segments.flatMap ('.' :: ·))).findSome? firstSegment? = pluginAmong segments := by
  induction segments with
  | nil => simp [behindStart_nil, pluginAmong]
  | cons first rest induction =>
      have parts := List.forall_mem_cons.mp undotted
      have later := induction parts.2
      -- The start either ends here, if the plugin follows, or takes this segment, too.
      rw [List.flatMap_cons, List.cons_append, behindStart_dot,
        flatMap_behindStart parts.1 (Text.head?_flatMap_separator rest), List.findSome?_append]
      cases rest with
      | nil =>
          rw [List.flatMap_nil, List.append_nil, stripStart_plugin_alone parts.1, behindStart_nil,
            ite_self]
          rfl
      | cons next rest =>
          have nextParts := List.forall_mem_cons.mp parts.2
          have nextSegment : firstSegment? (next ++ rest.flatMap ('.' :: ·)) = _ :=
            firstSegment?_append nextParts.1 (Text.head?_flatMap_separator rest)
          rw [pluginAmong, ← later, List.flatMap_cons, List.cons_append, stripStart_plugin parts.1]
          by_cases plugin : first = pluginSegment
          · have filled : pluginSegment ≠ [] := by decide
            rw [if_pos plugin, Option.toList_some, List.findSome?_singleton, nextSegment]
            cases next.isEmpty <;> simp [plugin, filled]
          · rw [if_neg plugin]
            cases first.isEmpty <;> simp [plugin]

theorem findSome?_anyStart (given : List Char) :
    ((sequence anyStart (text ".plugin.".toList)).rests given).findSome? firstSegment? =
      afterAnyStart given := by
  obtain ⟨first, pieces, split, joined⟩ := Text.exists_splitOnChar_eq '.' given
  have undotted : ∀ piece ∈ first :: pieces, '.' ∉ piece := fun piece member =>
    Text.not_mem_of_mem_splitOnChar (split ▸ member)
  have parts := List.forall_mem_cons.mp undotted
  rw [afterAnyStart, split, rests_sequence, anyStart, rests_sequence, List.flatMap_assoc]
  change ((segment.rests given).flatMap behindStart).findSome? firstSegment? = _
  rw [joined, flatMap_behindStart parts.1 (Text.head?_flatMap_separator pieces)]
  by_cases blank : first = []
  · simp [blank]
  · simp [blank, findSome?_behindStart parts.2]

/-! ## A fixed start -/

theorem afterStart_eq_bind (start given : List Char) :
    afterStart start given =
      (stripStart (start ++ ".plugin.".toList) given).bind firstSegment? := by
  rw [afterStart]
  cases stripStart (start ++ ".plugin.".toList) given <;> rfl

theorem findSome?_fixedStart (start given : List Char) :
    ((sequence (text start) (text ".plugin.".toList)).rests given).findSome? firstSegment? =
      afterStart start given := by
  have stripped : (sequence (text start) (text ".plugin.".toList)).rests given =
      (stripStart (start ++ ".plugin.".toList) given).toList := by
    rw [rests_sequence, rests_text, stripStart_append_start]
    cases stripStart start given with
    | none => rfl
    | some rest =>
        rw [Option.toList_some, List.flatMap_singleton, rests_text]
        rfl
  rw [stripped, afterStart_eq_bind]
  cases stripStart (start ++ ".plugin.".toList) given with
  | none => rfl
  | some rest => exact List.findSome?_singleton

/-! ## Keys -/

theorem captured?_none (package : String) :
    captured? none package = (afterAnyStart package.toList).map String.ofList := by
  rw [captured?, head?_captures_segment, startPattern, findSome?_anyStart]

theorem captured?_some {start : String} (filled : start ≠ "") (package : String) :
    captured? (some start) package =
      (afterStart start.toList package.toList).map String.ofList := by
  have nonempty : ¬start.isEmpty = true := by simpa using filled
  rw [captured?, head?_captures_segment, startPattern, if_neg nonempty, findSome?_fixedStart]

/-- The key of a package is what the pattern captures, or else the package itself. -/
theorem derive_eq_captured (start : Option String) (package : String) :
    derive start package = (captured? start package).getD package := by
  have behindAny : derive none package = (captured? none package).getD package := by
    rw [captured?_none, derive]
    cases afterAnyStart package.toList <;> rfl
  cases start with
  | none => exact behindAny
  | some fixed =>
      by_cases blank : fixed = ""
      · subst blank
        exact behindAny
      · have nonempty : ¬fixed.isEmpty = true := by simpa using blank
        rw [captured?_some blank, derive]
        simp only [nonempty]
        cases afterStart fixed.toList package.toList <;> rfl

end GroupKey

end TaggedCatalog
