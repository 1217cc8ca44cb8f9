import TaggedCatalog.Proofs.GroupKey.Segments

/-! # Keys and starts

A fixed start is compared letter by letter, whatever it holds. A package may have
several starts that consist of filled segments. The pattern for any start matches if
there is one of them, and then behaves like the shortest. -/

namespace TaggedCatalog.GroupKey

/-! ## A fixed start -/

/-- A package in which a start, the word for plugins and a key follow each other. -/
structure IsKeyBehind (start package key : String) : Prop where
  filled : key ≠ ""
  undotted : '.' ∉ key.toList
  layout : ∃ rest, package = start ++ ".plugin." ++ key ++ rest ∧
    (rest = "" ∨ ∃ after, rest = "." ++ after)

theorem firstSegment?_eq_some_iff {given key : List Char} :
    firstSegment? given = some key ↔
      key ≠ [] ∧ '.' ∉ key ∧ ∃ rest, given = key ++ rest ∧ ∀ c ∈ rest.head?, c = '.' := by
  constructor
  · obtain ⟨first, pieces, split, joined⟩ := Text.exists_splitOnChar_eq '.' given
    have undotted : '.' ∉ first := Text.not_mem_of_mem_splitOnChar (split ▸ List.mem_cons_self)
    have ends : ∀ c ∈ (pieces.flatMap ('.' :: ·)).head?, c = '.' :=
      Text.head?_flatMap_separator pieces
    intro found
    rw [joined, firstSegment?_append undotted ends] at found
    split at found
    · cases found
    · rename_i filled
      cases found
      exact ⟨by simpa using filled, undotted, _, joined, ends⟩
  · rintro ⟨filled, undotted, rest, rfl, ends⟩
    rw [firstSegment?_append undotted ends]
    simp [filled]

theorem afterStart_eq_some_iff {start package key : List Char} :
    afterStart start package = some key ↔
      key ≠ [] ∧ '.' ∉ key ∧ ∃ rest, package = start ++ ".plugin.".toList ++ (key ++ rest) ∧
        ∀ c ∈ rest.head?, c = '.' := by
  simp only [afterStart_eq_bind, Option.bind_eq_some_iff, stripStart_eq_some_iff,
    firstSegment?_eq_some_iff]
  constructor
  · rintro ⟨behind, joined, filled, undotted, rest, rfl, ends⟩
    exact ⟨filled, undotted, rest, joined, ends⟩
  · rintro ⟨filled, undotted, rest, joined, ends⟩
    exact ⟨_, joined, filled, undotted, rest, rfl, ends⟩

theorem captured?_eq_some_iff {start : String} (filled : start ≠ "") {package key : String} :
    captured? (some start) package = some key ↔ IsKeyBehind start package key := by
  rw [captured?_some filled, Option.map_eq_some_iff]
  constructor
  · rintro ⟨found, isFound, rfl⟩
    obtain ⟨keyFilled, undotted, rest, joined, ends⟩ := afterStart_eq_some_iff.mp isFound
    refine ⟨by simpa using keyFilled, by simpa using undotted, String.ofList rest, ?_, ?_⟩
    · apply String.toList_inj.mp
      simpa using joined
    · cases rest with
      | nil => exact .inl rfl
      | cons c rest =>
          refine .inr ⟨String.ofList rest, ?_⟩
          rw [ends c rfl]
          apply String.toList_inj.mp
          simp
  · rintro ⟨keyFilled, undotted, rest, rfl, ends⟩
    refine ⟨key.toList, afterStart_eq_some_iff.mpr ⟨?_, undotted, rest.toList, ?_, ?_⟩, ?_⟩
    · simpa using keyFilled
    · simp
    · rcases ends with rfl | ⟨after, rfl⟩ <;> simp
    · simp

/-! ## Starts of filled segments -/

theorem splitOnChar_plugin (start behind : List Char) :
    Text.splitOnChar '.' (start ++ ".plugin.".toList ++ behind) =
      Text.splitOnChar '.' start ++ pluginSegment :: Text.splitOnChar '.' behind := by
  have enclosed : ".plugin.".toList = '.' :: (pluginSegment ++ ['.']) := by decide
  have alone : Text.splitOnChar '.' pluginSegment = [pluginSegment] := by decide
  have layout : start ++ ".plugin.".toList ++ behind =
      start ++ '.' :: (pluginSegment ++ '.' :: behind) := by
    simp only [enclosed, List.append_assoc, List.cons_append, List.nil_append]
  rw [layout, Text.splitOnChar_append_cons, Text.splitOnChar_append_cons, alone,
    List.singleton_append]

/-- The starts behind which a package has a key are those whose segments come first. -/
theorem afterStart_eq_some_iff_split {start package key : List Char} :
    afterStart start package = some key ↔
      key ≠ [] ∧ ∃ tail, Text.splitOnChar '.' package =
        Text.splitOnChar '.' start ++ pluginSegment :: key :: tail := by
  rw [afterStart_eq_some_iff]
  constructor
  · rintro ⟨filled, undotted, rest, rfl, ends⟩
    refine ⟨filled, ?_⟩
    rw [splitOnChar_plugin]
    cases rest with
    | nil => exact ⟨[], by simp [Text.splitOnChar_eq_splitOn, List.splitOn_eq_singleton undotted]⟩
    | cons c rest =>
        rw [ends c rfl, Text.splitOnChar_append_cons, Text.splitOnChar_eq_splitOn '.' key,
          List.splitOn_eq_singleton undotted]
        exact ⟨_, rfl⟩
  · rintro ⟨filled, tail, split⟩
    have free : ∀ piece ∈ Text.splitOnChar '.' start ++ pluginSegment :: key :: tail,
        '.' ∉ piece := fun piece member => Text.not_mem_of_mem_splitOnChar (split ▸ member)
    have undotted : '.' ∉ key := free key (by simp)
    refine ⟨filled, undotted, tail.flatMap ('.' :: ·), ?_, Text.head?_flatMap_separator tail⟩
    apply Text.splitOnChar_injective '.'
    rw [split, splitOnChar_plugin,
      Text.splitOnChar_started undotted fun piece member => free piece (by simp [member])]

/-- Every start of filled segments ends at a place. -/
theorem isPluginPlace_of_afterStart {start package key : List Char}
    (filled : [] ∉ Text.splitOnChar '.' start) (found : afterStart start package = some key) :
    IsPluginPlace (Text.splitOnChar '.' package) (Text.splitOnChar '.' start).length ∧
      (Text.splitOnChar '.' package)[(Text.splitOnChar '.' start).length + 1]? = some key := by
  obtain ⟨keyFilled, tail, split⟩ := afterStart_eq_some_iff_split.mp found
  have pluginFilled : pluginSegment ≠ [] := by decide
  rw [split]
  generalize segments : Text.splitOnChar '.' start = before at filled
  have nonempty : 1 ≤ before.length := by
    rw [← segments, Text.length_splitOnChar]
    exact Nat.le_add_left 1 _
  refine ⟨⟨nonempty, by simp, by simp, ?_⟩, by simp⟩
  intro index within blank
  rcases Nat.lt_or_ge index before.length with inStart | behind
  · rw [List.getElem?_append_left inStart] at blank
    exact filled (List.mem_of_getElem? blank)
  · obtain ⟨distance, rfl⟩ := Nat.exists_eq_add_of_le behind
    rw [List.getElem?_append_right behind, Nat.add_sub_cancel_left] at blank
    have isNear : distance = 0 ∨ distance = 1 := by omega
    rcases isNear with rfl | rfl
    · exact pluginFilled (by simpa using blank)
    · exact keyFilled (by simpa using blank)

/-- Every place is the end of a start of filled segments. -/
theorem exists_afterStart_of_isPluginPlace {package : List Char} {place : Nat}
    (found : IsPluginPlace (Text.splitOnChar '.' package) place) :
    ∃ start key, [] ∉ Text.splitOnChar '.' start ∧ afterStart start package = some key ∧
      (Text.splitOnChar '.' start).length = place := by
  generalize segments : Text.splitOnChar '.' package = all at found
  have within : place + 1 < all.length := found.isFollowed
  have parts : all = all.take place ++ all[place] :: all[place + 1] :: all.drop (place + 2) := by
    rw [← List.drop_eq_getElem_cons, ← List.drop_eq_getElem_cons, List.take_append_drop]
  have isPlugin : all[place] = pluginSegment := by
    simpa [List.getElem?_eq_getElem (Nat.lt_of_succ_lt within)] using found.isPlugin
  have keyFilled : all[place + 1] ≠ [] := by
    simpa [List.getElem?_eq_getElem within] using found.filled (place + 1) (Nat.le_refl _)
  have length : (all.take place).length = place := by
    rw [List.length_take]
    omega
  have free : ∀ piece ∈ all.take place, '.' ∉ piece := fun piece member =>
    Text.not_mem_of_mem_splitOnChar (segments ▸ List.mem_of_mem_take member)
  have filled : [] ∉ all.take place := by
    intro member
    obtain ⟨index, inStart, blank⟩ := List.getElem_of_mem member
    rw [length] at inStart
    refine found.filled index (by omega) ?_
    rw [List.getElem_take] at blank
    rw [List.getElem?_eq_getElem (by omega), blank]
  cases start : all.take place with
  | nil =>
      rw [start] at length
      exact absurd found.behindFirst (by simp [← length])
  | cons first pieces =>
      rw [start] at free filled length parts
      have freeParts := List.forall_mem_cons.mp free
      have split := Text.splitOnChar_started freeParts.1 freeParts.2
      refine ⟨first ++ pieces.flatMap ('.' :: ·), all[place + 1], ?_, ?_, ?_⟩
      · rwa [split]
      · rw [afterStart_eq_some_iff_split, segments, split, ← isPlugin]
        exact ⟨keyFilled, _, parts⟩
      · rwa [split]

/-- A start behind which a package has a key, none of its segments being empty. -/
structure IsFilledStart (package start : String) : Prop where
  filled : [] ∉ Text.splitOnChar '.' start.toList
  isMatch : (captured? (some start) package).isSome = true

theorem ne_empty_of_filled {start : String} (filled : [] ∉ Text.splitOnChar '.' start.toList) :
    start ≠ "" := by
  rintro rfl
  exact filled (by decide)

theorem isFilledStart_iff {package start : String} :
    IsFilledStart package start ↔ [] ∉ Text.splitOnChar '.' start.toList ∧
      ∃ key, afterStart start.toList package.toList = some key := by
  have toCaptured : [] ∉ Text.splitOnChar '.' start.toList →
      ((captured? (some start) package).isSome = true ↔
        ∃ key, afterStart start.toList package.toList = some key) := by
    intro filled
    rw [captured?_some (ne_empty_of_filled filled), Option.isSome_map, Option.isSome_iff_exists]
  exact ⟨fun start => ⟨start.filled, (toCaptured start.filled).mp start.isMatch⟩,
    fun parts => ⟨parts.1, (toCaptured parts.1).mpr parts.2⟩⟩

theorem isSome_afterAnyStart_iff (package : List Char) :
    (afterAnyStart package).isSome = true ↔
      ∃ start key, [] ∉ Text.splitOnChar '.' start ∧ afterStart start package = some key := by
  have found := foundAmong_afterAnyStart package
  generalize afterAnyStart package = plugin at found
  cases found with
  | behind least _ =>
      obtain ⟨start, key, filled, isFound, -⟩ := exists_afterStart_of_isPluginPlace least.1
      exact ⟨fun _ => ⟨start, key, filled, isFound⟩, fun _ => rfl⟩
  | nowhere absent =>
      refine ⟨fun impossible => absurd impossible (by simp), ?_⟩
      rintro ⟨start, key, filled, isFound⟩
      exact absurd (isPluginPlace_of_afterStart filled isFound).1 (absent _)

theorem isPrefix_of_afterStart {start package key : List Char}
    (found : afterStart start package = some key) : start <+: package := by
  obtain ⟨-, -, rest, rfl, -⟩ := afterStart_eq_some_iff.mp found
  rw [List.append_assoc]
  exact List.prefix_append _ _

/-- The shortest start ends at the least place. -/
theorem afterAnyStart_eq_of_shortest {start package key : List Char}
    (filled : [] ∉ Text.splitOnChar '.' start) (found : afterStart start package = some key)
    (shortest : ∀ other otherKey, [] ∉ Text.splitOnChar '.' other →
      afterStart other package = some otherKey → start.length ≤ other.length) :
    afterAnyStart package = some key := by
  obtain ⟨isPlace, follows⟩ := isPluginPlace_of_afterStart filled found
  refine (foundAmong_afterAnyStart package).unique (.behind ⟨isPlace, ?_⟩ follows)
  intro place isOther
  obtain ⟨other, otherKey, otherFilled, otherFound, rfl⟩ :=
    exists_afterStart_of_isPluginPlace isOther
  -- Both starts begin the package, so the shorter one begins the other and has no more dots.
  have begins : start <+: other :=
    List.prefix_of_prefix_length_le (isPrefix_of_afterStart found)
      (isPrefix_of_afterStart otherFound) (shortest other otherKey otherFilled otherFound)
  rw [Text.length_splitOnChar, Text.length_splitOnChar]
  exact Nat.succ_le_succ (begins.sublist.count_le '.')

/-! ## Keys of keys -/

theorem undotted_of_captured? {start : Option String} {package key : String}
    (captured : captured? start package = some key) : '.' ∉ key.toList := by
  rw [captured?, head?_captures_segment, Option.map_eq_some_iff] at captured
  obtain ⟨found, isFound, rfl⟩ := captured
  obtain ⟨rest, -, isSegment⟩ := List.exists_of_findSome?_eq_some isFound
  simpa using (firstSegment?_eq_some_iff.mp isSegment).2.1

theorem captured?_none_of_undotted {package : String} (undotted : '.' ∉ package.toList) :
    captured? none package = none := by
  rw [captured?_none]
  have found := foundAmong_afterAnyStart package.toList
  rw [Text.splitOnChar_eq_splitOn, List.splitOn_eq_singleton undotted] at found
  generalize afterAnyStart package.toList = plugin at found
  cases found with
  | behind least _ => exact absurd least.1.two_lt_length (by simp)
  | nowhere _ => rfl

theorem captured?_of_undotted (start : Option String) {package : String}
    (undotted : '.' ∉ package.toList) : captured? start package = none := by
  cases start with
  | none => exact captured?_none_of_undotted undotted
  | some fixed =>
      by_cases blank : fixed = ""
      · subst blank
        exact captured?_none_of_undotted undotted
      · rw [Option.eq_none_iff_forall_ne_some]
        intro key captured
        obtain ⟨rest, rfl, -⟩ := ((captured?_eq_some_iff blank).mp captured).layout
        exact undotted (by simp)

theorem derive_of_captured?_eq_none {start : Option String} {package : String}
    (missed : captured? start package = none) : derive start package = package := by
  rw [derive_eq_captured, missed, Option.getD_none]

theorem derive_of_captured?_eq_some {start : Option String} {package key : String}
    (captured : captured? start package = some key) : derive start package = key := by
  rw [derive_eq_captured, captured, Option.getD_some]

theorem derive_derive (start : Option String) (package : String) :
    derive start (derive start package) = derive start package := by
  cases captured : captured? start package with
  | none =>
      have own := derive_of_captured?_eq_none captured
      rw [own, own]
  | some key =>
      rw [derive_of_captured?_eq_some captured]
      exact derive_of_captured?_eq_none
        (captured?_of_undotted start (undotted_of_captured? captured))

/-! ## Starts and patterns -/

/-- The keys of a package behind fixed starts and behind any start. -/
structure KeysByStart (package : String) : Prop where
  /-- A fixed start is compared as it is. -/
  fixedKey : ∀ start ≠ "", ∀ key, IsKeyBehind start package key → derive (some start) package = key
  fixedOther : ∀ start ≠ "", (∀ key, ¬IsKeyBehind start package key) →
    derive (some start) package = package
  fixedMatch : ∀ start ≠ "", ((captured? (some start) package).isSome = true ↔
    ∃ key, IsKeyBehind start package key)
  /-- Any start matches where a start of filled segments does. -/
  anyMatch : (captured? none package).isSome = true ↔ ∃ start, IsFilledStart package start
  /-- The key is then the one of the shortest of these starts. -/
  anyKey : ∀ start, IsFilledStart package start →
    (∀ other, IsFilledStart package other → start.length ≤ other.length) →
    (captured? none package).isSome = true ∧ derive none package = derive (some start) package
  /-- A key is its own key. -/
  idempotent : ∀ start, derive start (derive start package) = derive start package

theorem derive_by_start (package : String) : KeysByStart package where
  fixedKey := by
    intro start filled key isBehind
    exact derive_of_captured?_eq_some ((captured?_eq_some_iff filled).mpr isBehind)
  fixedOther := by
    intro start filled notBehind
    apply derive_of_captured?_eq_none
    rw [Option.eq_none_iff_forall_ne_some]
    intro key captured
    exact notBehind key ((captured?_eq_some_iff filled).mp captured)
  fixedMatch := by
    intro start filled
    simp only [Option.isSome_iff_exists, captured?_eq_some_iff filled]
  anyMatch := by
    rw [captured?_none, Option.isSome_map, isSome_afterAnyStart_iff]
    constructor
    · rintro ⟨start, key, filled, found⟩
      exact ⟨String.ofList start, isFilledStart_iff.mpr (by simpa using ⟨filled, key, found⟩)⟩
    · rintro ⟨start, isStart⟩
      obtain ⟨filled, key, found⟩ := isFilledStart_iff.mp isStart
      exact ⟨start.toList, key, filled, found⟩
  anyKey := by
    intro start isStart shortest
    obtain ⟨filled, key, found⟩ := isFilledStart_iff.mp isStart
    have any : afterAnyStart package.toList = some key := by
      refine afterAnyStart_eq_of_shortest filled found ?_
      intro other otherKey otherFilled otherFound
      have isOther : IsFilledStart package (String.ofList other) :=
        isFilledStart_iff.mpr (by simpa using ⟨otherFilled, otherKey, otherFound⟩)
      rw [String.length_toList]
      simpa using shortest _ isOther
    have captured : captured? none package = some (String.ofList key) := by
      rw [captured?_none, any, Option.map_some]
    have fixed : captured? (some start) package = some (String.ofList key) := by
      rw [captured?_some (ne_empty_of_filled filled), found, Option.map_some]
    refine ⟨by rw [captured, Option.isSome_some], ?_⟩
    rw [derive_of_captured?_eq_some captured, derive_of_captured?_eq_some fixed]
  idempotent := fun start => derive_derive start package

/- A longer start can lead to another key. -/
example : derive none "a.plugin.b.plugin.c" = "b" := by decide
example : derive (some "a.plugin.b") "a.plugin.b.plugin.c" = "c" := by decide

end TaggedCatalog.GroupKey
