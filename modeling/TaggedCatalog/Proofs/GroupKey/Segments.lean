import Mathlib.Order.Bounds.Basic
import TaggedCatalog.Proofs.GroupKey.KeyPattern

/-! # Keys and segments

With any start, the key of a package is found by counting through its segments: it
follows the first word for plugins that stands between two other segments, as long
as no segment up to the key is empty. -/

namespace TaggedCatalog.GroupKey

/-- A place among the segments of a package that makes the next segment a key. -/
structure IsPluginPlace (segments : List (List Char)) (place : Nat) : Prop where
  behindFirst : 1 ≤ place
  isPlugin : segments[place]? = some pluginSegment
  isFollowed : place + 1 < segments.length
  filled : ∀ index ≤ place + 1, segments[index]? ≠ some []

namespace IsPluginPlace

variable {segments : List (List Char)} {first : List Char} {place : Nat}

theorem two_lt_length (found : IsPluginPlace segments place) : 2 < segments.length := by
  have behindFirst := found.behindFirst
  have isFollowed := found.isFollowed
  omega

/-- Places but the foremost one are places of the segments behind the first. -/
theorem cons_iff (behindNext : 1 ≤ place) :
    IsPluginPlace (first :: segments) (place + 1) ↔ first ≠ [] ∧ IsPluginPlace segments place := by
  constructor
  · intro found
    refine ⟨?_, behindNext, by simpa using found.isPlugin, by simpa using found.isFollowed, ?_⟩
    · simpa using found.filled 0 (Nat.zero_le _)
    · intro index within
      simpa using found.filled (index + 1) (Nat.succ_le_succ within)
  · rintro ⟨filled, found⟩
    refine ⟨Nat.succ_le_succ (Nat.zero_le _), by simpa using found.isPlugin,
      by simpa using found.isFollowed, ?_⟩
    intro index within
    cases index with
    | zero => simpa using filled
    | succ index => simpa using found.filled index (Nat.le_of_succ_le_succ within)

theorem one_iff {segment next : List Char} (filled : first ≠ []) :
    IsPluginPlace (first :: segment :: next :: segments) 1 ↔
      segment = pluginSegment ∧ next ≠ [] := by
  constructor
  · intro found
    exact ⟨by simpa using found.isPlugin, by simpa using found.filled 2 (Nat.le_refl 2)⟩
  · rintro ⟨rfl, nextFilled⟩
    refine ⟨Nat.le_refl 1, rfl, by simp, ?_⟩
    intro index within
    have pluginFilled : pluginSegment ≠ [] := by decide
    match index, within with
    | 0, _ => simpa using filled
    | 1, _ => simpa using pluginFilled
    | 2, _ => simpa using nextFilled

end IsPluginPlace

/-- What the segments of a package make its key: the segment behind the least place,
or nothing if there is no place. -/
inductive FoundAmong (segments : List (List Char)) : Option (List Char) → Prop
  | behind {place : Nat} {key : List Char}
      (least : IsLeast {place | IsPluginPlace segments place} place)
      (follows : segments[place + 1]? = some key) : FoundAmong segments (some key)
  | nowhere (absent : ∀ place, ¬IsPluginPlace segments place) : FoundAmong segments none

namespace FoundAmong

variable {segments : List (List Char)} {first : List Char} {found : Option (List Char)}

/-- A segment in front changes nothing, unless it makes the next one the word for
plugins. -/
theorem cons (filled : first ≠ []) (notFirst : ¬IsPluginPlace (first :: segments) 1)
    (later : FoundAmong segments found) : FoundAmong (first :: segments) found := by
  have shifted : ∀ place, IsPluginPlace (first :: segments) place →
      ∃ earlier, place = earlier + 1 ∧ IsPluginPlace segments earlier := by
    intro place isPlace
    match place with
    | 0 => exact absurd isPlace.behindFirst (by simp)
    | 1 => exact absurd isPlace notFirst
    | earlier + 2 =>
        have behindNext : 1 ≤ earlier + 1 := Nat.le_add_left 1 earlier
        exact ⟨earlier + 1, rfl, ((IsPluginPlace.cons_iff behindNext).mp isPlace).2⟩
  cases later with
  | @behind place key least follows =>
      have leastBehind : IsLeast {place | IsPluginPlace (first :: segments) place} (place + 1) := by
        refine ⟨(IsPluginPlace.cons_iff least.1.behindFirst).mpr ⟨filled, least.1⟩, ?_⟩
        intro other isOther
        obtain ⟨earlier, rfl, isEarlier⟩ := shifted other isOther
        exact Nat.succ_le_succ (least.2 isEarlier)
      exact .behind leastBehind (by simpa using follows)
  | nowhere absent =>
      refine .nowhere fun place isPlace => ?_
      obtain ⟨earlier, -, isEarlier⟩ := shifted place isPlace
      exact absent earlier isEarlier

theorem unique {other : Option (List Char)} (this : FoundAmong segments found)
    (that : FoundAmong segments other) : found = other := by
  cases this with
  | behind least follows =>
      cases that with
      | behind otherLeast otherFollows =>
          rw [least.unique otherLeast] at follows
          exact follows.symm.trans otherFollows
      | nowhere absent => exact absurd least.1 (absent _)
  | nowhere absent =>
      cases that with
      | behind otherLeast _ => exact absurd otherLeast.1 (absent _)
      | nowhere _ => rfl

end FoundAmong

theorem foundAmong_pluginAmong {first : List Char} (filled : first ≠ [])
    (rest : List (List Char)) : FoundAmong (first :: rest) (pluginAmong rest) := by
  induction rest generalizing first with
  | nil => exact .nowhere fun place isPlace => absurd isPlace.two_lt_length (by simp)
  | cons segment rest induction =>
      cases rest with
      | nil => exact .nowhere fun place isPlace => absurd isPlace.two_lt_length (by simp)
      | cons next rest =>
          have atFirst : IsPluginPlace (first :: segment :: next :: rest) 1 ↔ _ :=
            IsPluginPlace.one_iff filled
          rw [pluginAmong]
          by_cases isKey : segment = pluginSegment ∧ next ≠ []
          · have decided : (segment = pluginSegment && !next.isEmpty) = true := by simpa using isKey
            rw [if_pos decided]
            exact .behind ⟨atFirst.mpr isKey, fun other isOther => isOther.behindFirst⟩ rfl
          · have decided : ¬(segment = pluginSegment && !next.isEmpty) = true := by
              simpa using isKey
            rw [if_neg decided]
            by_cases blank : segment = []
            · rw [if_pos (by simp [blank])]
              refine .nowhere fun place isPlace => ?_
              exact isPlace.filled 1 (Nat.le_succ_of_le isPlace.behindFirst) (by simp [blank])
            · rw [if_neg (by simpa using blank)]
              exact (induction blank).cons filled (mt atFirst.mp isKey)

theorem foundAmong_afterAnyStart (package : List Char) :
    FoundAmong (Text.splitOnChar '.' package) (afterAnyStart package) := by
  rw [afterAnyStart]
  obtain ⟨first, rest, split, -⟩ := Text.exists_splitOnChar_eq '.' package
  rw [split]
  by_cases blank : first = []
  · refine blank ▸ .nowhere fun place isPlace => ?_
    exact isPlace.filled 0 (Nat.zero_le _) rfl
  · have nonempty : ¬first.isEmpty = true := by simpa using blank
    simp only [if_neg nonempty]
    exact foundAmong_pluginAmong blank rest

def segmentsOf (package : String) : List (List Char) := Text.splitOnChar '.' package.toList

/-- Whether a key is what counting through the segments leads to: the segment behind
the least place, or the package itself if there is no place. -/
inductive IsCountedKey (package key : String) : Prop
  | behind {place : Nat} (least : IsLeast {place | IsPluginPlace (segmentsOf package) place} place)
      (follows : (segmentsOf package)[place + 1]? = some key.toList)
  | alone (absent : ∀ place, ¬IsPluginPlace (segmentsOf package) place) (isPackage : key = package)

/-- The key with any start is also what the pattern captures. An empty start stands for
any start. -/
theorem derive_anyStart_by_segments (package : String) :
    IsCountedKey package (derive none package) ∧
      derive none package = (captured? none package).getD package ∧
      derive (some "") package = derive none package := by
  refine ⟨?_, derive_eq_captured none package, rfl⟩
  rw [derive_eq_captured, captured?_none]
  have found := foundAmong_afterAnyStart package.toList
  generalize afterAnyStart package.toList = plugin at found
  cases found with
  | behind least follows => exact .behind least (by simpa [segmentsOf] using follows)
  | nowhere absent => exact .alone absent rfl

example : derive none "a.plugin.plugin.net" = "plugin" := by decide

end TaggedCatalog.GroupKey
