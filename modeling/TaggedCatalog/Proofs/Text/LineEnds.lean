import Mathlib.Data.List.Basic
import TaggedCatalog.Proofs.Text.Splitting
import TaggedCatalog.Text.CodePoint

/-! # Line ends

A line ends at a carriage return with a line feed behind it, or at either of them
alone. Writing every line end as a line feed and cutting there gives exactly the lines
of a text, and two texts that differ only in the style of their line ends become one. -/

namespace TaggedCatalog.Text

open CodeText (withLineFeeds)

inductive LineEnd where
  | lineFeed
  | carriageReturn
  | both
deriving DecidableEq, Repr

namespace LineEnd

def codes : LineEnd → CodeText
  | lineFeed => [.lineFeed]
  | carriageReturn => [.carriageReturn]
  | both => [.carriageReturn, .lineFeed]

/-- Whether a line end can be told from what follows it: a carriage return in front of a
line feed is a part of another line end. -/
def StandsBefore (lineEnd : LineEnd) (rest : CodeText) : Prop :=
  lineEnd = carriageReturn → rest.head? ≠ some .lineFeed

end LineEnd

/-- A text without a line end. -/
structure IsOneLine (text : CodeText) : Prop where
  noReturn : .carriageReturn ∉ text
  noFeed : .lineFeed ∉ text

/-- The lines of a text, where what stands behind the last line end is a line too. -/
inductive HasLines : CodeText → List CodeText → Prop
  | last {line : CodeText} (isLine : IsOneLine line) : HasLines line [line]
  | ended {line rest : CodeText} {lines : List CodeText} (isLine : IsOneLine line)
      (lineEnd : LineEnd) (stands : lineEnd.StandsBefore rest) (others : HasLines rest lines) :
      HasLines (line ++ (lineEnd.codes ++ rest)) (line :: lines)

/-! ## Line ends written as line feeds -/

section Letters

variable {α : Type} [DecidableEq α] {carriageReturn lineFeed : α}

theorem uniformLineEnds_cons_other {c : α} (different : c ≠ carriageReturn) (rest : List α) :
    uniformLineEnds carriageReturn lineFeed (c :: rest) =
      c :: uniformLineEnds carriageReturn lineFeed rest := by
  cases rest <;> simp [uniformLineEnds, different]

theorem uniformLineEnds_both (rest : List α) :
    uniformLineEnds carriageReturn lineFeed (carriageReturn :: lineFeed :: rest) =
      lineFeed :: uniformLineEnds carriageReturn lineFeed rest := by
  rw [uniformLineEnds, if_pos rfl, if_pos rfl]

theorem uniformLineEnds_carriageReturn {rest : List α} (alone : rest.head? ≠ some lineFeed) :
    uniformLineEnds carriageReturn lineFeed (carriageReturn :: rest) =
      lineFeed :: uniformLineEnds carriageReturn lineFeed rest := by
  cases rest with
  | nil => simp [uniformLineEnds]
  | cons d rest =>
      rw [uniformLineEnds, if_pos rfl, if_neg fun same => alone (congrArg some same)]

theorem uniformLineEnds_eq_nil_iff {text : List α} :
    uniformLineEnds carriageReturn lineFeed text = [] ↔ text = [] := by
  fun_cases uniformLineEnds carriageReturn lineFeed text <;> simp

end Letters

theorem withLineFeeds_cons_other {c : CodePoint} (different : c ≠ .carriageReturn)
    (rest : CodeText) : withLineFeeds (c :: rest) = c :: withLineFeeds rest :=
  uniformLineEnds_cons_other different rest

theorem withLineFeeds_append {before : CodeText} (noReturn : .carriageReturn ∉ before)
    (rest : CodeText) :
    withLineFeeds (before ++ rest) = before ++ withLineFeeds rest := by
  induction before with
  | nil => rfl
  | cons c before induction =>
      rw [List.mem_cons, not_or] at noReturn
      rw [List.cons_append, withLineFeeds_cons_other (Ne.symm noReturn.1),
        induction noReturn.2, List.cons_append]

theorem withLineFeeds_of_noReturn {text : CodeText} (noReturn : .carriageReturn ∉ text) :
    withLineFeeds text = text := by
  have whole := withLineFeeds_append noReturn []
  have nothing : withLineFeeds [] = [] := rfl
  rwa [List.append_nil, nothing, List.append_nil] at whole

theorem withLineFeeds_lineEnd {lineEnd : LineEnd} {rest : CodeText}
    (stands : lineEnd.StandsBefore rest) :
    withLineFeeds (lineEnd.codes ++ rest) = .lineFeed :: withLineFeeds rest := by
  cases lineEnd with
  | lineFeed => exact withLineFeeds_cons_other (by decide) rest
  | both => exact uniformLineEnds_both rest
  | carriageReturn => exact uniformLineEnds_carriageReturn (stands rfl)

theorem withLineFeeds_eq_nil_iff {text : CodeText} : withLineFeeds text = [] ↔ text = [] :=
  uniformLineEnds_eq_nil_iff

/-! ## Lines -/

theorem HasLines.cons_other {c : CodePoint} {text : CodeText} {lines : List CodeText}
    (notReturn : c ≠ .carriageReturn) (notFeed : c ≠ .lineFeed)
    (hasLines : HasLines text lines) :
    ∃ first others, HasLines (c :: text) ((c :: first) :: others) := by
  have longer {line : CodeText} (isLine : IsOneLine line) : IsOneLine (c :: line) :=
    ⟨by simp [isLine.noReturn, Ne.symm notReturn], by simp [isLine.noFeed, Ne.symm notFeed]⟩
  cases hasLines with
  | last isLine => exact ⟨_, _, .last (longer isLine)⟩
  | ended isLine lineEnd stands others =>
      exact ⟨_, _, .ended (longer isLine) lineEnd stands others⟩

theorem exists_hasLines (text : CodeText) : ∃ lines, HasLines text lines := by
  have noLine : IsOneLine [] := ⟨List.not_mem_nil, List.not_mem_nil⟩
  induction text using (uniformLineEnds.induct CodePoint.carriageReturn CodePoint.lineFeed) with
  | case1 => exact ⟨_, .last noLine⟩
  | case2 c =>
      by_cases isReturn : c = .carriageReturn
      · subst isReturn
        exact ⟨_, .ended noLine .carriageReturn (fun _ => by simp) (.last noLine)⟩
      · by_cases isFeed : c = .lineFeed
        · subst isFeed
          exact ⟨_, .ended noLine .lineFeed (by simp [LineEnd.StandsBefore]) (.last noLine)⟩
        · rcases (HasLines.last noLine).cons_other isReturn isFeed with ⟨_, _, longer⟩
          exact ⟨_, longer⟩
  | case3 rest induction =>
      rcases induction with ⟨lines, hasLines⟩
      exact ⟨_, .ended noLine .both (by simp [LineEnd.StandsBefore]) hasLines⟩
  | case4 d rest alone induction =>
      rcases induction with ⟨lines, hasLines⟩
      refine ⟨_, .ended noLine .carriageReturn ?_ hasLines⟩
      intro _ feedFollows
      exact alone (Option.some.inj feedFollows)
  | case5 c d rest notReturn induction =>
      rcases induction with ⟨lines, hasLines⟩
      by_cases isFeed : c = .lineFeed
      · subst isFeed
        exact ⟨_, .ended noLine .lineFeed (by simp [LineEnd.StandsBefore]) hasLines⟩
      · rcases hasLines.cons_other notReturn isFeed with ⟨_, _, longer⟩
        exact ⟨_, longer⟩

theorem HasLines.eq_splitOnChar {text : CodeText} {lines : List CodeText}
    (hasLines : HasLines text lines) : lines = splitOnChar .lineFeed (withLineFeeds text) := by
  induction hasLines with
  | last isLine =>
      rw [withLineFeeds_of_noReturn isLine.noReturn, splitOnChar_eq_splitOn,
        List.splitOn_eq_singleton isLine.noFeed]
  | ended isLine lineEnd stands _ induction =>
      rw [withLineFeeds_append isLine.noReturn, withLineFeeds_lineEnd stands,
        splitOnChar_append_cons, ← induction, splitOnChar_eq_splitOn,
        List.splitOn_eq_singleton isLine.noFeed]
      rfl

/-- Cutting at line feeds, once all line ends are line feeds, gives the lines and nothing
else. -/
theorem hasLines_iff {text : CodeText} {lines : List CodeText} :
    HasLines text lines ↔ lines = splitOnChar .lineFeed (withLineFeeds text) := by
  constructor
  · exact HasLines.eq_splitOnChar
  · rintro rfl
    rcases exists_hasLines text with ⟨lines, hasLines⟩
    rwa [← hasLines.eq_splitOnChar]

example : HasLines "a\r\r\n\nb" ["a", "", "", "b"] :=
  hasLines_iff.mpr (by decide)

theorem HasLines.isOneLine_of_mem {text line : CodeText} {lines : List CodeText}
    (hasLines : HasLines text lines) (member : line ∈ lines) : IsOneLine line := by
  induction hasLines with
  | last isLine => rwa [List.mem_singleton.mp member]
  | ended isLine _ _ _ induction =>
      rcases List.mem_cons.mp member with rfl | later
      · exact isLine
      · exact induction later

/-- What stands behind a line feed has its lines to itself. -/
theorem exists_hasLines_append_feed (before : CodeText) :
    ∃ lines, ∀ behind others, HasLines behind others →
      HasLines (before ++ .lineFeed :: behind) (lines ++ others) := by
  rcases exists_hasLines before with ⟨lines, hasLines⟩
  induction hasLines with
  | @last line isLine =>
      refine ⟨[line], ?_⟩
      intro behind others behindLines
      exact .ended isLine .lineFeed (by simp [LineEnd.StandsBefore]) behindLines
  | @ended line rest lines isLine lineEnd stands _ induction =>
      rcases induction with ⟨restLines, append⟩
      by_cases completed : lineEnd = .carriageReturn ∧ rest = []
      · -- The line feed belongs to the carriage return in front of it.
        rcases completed with ⟨rfl, rfl⟩
        refine ⟨[line], ?_⟩
        intro behind others behindLines
        have whole := HasLines.ended isLine .both (by simp [LineEnd.StandsBefore]) behindLines
        simpa [LineEnd.codes] using whole
      · refine ⟨line :: restLines, ?_⟩
        intro behind others behindLines
        have standsStill : lineEnd.StandsBefore (rest ++ .lineFeed :: behind) := by
          intro isReturn
          rw [List.head?_append_of_ne_nil _ fun empty => completed ⟨isReturn, empty⟩]
          exact stands isReturn
        have whole := HasLines.ended isLine lineEnd standsStill (append behind others behindLines)
        simpa using whole

/-! ## Texts in several styles -/

/-- A text with its line feeds written in other styles, each place in its own. -/
def restyle (style : Nat → LineEnd) (text : CodeText) : CodeText :=
  (text.mapIdx fun place c => if c = .lineFeed then (style place).codes else [c]).flatten

/-- No line feed that becomes a carriage return has one right behind it that stays. -/
def StaysApart (style : Nat → LineEnd) (text : CodeText) : Prop :=
  ∀ place, text[place]? = some .lineFeed → text[place + 1]? = some .lineFeed →
    ¬(style place = .carriageReturn ∧ style (place + 1) = .lineFeed)

instance (style : Nat → LineEnd) (text : CodeText) : Decidable (StaysApart style text) :=
  decidable_of_iff (∀ place < text.length, text[place]? = some .lineFeed →
      text[place + 1]? = some .lineFeed →
        ¬(style place = .carriageReturn ∧ style (place + 1) = .lineFeed))
    ⟨fun within place first => within place (List.getElem?_eq_some_iff.mp first).1 first,
      fun apart place _ => apart place⟩

theorem restyle_cons (style : Nat → LineEnd) (c : CodePoint) (rest : CodeText) :
    restyle style (c :: rest) =
      (if c = .lineFeed then (style 0).codes else [c]) ++
        restyle (fun place => style (place + 1)) rest := by
  rw [restyle, List.mapIdx_cons, List.flatten_cons]
  rfl

theorem head?_restyle {style : Nat → LineEnd} {text : CodeText}
    (feedFirst : (restyle style text).head? = some .lineFeed) :
    text.head? = some .lineFeed ∧ style 0 = .lineFeed := by
  cases text with
  | nil => cases feedFirst
  | cons c rest =>
      rw [restyle_cons] at feedFirst
      by_cases isFeed : c = .lineFeed
      · rw [if_pos isFeed] at feedFirst
        cases chosen : style 0 with
        | lineFeed => exact ⟨by rw [isFeed, List.head?_cons], rfl⟩
        | carriageReturn | both => simp [chosen, LineEnd.codes] at feedFirst
      · simp [isFeed] at feedFirst

/-- The style of line ends is lost where they are written as line feeds. -/
theorem withLineFeeds_restyle {style : Nat → LineEnd} {text : CodeText}
    (noReturn : .carriageReturn ∉ text) (apart : StaysApart style text) :
    withLineFeeds (restyle style text) = text := by
  induction text generalizing style with
  | nil => rfl
  | cons c rest induction =>
      rw [List.mem_cons, not_or] at noReturn
      have restApart : StaysApart (fun place => style (place + 1)) rest :=
        fun place first second => apart (place + 1) first second
      have others := induction noReturn.2 restApart
      rw [restyle_cons]
      by_cases isFeed : c = .lineFeed
      · subst isFeed
        have stands : (style 0).StandsBefore (restyle (fun place => style (place + 1)) rest) := by
          intro isReturn feedFirst
          rcases head?_restyle feedFirst with ⟨feedFollows, stays⟩
          rw [List.head?_eq_getElem?] at feedFollows
          exact apart 0 rfl feedFollows ⟨isReturn, stays⟩
        rw [if_pos rfl, withLineFeeds_lineEnd stands, others]
      · rw [if_neg isFeed, List.singleton_append,
          withLineFeeds_cons_other (Ne.symm noReturn.1), others]

end TaggedCatalog.Text
