import TaggedCatalog.OptionList
import TaggedCatalog.Proofs.Text.Splitting

/-! # Options joined by commas

The tokens of an option text, joined again, give the text less the blanks around it and
the commas at its end. So tokens that are joined are found again exactly where this
takes nothing away. -/

namespace TaggedCatalog

namespace Text

section Edges

variable {α : Type} {drops : α → Bool}

/-! ## Trimmed edges -/

theorem dropWhile_eq_self_iff {text : List α} :
    text.dropWhile drops = text ↔ ∀ c ∈ text.head?, drops c = false := by
  rw [List.dropWhile_eq_self_iff]
  cases text <;> simp

theorem trimEnd_eq_self_iff {text : List α} :
    trimEnd drops text = text ↔ ∀ c ∈ text.getLast?, drops c = false := by
  change text.rdropWhile drops = text ↔ _
  rw [List.rdropWhile_eq_self_iff]
  cases text using List.reverseRecOn <;> simp

theorem trim_isPrefix (drops : α → Bool) (text : List α) :
    trim drops text <+: text.dropWhile drops :=
  List.rdropWhile_prefix _ _

theorem trim_sublist (drops : α → Bool) (text : List α) : (trim drops text).Sublist text :=
  (trim_isPrefix drops text).sublist.trans (List.dropWhile_suffix drops).sublist

theorem trim_eq_self_iff {text : List α} :
    trim drops text = text ↔
      (∀ c ∈ text.head?, drops c = false) ∧ ∀ c ∈ text.getLast?, drops c = false := by
  rw [← dropWhile_eq_self_iff, ← trimEnd_eq_self_iff]
  constructor
  · intro same
    have shorter := (trim_isPrefix drops text).length_le
    rw [same] at shorter
    have kept := (List.dropWhile_suffix drops).eq_of_length_le shorter
    rw [trim, kept] at same
    exact ⟨kept, same⟩
  · rintro ⟨start, ending⟩
    rw [trim, start, ending]

/-! ## Edges of joined pieces -/

theorem head?_intercalate (separator : α) (first : List α) (others : List (List α)) :
    ([separator].intercalate (first :: others)).head? =
      first.head?.or (if others.isEmpty then none else some separator) := by
  cases others <;> simp [List.intercalate_cons_cons, List.head?_append]

theorem getLast?_intercalate {separator c : α} {last : List α}
    (isLast : last.getLast? = some c) (others : List (List α)) :
    ([separator].intercalate (others ++ [last])).getLast? = some c := by
  induction others with
  | nil => simpa using isLast
  | cons first others induction =>
      rw [List.cons_append, List.intercalate_cons_of_ne_nil (by simp), List.getLast?_append,
        induction, Option.some_or]

end Edges

end Text

namespace OptionList

open Text

def StartsBlank (token : CodeText) : Prop := ∃ c, token.head? = some c ∧ c.isBlank = true

def EndsBlank (token : CodeText) : Prop := ∃ c, token.getLast? = some c ∧ c.isBlank = true

theorem not_startsBlank_iff {token : CodeText} :
    ¬StartsBlank token ↔ ∀ c ∈ token.head?, c.isBlank = false := by
  simp [StartsBlank]

theorem not_endsBlank_iff {token : CodeText} :
    ¬EndsBlank token ↔ ∀ c ∈ token.getLast?, c.isBlank = false := by
  simp [EndsBlank]

theorem strip_eq_self_iff {text : CodeText} :
    CodeText.strip text = text ↔ ¬StartsBlank text ∧ ¬EndsBlank text := by
  rw [not_startsBlank_iff, not_endsBlank_iff]
  exact trim_eq_self_iff

theorem parse_eq (text : CodeText) :
    parse text = dropTrailingEmpty (splitOnChar comma (CodeText.strip text)) := by
  rw [parse]
  split
  · rename_i empty
    rw [List.isEmpty_iff.mp empty]
    rfl
  · rfl

theorem comma_not_mem_of_mem_parse {text token : CodeText} (member : token ∈ parse text) :
    comma ∉ token := by
  rw [parse_eq] at member
  exact not_mem_of_mem_splitOnChar ((List.rdropWhile_prefix _ _).mem member)

theorem ne_nil_of_mem_getLast?_parse {text token : CodeText}
    (isLast : token ∈ (parse text).getLast?) : token ≠ [] := by
  rintro rfl
  rw [parse_eq] at isLast
  exact getLast?_dropTrailingEmpty _ isLast

theorem intercalate_parse (text : CodeText) :
    [comma].intercalate (parse text) = (CodeText.strip text).rdropWhile (· == comma) := by
  rw [parse_eq, intercalate_dropTrailingEmpty]

/-! ## Joined tokens -/

/-- A text that its tokens give back has no blanks around it. -/
theorem strip_of_intercalate_parse {text : CodeText}
    (same : [comma].intercalate (parse text) = text) : CodeText.strip text = text := by
  have kept := intercalate_parse text
  rw [same] at kept
  have longer := (List.rdropWhile_prefix (· == comma) (CodeText.strip text)).length_le
  rw [← kept] at longer
  exact (trim_sublist CodePoint.isBlank text).eq_of_length_le longer

variable {tokens : List CodeText} {first last : CodeText}

theorem strip_intercalate (isFirst : tokens.head? = some first)
    (isLast : tokens.getLast? = some last) (startFilled : ¬StartsBlank first)
    (filled : last ≠ []) (endFilled : ¬EndsBlank last) :
    CodeText.strip ([comma].intercalate tokens) = [comma].intercalate tokens := by
  rw [strip_eq_self_iff, not_startsBlank_iff, not_endsBlank_iff]
  constructor
  · intro c isHead
    rcases List.head?_eq_some_iff.mp isFirst with ⟨others, rfl⟩
    rw [head?_intercalate, Option.mem_def, Option.or_eq_some_iff] at isHead
    rcases isHead with inFirst | ⟨-, isComma⟩
    · exact not_startsBlank_iff.mp startFilled c inFirst
    · split at isComma
      · cases isComma
      · rw [← Option.some.inj isComma]
        decide
  · intro c isEnd
    rcases List.getLast?_eq_some_iff.mp isLast with ⟨others, rfl⟩
    have inLast := List.getLast?_eq_some_getLast filled
    rw [getLast?_intercalate inLast others] at isEnd
    exact not_endsBlank_iff.mp endFilled c (inLast.trans isEnd)

theorem edges_of_parse_intercalate (isFirst : tokens.head? = some first)
    (isLast : tokens.getLast? = some last) (same : parse ([comma].intercalate tokens) = tokens) :
    ¬StartsBlank first ∧ last ≠ [] ∧ ¬EndsBlank last := by
  have stripped := strip_of_intercalate_parse (congrArg [comma].intercalate same)
  rw [strip_eq_self_iff] at stripped
  refine ⟨?_, ?_, ?_⟩
  · rintro ⟨c, isHead, blank⟩
    rcases List.head?_eq_some_iff.mp isFirst with ⟨others, rfl⟩
    exact stripped.1 ⟨c, by rw [head?_intercalate, isHead]; rfl, blank⟩
  · rw [← same] at isLast
    exact ne_nil_of_mem_getLast?_parse isLast
  · rintro ⟨c, isEnd, blank⟩
    rcases List.getLast?_eq_some_iff.mp isLast with ⟨others, rfl⟩
    exact stripped.2 ⟨c, getLast?_intercalate isEnd _, blank⟩

theorem parse_intercalate_of_edges (free : ∀ token ∈ tokens, comma ∉ token)
    (isFirst : tokens.head? = some first) (isLast : tokens.getLast? = some last)
    (startFilled : ¬StartsBlank first) (filled : last ≠ []) (endFilled : ¬EndsBlank last) :
    parse ([comma].intercalate tokens) = tokens := by
  have split : splitOnChar comma ([comma].intercalate tokens) = tokens := by
    rw [splitOnChar_eq_splitOn]
    apply List.splitOn_intercalate _ free
    rintro rfl
    cases isFirst
  rw [parse_eq, strip_intercalate isFirst isLast startFilled filled endFilled, split]
  rcases List.getLast?_eq_some_iff.mp isLast with ⟨others, rfl⟩
  exact dropTrailingEmpty_append_cons filled others []

theorem parse_intercalate_iff (free : ∀ token ∈ tokens, comma ∉ token) :
    parse ([comma].intercalate tokens) = tokens ↔
      tokens = [] ∨ ∃ first last, tokens.head? = some first ∧ tokens.getLast? = some last ∧
        ¬StartsBlank first ∧ last ≠ [] ∧ ¬EndsBlank last := by
  constructor
  · intro same
    by_cases none : tokens = []
    · exact .inl none
    · right
      have isFirst := List.head?_eq_some_head none
      have isLast := List.getLast?_eq_some_getLast none
      exact ⟨_, _, isFirst, isLast, edges_of_parse_intercalate isFirst isLast same⟩
  · rintro (rfl | ⟨first, last, isFirst, isLast, startFilled, filled, endFilled⟩)
    · decide
    · exact parse_intercalate_of_edges free isFirst isLast startFilled filled endFilled

/-- Parsing undoes joining as far as it can. The tokens of a text hold no comma, the last
one is not empty, and joined they are the text without blanks around it and without
commas at its end. Tokens without commas are found again, once joined, if and only if
there are none, or no blank is at either edge and the last one is not empty. -/
theorem parse_undoes_joining :
    (∀ text : CodeText,
        (∀ token ∈ parse text, comma ∉ token) ∧
          (∀ token ∈ (parse text).getLast?, token ≠ []) ∧
          [comma].intercalate (parse text) = (CodeText.strip text).rdropWhile (· == comma)) ∧
      ∀ tokens : List CodeText, (∀ token ∈ tokens, comma ∉ token) →
        (parse ([comma].intercalate tokens) = tokens ↔
          tokens = [] ∨ ∃ first last,
            tokens.head? = some first ∧ tokens.getLast? = some last ∧
            ¬StartsBlank first ∧ last ≠ [] ∧ ¬EndsBlank last) := by
  constructor
  · intro text
    exact ⟨fun token => comma_not_mem_of_mem_parse, fun token => ne_nil_of_mem_getLast?_parse,
      intercalate_parse text⟩
  · intro tokens free
    exact parse_intercalate_iff free

/-- Empty tokens and blanks may stand anywhere but at the edges. -/
theorem parse_undoes_joining_inside :
    let kept : List CodeText := ["", " a ", "\u2003", " b"]
    let lost : List CodeText := ["a", "\u2003"]
    (∀ token ∈ kept, comma ∉ token) ∧ parse ([comma].intercalate kept) = kept ∧
      (∀ token ∈ lost, comma ∉ token) ∧ parse ([comma].intercalate lost) ≠ lost := by
  intro kept lost
  have keptFree : ∀ token ∈ kept, comma ∉ token := by decide
  have lostFree : ∀ token ∈ lost, comma ∉ token := by decide
  refine ⟨keptFree, ?_, lostFree, ?_⟩
  · apply (parse_undoes_joining.2 kept keptFree).mpr
    have startFilled : ¬StartsBlank "" := by
      rw [not_startsBlank_iff]
      decide
    have endFilled : ¬EndsBlank " b" := by
      rw [not_endsBlank_iff]
      decide
    exact .inr ⟨"", " b", rfl, rfl, startFilled, by decide, endFilled⟩
  · intro same
    rcases (parse_undoes_joining.2 lost lostFree).mp same with
      none | ⟨_, last, -, isLast, -, -, endFilled⟩
    · exact List.cons_ne_nil _ _ none
    · have isBlankToken : CodeText.of "\u2003" = last := Option.some.inj isLast
      exact endFilled ⟨.char '\u2003', by rw [← isBlankToken]; rfl, by decide⟩

end OptionList

end TaggedCatalog
