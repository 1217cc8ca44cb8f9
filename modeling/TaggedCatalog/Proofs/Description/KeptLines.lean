import TaggedCatalog.Description
import TaggedCatalog.Proofs.Text.LineEnds

/-! # What a description keeps

A description keeps the lines of a text up to the first tag, less the empty ones at the
end of the text, and every line less one space. So neither the style of the line ends
nor what stands behind a tag makes a difference. -/

namespace TaggedCatalog.Description

open Text
open CodeText (withLineFeeds)

/-! ## Lines of a documentation text -/

theorem docLines_of_hasLines {doc : CodeText} {lines : List CodeText} (filled : doc ≠ [])
    (hasLines : HasLines doc lines) : docLines doc = dropTrailingEmpty lines := by
  rw [docLines, if_neg (by simpa using filled), hasLines.eq_splitOnChar]

theorem docLines_congr {left right : CodeText}
    (same : withLineFeeds left = withLineFeeds right) : docLines left = docLines right := by
  have bothEmpty : left = [] ↔ right = [] := by
    rw [← withLineFeeds_eq_nil_iff, same, withLineFeeds_eq_nil_iff]
  simp only [docLines, same, List.isEmpty_iff, bothEmpty]

theorem isOneLine_of_mem_docLines {doc line : CodeText} (member : line ∈ docLines doc) :
    IsOneLine line := by
  by_cases empty : doc = []
  · rw [empty] at member
    rw [List.mem_singleton.mp member]
    exact ⟨List.not_mem_nil, List.not_mem_nil⟩
  · rcases exists_hasLines doc with ⟨lines, hasLines⟩
    rw [docLines_of_hasLines empty hasLines] at member
    exact hasLines.isOneLine_of_mem ((List.rdropWhile_prefix _ _).mem member)

/-! ## Tags -/

/-- A line with a tag, which may have one space in front. -/
def StartsTag (line : CodeText) : Prop := [.char '@'] <+: line ∨ [.char ' ', .char '@'] <+: line

theorem trimLine_eq (line : CodeText) :
    trimLine line = if line.head? = some (.char ' ') then line.tail else line := by
  cases line with
  | nil => rfl
  | cons c rest =>
      by_cases isSpace : c = .char ' '
      · subst isSpace
        rfl
      · rw [if_neg (by simpa using isSpace), trimLine]
        exact fun _ same => isSpace (List.cons.inj same).1

theorem trimLine_suffix (line : CodeText) : trimLine line <:+ line := by
  rw [trimLine_eq]
  split
  · exact List.tail_suffix line
  · exact List.suffix_rfl

theorem isTag_trimLine_iff (line : CodeText) : isTag (trimLine line) = true ↔ StartsTag line := by
  rw [trimLine_eq, StartsTag, isTag, tagMark, beq_iff_eq]
  match line with
  | [] => simp
  | [c] => by_cases isSpace : c = .char ' ' <;> simp [isSpace, eq_comm]
  | c :: d :: rest => by_cases isSpace : c = .char ' ' <;> simp [isSpace, eq_comm]

/-! ## Lines of a description -/

theorem keptLines_eq_map (doc : CodeText) :
    keptLines doc =
      ((docLines doc).takeWhile fun line => !isTag (trimLine line)).map trimLine := by
  rw [keptLines, List.takeWhile_map]
  rfl

theorem isOneLine_of_mem_keptLines {doc line : CodeText} (member : line ∈ keptLines doc) :
    IsOneLine line := by
  rw [keptLines_eq_map] at member
  rcases List.mem_map.mp member with ⟨written, kept, rfl⟩
  have isLine := isOneLine_of_mem_docLines ((List.takeWhile_sublist _).mem kept)
  have within := (trimLine_suffix written).subset
  exact ⟨fun held => isLine.noReturn (within held), fun held => isLine.noFeed (within held)⟩

theorem isTag_of_mem_keptLines {doc line : CodeText} (member : line ∈ keptLines doc) :
    isTag line = false := by
  simpa using List.mem_takeWhile_imp member

/-- The lines of a description are those that were kept, and every one has its end. -/
theorem splitOnChar_ofText (doc : CodeText) :
    splitOnChar .lineFeed (ofText doc) = keptLines doc ++ [[]] := by
  rw [ofText]
  exact splitOnChar_ended fun line kept => (isOneLine_of_mem_keptLines kept).noFeed

/-! ## The cut at the first tag -/

/-- How the lines of a text are divided: those before the first tag, those from it on, and
the empty ones at the end. -/
structure CutAtTag (text : CodeText) (before fromTag : List CodeText) (emptyCount : Nat) :
    Prop where
  lines : HasLines text (before ++ fromTag ++ List.replicate emptyCount [])
  lastFilled : (before ++ fromTag).getLast? ≠ some []
  untagged : ∀ line ∈ before, ¬StartsTag line
  tagged : ∀ line ∈ fromTag.head?, StartsTag line

theorem exists_cutAtTag {doc : CodeText} (filled : doc ≠ []) :
    ∃ before fromTag emptyCount, CutAtTag doc before fromTag emptyCount ∧
      keptLines doc = before.map trimLine := by
  rcases exists_hasLines doc with ⟨lines, hasLines⟩
  rcases exists_dropTrailingEmpty_append lines with ⟨emptyCount, whole⟩
  have isDoc := docLines_of_hasLines filled hasLines
  let isKept := fun line => !isTag (trimLine line)
  refine ⟨(docLines doc).takeWhile isKept, (docLines doc).dropWhile isKept, emptyCount,
    ?_, keptLines_eq_map doc⟩
  constructor
  · rwa [List.takeWhile_append_dropWhile, isDoc, whole]
  · rw [List.takeWhile_append_dropWhile, isDoc]
    exact getLast?_dropTrailingEmpty lines
  · intro line member
    rw [← isTag_trimLine_iff]
    simpa [isKept] using List.mem_takeWhile_imp member
  · intro line first
    have dropped := List.head?_dropWhile_not isKept (docLines doc)
    rw [Option.mem_def.mp first] at dropped
    rw [← isTag_trimLine_iff]
    simpa [isKept] using dropped

theorem return_not_mem_ofText (doc : CodeText) : .carriageReturn ∉ ofText doc := by
  rw [ofText]
  intro held
  rcases List.mem_flatMap.mp held with ⟨line, kept, inLine⟩
  rcases List.mem_append.mp inLine with inKept | isFeed
  · exact (isOneLine_of_mem_keptLines kept).noReturn inKept
  · exact absurd (List.mem_singleton.mp isFeed) (by decide)

theorem eq_empty_or_getLast?_ofText (doc : CodeText) :
    ofText doc = [] ∨ (ofText doc).getLast? = some .lineFeed := by
  rcases List.eq_nil_or_concat (keptLines doc) with empty | ⟨others, last, isLast⟩
  · left
    rw [ofText, empty]
    rfl
  · right
    rw [ofText, isLast]
    simp [endLine]

theorem head?_ne_of_mem_lines_ofText {doc : CodeText} {line : CodeText}
    (member : line ∈ splitOnChar .lineFeed (ofText doc)) : line.head? ≠ some (.char '@') := by
  rw [splitOnChar_ofText] at member
  rcases List.mem_append.mp member with kept | isEnd
  · have untagged := isTag_of_mem_keptLines kept
    simpa [isTag, tagMark] using untagged
  · rw [List.mem_singleton.mp isEnd]
    simp

/-- A description is made of the lines before the first tag, each less one space and with
its end; so it is whole lines without carriage returns and tags. An empty text is one
empty line. -/
theorem ofText_cut_at_tag (doc : CodeText) :
    (doc ≠ [] → ∃ before fromTag emptyCount,
        CutAtTag doc before fromTag emptyCount ∧
          ofText doc = before.flatMap fun line =>
            (if line.head? = some (.char ' ') then line.tail else line) ++ [.lineFeed]) ∧
      (ofText doc = [] ∨ (ofText doc).getLast? = some .lineFeed) ∧
      .carriageReturn ∉ ofText doc ∧
      (∀ line ∈ splitOnChar .lineFeed (ofText doc), line.head? ≠ some (.char '@')) ∧
      ofText [] = "\n" := by
  refine ⟨?_, eq_empty_or_getLast?_ofText doc, return_not_mem_ofText doc,
    fun line => head?_ne_of_mem_lines_ofText, by decide⟩
  intro filled
  rcases exists_cutAtTag filled with ⟨before, fromTag, emptyCount, isCut, kept⟩
  refine ⟨before, fromTag, emptyCount, isCut, ?_⟩
  rw [ofText, kept, List.flatMap_map]
  simp only [endLine, trimLine_eq]

/-- Empty lines before a tag stay, a tag behind two spaces is none, and what follows a tag
does not count. -/
theorem ofText_cut_at_late_tag :
    let doc : CodeText := " a\r\n\r  @b\n \n\n @since\r c\n\n"
    doc ≠ [] ∧ (∃ before fromTag emptyCount, CutAtTag doc before fromTag emptyCount ∧
      ofText doc = before.flatMap fun line =>
        (if line.head? = some (.char ' ') then line.tail else line) ++ [.lineFeed]) ∧
      ofText doc = "a\n\n @b\n\n\n" := by
  intro doc
  have filled : doc ≠ [] := by decide
  exact ⟨filled, (ofText_cut_at_tag doc).1 filled, by decide +kernel⟩

/-! ## What makes no difference -/

theorem ofText_restyle {style : Nat → LineEnd} {doc : CodeText}
    (noReturn : .carriageReturn ∉ doc) (apart : StaysApart style doc) :
    ofText (restyle style doc) = ofText doc := by
  have same : withLineFeeds (restyle style doc) = withLineFeeds doc := by
    rw [withLineFeeds_restyle noReturn apart, withLineFeeds_of_noReturn noReturn]
  rw [ofText, ofText, keptLines, keptLines, docLines_congr same]

/-- What is kept of a text with a tag behind some other text depends on that text only. -/
theorem exists_keptLines_append_tag (before : CodeText) :
    ∃ kept, ∀ behind, keptLines (before ++ .lineFeed :: .char '@' :: behind) = kept := by
  rcases exists_hasLines_append_feed before with ⟨lines, append⟩
  refine ⟨(lines.map trimLine).takeWhile fun line => !isTag line, ?_⟩
  intro behind
  rcases exists_hasLines behind with ⟨_, behindLines⟩
  have tagLine := behindLines.cons_other (c := .char '@') (by decide) (by decide)
  rcases tagLine with ⟨first, others, tagLines⟩
  have whole := append _ _ tagLines
  rw [keptLines, docLines_of_hasLines (by simp) whole,
    dropTrailingEmpty_append_cons (List.cons_ne_nil _ _), List.map_append, List.map_cons,
    List.takeWhile_append]
  split
  · rename_i allKept
    rw [(List.takeWhile_prefix _).eq_of_length allKept]
    exact List.append_nil _
  · rfl

theorem ofText_append_tag (before behind other : CodeText) :
    ofText (before ++ "\n@" ++ behind) = ofText (before ++ "\n@" ++ other) := by
  rcases exists_keptLines_append_tag before with ⟨kept, isKept⟩
  have same (tail : CodeText) : ofText (before ++ "\n@" ++ tail) = kept.flatMap endLine := by
    rw [ofText, ← isKept tail, List.append_assoc]
    rfl
  rw [same, same]

/-- A description depends neither on the style of the line ends, which may change from
line to line, nor on what stands behind the first tag. -/
theorem ofText_sees_no_style_and_no_tail :
    (∀ (doc : CodeText) (style : Nat → LineEnd),
        .carriageReturn ∉ doc → StaysApart style doc →
        ofText (restyle style doc) = ofText doc) ∧
      ∀ before behind other : CodeText,
        ofText (before ++ "\n@" ++ behind) = ofText (before ++ "\n@" ++ other) := by
  constructor
  · intro doc style noReturn apart
    exact ofText_restyle noReturn apart
  · intro before behind other
    exact ofText_append_tag before behind other

/-- A carriage return may stand right before another line end, as long as that is not a
line feed alone. -/
theorem ofText_sees_no_mixed_style :
    let doc : CodeText := "a\n\n\n b\n@since"
    let style : Nat → LineEnd := fun place =>
      if place = 2 then .both else if place = 3 then .lineFeed else .carriageReturn
    .carriageReturn ∉ doc ∧ StaysApart style doc ∧
      restyle style doc = "a\r\r\n\n b\r@since" ∧
      ofText (restyle style doc) = ofText doc ∧
      ofText doc = "a\n\n\nb\n" := by
  intro doc style
  have noReturn : .carriageReturn ∉ doc := by decide
  have apart : StaysApart style doc := by decide
  refine ⟨noReturn, apart, by decide, ?_, by decide +kernel⟩
  exact ofText_sees_no_style_and_no_tail.1 doc style noReturn apart

end TaggedCatalog.Description
