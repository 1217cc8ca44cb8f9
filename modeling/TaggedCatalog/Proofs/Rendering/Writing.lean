import TaggedCatalog.Rendering.Transcript

/-! # How far writing gets

Steps whose text is made of characters are all taken. Any others get as far as the first
bit that holds something else: what stands before it is written, and nothing from it on. -/

namespace TaggedCatalog

namespace CodeText

/-- A text of characters is made of texts of characters. -/
theorem append_eq_of_iff {first second : CodeText} {text : String} :
    first ++ second = of text ↔
      ∃ front back, of front = first ∧ of back = second ∧ front ++ back = text := by
  constructor
  · intro whole
    obtain ⟨front, back, isWhole, isFirst, isSecond⟩ := List.map_eq_append_iff.mp whole.symm
    refine ⟨String.ofList front, String.ofList back, ?_, ?_, ?_⟩
    · rw [of, String.toList_ofList, isFirst]
    · rw [of, String.toList_ofList, isSecond]
    · rw [← String.ofList_append, ← isWhole, String.ofList_toList]
  · rintro ⟨front, back, rfl, rfl, rfl⟩
    exact (of_append front back).symm

end CodeText

namespace RenderStep

/-- The steps write a text of characters, and then a bit that is none. -/
structure BreaksOff (steps : List RenderStep) (written : String) (bit : CodeText) : Prop where
  split : ∃ front back, steps = front ++ .write bit :: back ∧
    front.flatMap RenderStep.text = CodeText.of written
  unwritable : bit.text? = none

/-- All that steps write is a text of characters, or they break off. -/
theorem whole_or_breaksOff (steps : List RenderStep) :
    (∃ text, steps.flatMap RenderStep.text = CodeText.of text) ∨
      ∃ written bit, BreaksOff steps written bit := by
  induction steps with
  | nil => exact .inl ⟨"", rfl⟩
  | cons step rest induction =>
      cases isText : step.text.text? with
      | none =>
          cases step with
          | log record => cases isText
          | write bit => exact .inr ⟨"", bit, ⟨[], rest, rfl, rfl⟩, isText⟩
      | some first =>
          have isFirst := CodeText.text?_eq_some_iff.mp isText
          rcases induction with ⟨text, whole⟩ |
            ⟨written, bit, ⟨front, back, rfl, before⟩, unwritable⟩
          · refine .inl ⟨first ++ text, ?_⟩
            rw [List.flatMap_cons, whole, ← isFirst, CodeText.of_append]
          · refine .inr ⟨first ++ written, bit, ⟨step :: front, back, rfl, ?_⟩, unwritable⟩
            rw [List.flatMap_cons, before, ← isFirst, CodeText.of_append]

end RenderStep

namespace Transcript

open RenderStep

theorem ofSteps_log (record : Record) (rest : List RenderStep) :
    ofSteps (.log record :: rest) =
      { ofSteps rest with records := record :: (ofSteps rest).records } := rfl

theorem ofSteps_write {bit : CodeText} {text : String} (isBit : CodeText.of text = bit)
    (rest : List RenderStep) :
    ofSteps (.write bit :: rest) = { ofSteps rest with text := text ++ (ofSteps rest).text } := by
  rw [ofSteps, CodeText.text?_eq_some_iff.mpr isBit]

theorem ofSteps_unwritable {bit : CodeText} (unwritable : bit.text? = none)
    (rest : List RenderStep) : ofSteps (.write bit :: rest) = { refused := some bit } := by
  rw [ofSteps, unwritable]

/-- Steps that write a text of characters are all taken before those behind them. -/
theorem ofSteps_append {front : List RenderStep} {text : String}
    (isText : front.flatMap RenderStep.text = CodeText.of text) (back : List RenderStep) :
    ofSteps (front ++ back) =
      { text := text ++ (ofSteps back).text
        records := front.filterMap RenderStep.record? ++ (ofSteps back).records
        refused := (ofSteps back).refused } := by
  induction front generalizing text with
  | nil =>
      cases CodeText.of_eq_nil_iff.mp isText.symm
      simp
  | cons step front induction =>
      rw [List.flatMap_cons] at isText
      obtain ⟨first, others, isFirst, isOthers, rfl⟩ := CodeText.append_eq_of_iff.mp isText
      have later := induction isOthers.symm
      cases step with
      | log record =>
          cases CodeText.of_eq_nil_iff.mp isFirst
          rw [List.cons_append, ofSteps_log, later, String.empty_append]
          rfl
      | write bit =>
          rw [text_write] at isFirst
          rw [List.cons_append, ofSteps_write isFirst, later, String.append_assoc]
          rfl

/-- A text of characters is written, and all that is logged on the way is logged. -/
theorem ofSteps_whole {steps : List RenderStep} {text : String}
    (whole : steps.flatMap RenderStep.text = CodeText.of text) :
    ofSteps steps = { text, records := steps.filterMap RenderStep.record? } := by
  have taken := ofSteps_append whole []
  rwa [List.append_nil, ofSteps, String.append_empty, List.append_nil] at taken

/-- Where steps break off, nothing that stands before is missing, and nothing else is there. -/
theorem ofSteps_breaksOff {steps : List RenderStep} {written : String} {bit : CodeText}
    (broken : BreaksOff steps written bit) :
    (ofSteps steps).text = written ∧ (ofSteps steps).refused = some bit := by
  obtain ⟨⟨front, back, rfl, before⟩, unwritable⟩ := broken
  rw [ofSteps_append before, ofSteps_unwritable unwritable]
  exact ⟨String.append_empty, rfl⟩

theorem wholly_written_iff {steps : List RenderStep} {text : String} :
    (ofSteps steps).text = text ∧ (ofSteps steps).refused = none ↔
      steps.flatMap RenderStep.text = CodeText.of text := by
  constructor
  · rintro ⟨rfl, finished⟩
    rcases whole_or_breaksOff steps with ⟨text, whole⟩ | ⟨written, bit, broken⟩
    · rw [ofSteps_whole whole, whole]
    · rw [(ofSteps_breaksOff broken).2] at finished
      cases finished
  · intro whole
    rw [ofSteps_whole whole]
    exact ⟨rfl, rfl⟩

theorem breaksOff_iff {steps : List RenderStep} {written : String} {bit : CodeText} :
    (ofSteps steps).text = written ∧ (ofSteps steps).refused = some bit ↔
      BreaksOff steps written bit := by
  refine ⟨?_, ofSteps_breaksOff⟩
  rintro ⟨rfl, refused⟩
  rcases whole_or_breaksOff steps with ⟨text, whole⟩ | ⟨written, other, broken⟩
  · rw [ofSteps_whole whole] at refused
    cases refused
  · obtain ⟨isWritten, isOther⟩ := ofSteps_breaksOff broken
    rw [refused] at isOther
    cases isOther
    exact isWritten ▸ broken

end Transcript

end TaggedCatalog
