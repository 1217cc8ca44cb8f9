import TaggedCatalog.Log.Record
import TaggedCatalog.Text.CodePoint

/-! # Writing a text

A text is written bit by bit, and some records are logged on the way. Only characters
can be written. A bit that holds anything else is not written at all and ends the
writing, but what has been written by then stands. -/

namespace TaggedCatalog

/-- What rendering does, one thing after the other. -/
inductive RenderStep where
  | log (record : Record)
  | write (bit : CodeText)
deriving DecidableEq, Repr

namespace RenderStep

def text : RenderStep → CodeText
  | log _ => []
  | write bit => bit

def record? : RenderStep → Option Record
  | log record => some record
  | write _ => none

@[simp] theorem text_log (record : Record) : (log record).text = [] := rfl

@[simp] theorem text_write (bit : CodeText) : (write bit).text = bit := rfl

end RenderStep

/-- How far some steps get. -/
structure Transcript where
  /-- What has been written. -/
  text : String := ""
  records : List Record := []
  /-- The bit that could not be written, if there is one. -/
  refused : Option CodeText := none
deriving DecidableEq, Repr

namespace Transcript

def ofSteps : List RenderStep → Transcript
  | [] => {}
  | .log record :: rest =>
      let later := ofSteps rest
      { later with records := record :: later.records }
  | .write bit :: rest =>
      match CodeText.text? bit with
      | none => { refused := some bit }
      | some text =>
          let later := ofSteps rest
          { later with text := text ++ later.text }

end Transcript

end TaggedCatalog
