import TaggedCatalog.Rendering.Html
import TaggedCatalog.Rendering.PlainText

/-! # Catalog formats

Choosing a format never fails: `html` is HTML and anything else, nothing
included, is plain text. -/

namespace TaggedCatalog

inductive Format where
  | text
  | html
deriving DecidableEq, Repr

namespace Format

def name : Format → String
  | text => "text"
  | html => "html"

/-- The format that a name selects. -/
def select : Option String → Format
  | some "html" => html
  | _ => text

/-- The format of exactly that name. -/
def ofName? : String → Option Format
  | "html" => some html
  | "text" => some text
  | _ => none

def printer : Format → Printer
  | text => PlainText.printer
  | html => Html.printer

example (format : Format) : select (some format.name) = format := by cases format <;> rfl

end Format

end TaggedCatalog
