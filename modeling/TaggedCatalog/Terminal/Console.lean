import TaggedCatalog.Terminal.Style

/-! # The console

Results go to standard output, messages to standard error. Without colour no
control sequence is written, wherever it comes from. -/

namespace TaggedCatalog

/-- What has been written. -/
structure Written where
  out : String := ""
  err : String := ""
deriving DecidableEq, Repr

namespace Written

def append (first second : Written) : Written :=
  { out := first.out ++ second.out, err := first.err ++ second.err }

instance : Append Written := ⟨append⟩

end Written

structure Console where
  color : Bool
deriving DecidableEq, Repr

namespace Console

def warningStyle : Style := { foreground := some .yellow }

def errorStyle : Style := { foreground := some .brightRed }

/-- A text as it is written. -/
def shown (console : Console) (text : String) (newline : Bool) : String :=
  (if console.color then text else Style.strip text) ++ if newline then "\n" else ""

def print (console : Console) (text : String) (newline : Bool := true) : Written :=
  { out := console.shown text newline }

def note (console : Console) (text : String) (newline : Bool := true) : Written :=
  { err := console.shown text newline }

def warn (console : Console) (text : String) (newline : Bool := true) : Written :=
  console.note (warningStyle.apply text) newline

def error (console : Console) (text : String) (newline : Bool := true) : Written :=
  console.note (errorStyle.apply text) newline

/-- A text in a style, if the console has colour. -/
def styled (console : Console) (style : Style) (text : String) : String :=
  if console.color then style.apply text else text

/-- A text in a style with colours given by name. Without colour the names do not
matter; the name of no colour is an error. -/
def styledByName (console : Console) (foreground background : Option String) (style : Style)
    (text : String) : Except String String :=
  let look (name : Option String) : Except String (Option Color) :=
    match name with
    | none => .ok none
    | some "" => .ok none
    | some name =>
        match Color.ofName? name with
        | some color => .ok (some color)
        | none => .error ("Unknown color " ++ Text.quoted name)
  if console.color then do
    let foreground ← look foreground
    let background ← look background
    return { style with foreground, background }.apply text
  else .ok text

end Console

end TaggedCatalog
