import TaggedCatalog.Text.Quoted

/-! # Styled text

A style is written as control sequences around a text, and can be taken out
again. -/

namespace TaggedCatalog

inductive Color where
  | black | red | green | yellow | blue | magenta | cyan | white | reset
  | brightBlack | brightRed | brightGreen | brightYellow | brightBlue | brightMagenta
  | brightCyan | brightWhite
deriving DecidableEq, Repr

namespace Color

/-- All colours with their names and codes. -/
def all : List (String × Color × Nat) :=
  [("black", black, 30), ("red", red, 31), ("green", green, 32), ("yellow", yellow, 33),
   ("blue", blue, 34), ("magenta", magenta, 35), ("cyan", cyan, 36), ("white", white, 37),
   ("reset", reset, 39), ("bright_black", brightBlack, 90), ("bright_red", brightRed, 91),
   ("bright_green", brightGreen, 92), ("bright_yellow", brightYellow, 93),
   ("bright_blue", brightBlue, 94), ("bright_magenta", brightMagenta, 95),
   ("bright_cyan", brightCyan, 96), ("bright_white", brightWhite, 97)]

def ofName? (name : String) : Option Color :=
  (all.find? fun entry => entry.1 == name).map (·.2.1)

def code (color : Color) : Nat :=
  ((all.find? fun entry => entry.2.1 == color).map (·.2.2)).getD 39

example : brightRed.code = 91 := by decide

end Color

structure Style where
  foreground : Option Color := none
  background : Option Color := none
  bold : Option Bool := none
  dim : Option Bool := none
  underline : Option Bool := none
  overline : Option Bool := none
  italic : Option Bool := none
  blink : Option Bool := none
  reverse : Option Bool := none
  strikethrough : Option Bool := none
  /-- Whether the style ends with the text. -/
  reset : Bool := true
deriving DecidableEq, Repr

namespace Style

def sequence (code : Nat) : String := "\x1b[" ++ toString code ++ "m"

/-- The codes that start a style. -/
def codes (style : Style) : List Nat :=
  let flag (value : Option Bool) (on off : Nat) : List Nat :=
    (value.map fun isOn => if isOn then on else off).toList
  (style.foreground.map Color.code).toList ++
    (style.background.map fun color => color.code + 10).toList ++
    flag style.bold 1 22 ++ flag style.dim 2 22 ++ flag style.underline 4 24 ++
    flag style.overline 53 55 ++ flag style.italic 3 23 ++ flag style.blink 5 25 ++
    flag style.reverse 7 27 ++ flag style.strikethrough 9 29

def apply (style : Style) (text : String) : String :=
  style.codes.foldr (fun code rest => sequence code ++ rest)
    (text ++ if style.reset then sequence 0 else "")

def isParameter (c : Char) : Bool := '0' ≤ c && c ≤ '?'

def isIntermediate (c : Char) : Bool := ' ' ≤ c && c ≤ '/'

def isFinal (c : Char) : Bool := '@' ≤ c && c ≤ '~'

/-- What follows a control sequence at the start of a text. -/
def afterSequence? (text : List Char) : Option (List Char) :=
  match text with
  | '\x1b' :: '[' :: rest =>
      match (rest.dropWhile isParameter).dropWhile isIntermediate with
      | c :: behind => if isFinal c then some behind else none
      | [] => none
  | _ => none

def stripWithin : Nat → List Char → List Char
  | 0, text => text
  | _ + 1, [] => []
  | fuel + 1, c :: rest =>
      match afterSequence? (c :: rest) with
      | some behind => stripWithin fuel behind
      | none => c :: stripWithin fuel rest

/-- The text without control sequences. -/
def strip (text : String) : String :=
  String.ofList (stripWithin (text.length + 1) text.toList)

example : ({ foreground := some .yellow, bold := some true } : Style).apply "x" =
    "\x1b[33m\x1b[1mx\x1b[0m" := by decide +kernel
example : strip "\x1b[1;4mx\x1b[0m" = "x" := by decide +kernel

end Style

end TaggedCatalog
