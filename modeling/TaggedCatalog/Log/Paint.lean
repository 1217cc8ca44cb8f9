import TaggedCatalog.Log.Level

/-! # Painting log lines

A line is painted by its level with control sequences that open and close a
colour. What would end the colour inside the line opens it again behind itself. -/

namespace TaggedCatalog.LogPaint

/-- The control sequence of a code. -/
def sequence (code : Nat) : List Char := '\x1b' :: '[' :: (Nat.toDigits 10 code ++ ['m'])

/-- A code that opens a colour and the code that closes it. -/
structure Pen where
  opens : Nat
  closes : Nat
deriving DecidableEq, Repr

/-- The pens of a level. -/
def pens (level : Int) : List Pen :=
  if level ≥ LogLevel.critical then [⟨91, 39⟩]
  else if level ≥ LogLevel.error then [⟨31, 39⟩]
  else if level ≥ LogLevel.warning then [⟨33, 39⟩]
  else if level ≥ LogLevel.info then [⟨32, 39⟩]
  else if level ≥ LogLevel.debug then [⟨90, 39⟩]
  else if level ≥ LogLevel.trace then [⟨34, 39⟩]
  else [⟨2, 22⟩, ⟨31, 39⟩]

def opening (pens : List Pen) : List Char := pens.flatMap fun pen => sequence pen.opens

def closing (pens : List Pen) : List Char := pens.flatMap fun pen => sequence pen.closes

/-- Puts characters behind every occurrence of others. -/
def followWithin (found addition : List Char) : Nat → List Char → List Char
  | 0, text => text
  | _ + 1, [] => []
  | fuel + 1, c :: rest =>
      if found.isPrefixOf (c :: rest) then
        found ++ addition ++ followWithin found addition fuel ((c :: rest).drop found.length)
      else c :: followWithin found addition fuel rest

def follow (found addition text : List Char) : List Char :=
  followWithin found addition (text.length + 1) text

/-- Opens every pen again behind what closes it. -/
def reopen (pens : List Pen) (text : List Char) : List Char :=
  pens.foldl (fun text pen => follow (sequence pen.closes) (sequence pen.opens) text) text

def reset : List Char := sequence 0

/-- What comes before the next occurrence on the same line, and what comes behind it. -/
def cutAt (found : List Char) : List Char → Option (List Char × List Char)
  | [] => if found.isEmpty then some ([], []) else none
  | c :: rest =>
      if found.isPrefixOf (c :: rest) then some ([], (c :: rest).drop found.length)
      else if c = '\n' then none
      else (cutAt found rest).map fun cut => (c :: cut.1, cut.2)

/-- Leaves the pens for every stretch between two resets on a line. -/
def leaveResetsWithin (pens : List Pen) : Nat → List Char → List Char
  | 0, text => text
  | _ + 1, [] => []
  | fuel + 1, c :: rest =>
      if reset.isPrefixOf (c :: rest) then
        match cutAt reset ((c :: rest).drop reset.length) with
        | some (inside, behind) =>
            closing pens ++ reset ++ inside ++ reset ++ opening pens ++
              leaveResetsWithin pens fuel behind
        | none => c :: leaveResetsWithin pens fuel rest
      else c :: leaveResetsWithin pens fuel rest

def leaveResets (pens : List Pen) (text : List Char) : List Char :=
  leaveResetsWithin pens (text.length + 1) text

/-- Leaves the pens at every line end. -/
def leaveLineEnds (pens : List Pen) : List Char → List Char
  | [] => []
  | '\r' :: '\n' :: rest =>
      closing pens ++ ['\r', '\n'] ++ opening pens ++ leaveLineEnds pens rest
  | '\n' :: rest => closing pens ++ ['\n'] ++ opening pens ++ leaveLineEnds pens rest
  | c :: rest => c :: leaveLineEnds pens rest

def paint (pens : List Pen) (text : List Char) : List Char :=
  opening pens ++ leaveLineEnds pens (leaveResets pens (reopen pens text)) ++ closing pens

/-- A line of the log without paint. -/
def plainLine (level : Int) (message : String) : String :=
  "[" ++ LogLevel.name level ++ "] " ++ message

def line (color : Bool) (level : Int) (message : String) : String :=
  let text := plainLine level message
  if color then String.ofList (paint (pens level) text.toList) else text

end TaggedCatalog.LogPaint
