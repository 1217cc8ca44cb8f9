import TaggedCatalog.Discovery.PatternCompiler
import TaggedCatalog.Text.Blank
import TaggedCatalog.Text.Lines

/-! # Exclusion patterns

Files are left out by patterns like those of an ignore file. A pattern is split
at its slashes. A segment of two stars stands for any number of directories; in
every other segment a star stands for any characters but a slash, a question mark
for one of them, and brackets for one of a set. A pattern with an exclamation
mark in front takes files back in; the last pattern that matches decides. -/

namespace TaggedCatalog

/-- A part of a path pattern. -/
inductive GlobPiece where
  | char (c : Char)
  /-- One character but a slash. -/
  | anyChar
  /-- Any number of characters but slashes. -/
  | anyChars
  /-- A whole name, one character at least. -/
  | anyName
  /-- One character of a set of ranges, or one outside of it. -/
  | oneOf (isNegated : Bool) (ranges : List (Char × Char))
  /-- Any directories at the start of a path, or none. -/
  | leadingDirectories
  /-- Any names behind a slash, or nothing. -/
  | innerDirectories
  /-- A slash, or the end of the path. -/
  | nameEnd
deriving DecidableEq, Repr

namespace GlobPiece

/-- All that may be left of a text once its start has matched so many characters
of a class. -/
def restsOfClass (isMember : Char → Bool) : List Char → List (List Char)
  | [] => [[]]
  | c :: rest => (c :: rest) :: (if isMember c then restsOfClass isMember rest else [])

def isNameChar (c : Char) : Bool := c != '/'

def isLineChar (c : Char) : Bool := c != '\n'

def afterSlash : List Char → Option (List Char)
  | '/' :: rest => some rest
  | _ => none

/-- All that may be left of a text once its start has matched a piece. -/
def rests (piece : GlobPiece) (text : List Char) : List (List Char) :=
  match piece with
  | char expected =>
      match text with
      | c :: rest => if c = expected then [rest] else []
      | [] => []
  | anyChar =>
      match text with
      | c :: rest => if isNameChar c then [rest] else []
      | [] => []
  | anyChars => restsOfClass isNameChar text
  | anyName =>
      match text with
      | c :: rest => if isNameChar c then restsOfClass isNameChar rest else []
      | [] => []
  | oneOf isNegated ranges =>
      match text with
      | c :: rest =>
          let isMember := ranges.any fun range => range.1 ≤ c && c ≤ range.2
          if isMember != isNegated then [rest] else []
      | [] => []
  | leadingDirectories =>
      match text with
      | c :: rest =>
          text :: (if isLineChar c then (restsOfClass isLineChar rest).filterMap afterSlash else [])
      | [] => [text]
  | innerDirectories =>
      match text with
      | '/' :: c :: rest => text :: (if isLineChar c then restsOfClass isLineChar rest else [])
      | _ => [text]
  | nameEnd =>
      match text with
      | '/' :: rest => [rest]
      | ['\n'] => [text]
      | [] => [text]
      | _ => []

/-- Whether a text starts with what the pieces stand for, one after the other. -/
def matchStart (pieces : List GlobPiece) (text : List Char) : Bool :=
  !(pieces.foldl (fun texts piece => (texts.flatMap piece.rests).eraseDups) [text]).isEmpty

end GlobPiece

/-- What a pattern matches. -/
inductive PathMatcher where
  | everything
  /-- All that lies below some directory. -/
  | anyBelow
  | pieces (list : List GlobPiece)
deriving DecidableEq, Repr

namespace PathMatcher

def run (matcher : PathMatcher) (path : List Char) : Bool :=
  match matcher with
  | everything => !path.isEmpty
  | anyBelow => path.contains '/'
  | pieces list => GlobPiece.matchStart list path

end PathMatcher

namespace Glob

/-! ## Segments -/

/-- A set of characters, as it stands between brackets. The first problem found
in it is given with its distance from the opening bracket. -/
def classRanges : Nat → Nat → List Char → Except (Char × Char × Nat) (List (Char × Char))
  | 0, _, _ => .ok []
  | _ + 1, _, [] => .ok []
  | fuel + 1, offset, c :: rest =>
      let width (d : Char) : Nat := if d = '\\' then 2 else 1
      match rest with
      | '-' :: d :: after =>
          if d < c then .error (c, d, offset)
          else
            (classRanges fuel (offset + width c + 1 + width d) after).map ((c, d) :: ·)
      | _ => (classRanges fuel (offset + width c) rest).map ((c, c) :: ·)

/-- The set at the start of a text behind an opening bracket: whether it is
negated, its characters, and the rest behind the closing bracket. A closing
bracket that comes first belongs to the set. -/
def splitClass (text : List Char) : Option (Bool × List Char × List Char) :=
  let (isNegated, body) :=
    match text with
    | '!' :: rest => (true, rest)
    | '^' :: rest => (true, rest)
    | _ => (false, text)
  let (first, others) :=
    match body with
    | ']' :: rest => ([']'], rest)
    | _ => ([], body)
  match others.dropWhile (· != ']') with
  | _ :: rest => some (isNegated, first ++ others.takeWhile (· != ']'), rest)
  | [] => none

/-- Why a segment has no pieces. -/
inductive SegmentProblem where
  | unclosedClass
  | strayEscape
  | reversedRange (first last : Char) (offset : Nat)
deriving DecidableEq, Repr

/-- The characters that stand for themselves in an expression are those that are
not written behind a backslash. -/
def isPlain (c : Char) : Bool :=
  !("()[]\x7b\x7d?*+-|^$\\.&~# \t\n\r\x0b\x0c".toList.contains c)

def writtenWidth (c : Char) : Nat := if isPlain c then 1 else 2

/-- The pieces of a segment. The width is that of the expression so far. Ranges are
looked at only if they are to be checked. -/
def segmentWithin (checked : Bool) :
    Nat → Nat → List Char → Except SegmentProblem (List GlobPiece × Nat)
  | 0, width, _ => .ok ([], width)
  | _ + 1, width, [] => .ok ([], width)
  | fuel + 1, width, c :: rest =>
      let add (piece : GlobPiece) (taken : Nat) (after : List Char) :=
        (segmentWithin checked fuel (width + taken) after).map fun found => (piece :: found.1, found.2)
      if c = '\\' then
        match rest with
        | d :: after => add (.char d) (writtenWidth d) after
        | [] => .error .strayEscape
      else if c = '*' then add .anyChars 5 rest
      else if c = '?' then add .anyChar 4 rest
      else if c = '[' then
        match splitClass rest with
        | none => .error .unclosedClass
        | some (isNegated, body, after) =>
            let start := width + (if isNegated then 2 else 1)
            let taken := (if isNegated then 3 else 2) + body.length + body.count '\\'
            match classRanges body.length start body with
            | .ok ranges => add (.oneOf isNegated ranges) taken after
            | .error (first, last, offset) =>
                if checked then .error (.reversedRange first last offset)
                else add (.oneOf isNegated []) taken after
      else add (.char c) (writtenWidth c) rest

def segment (checked : Bool) (width : Nat) (text : List Char) :
    Except SegmentProblem (List GlobPiece × Nat) :=
  if text = ['*'] then .ok ([.anyName], width + 5)
  else segmentWithin checked text.length width text

/-! ## Paths of segments -/

def anyDirectories : List Char := ['*', '*']

/-- The pieces of the segments behind the first one. -/
def laterSegments (checked : Bool) :
    Nat → List (List Char) → Except SegmentProblem (List GlobPiece)
  | _, [] => .ok []
  | width, text :: rest =>
      if text = anyDirectories then
        if rest.isEmpty then .ok [.char '/']
        else (laterSegments checked (width + 8) rest).map (.innerDirectories :: ·)
      else
        match segment checked (width + 1) text with
        | .error problem => .error problem
        | .ok (pieces, next) =>
            if rest.isEmpty then .ok (.char '/' :: pieces ++ [.nameEnd])
            else (laterSegments checked next rest).map (.char '/' :: pieces ++ ·)

/-- The pieces of a segment that no slash precedes, and of those behind it. -/
def unslashedSegments (checked : Bool) (width : Nat) :
    List (List Char) → Except SegmentProblem (List GlobPiece)
  | [] => .ok []
  | text :: rest =>
      match segment checked width text with
      | .error problem => .error problem
      | .ok (pieces, next) =>
          if rest.isEmpty then .ok (pieces ++ [.nameEnd])
          else (laterSegments checked next rest).map (pieces ++ ·)

def allSegments (checked : Bool) : List (List Char) → Except SegmentProblem (List GlobPiece)
  | text :: rest =>
      if text = anyDirectories then
        (unslashedSegments checked 9 rest).map (.leadingDirectories :: ·)
      else unslashedSegments checked 1 (text :: rest)
  | [] => .ok []

/-- One of several double stars that follow each other is enough. -/
def collapse : List (List Char) → List (List Char)
  | first :: second :: rest =>
      if first = anyDirectories ∧ second = anyDirectories then collapse (second :: rest)
      else first :: collapse (second :: rest)
  | segments => segments

/-- Segments that match anywhere unless the pattern says where it starts. -/
def anchor : List (List Char) → List (List Char)
  | [] :: rest => rest
  | [only] => if only = anyDirectories then [only] else [anyDirectories, only]
  | [only, []] => if only = anyDirectories then [only, []] else [anyDirectories, only, []]
  | segments => segments

/-- An empty segment at the end stands for all that lies below. -/
def openEnd (segments : List (List Char)) : List (List Char) :=
  if segments.getLast? = some [] then segments.dropLast ++ [anyDirectories] else segments

/-- The pieces of all segments. Ranges are checked last. -/
def checkedSegments (segments : List (List Char)) : Except SegmentProblem (List GlobPiece) :=
  match allSegments false segments with
  | .error problem => .error problem
  | .ok _ => allSegments true segments

/-- The matcher of a pattern without its mark; nothing for one that matches
nothing. -/
def matcher (pattern : String) (text : List Char) : Except ExclusionProblem (Option PathMatcher) :=
  let written := Text.splitOnChar '/' text
  let isDirectory := written.getLast? = some []
  let anchored := anchor written
  if anchored.isEmpty then .error (.invalid pattern)
  else
    let segments := collapse (openEnd anchored)
    if segments = [anyDirectories] then .ok (some (if isDirectory then .anyBelow else .everything))
    else if segments = [anyDirectories, ['*']] then .ok (some .everything)
    else if segments = [anyDirectories, ['*'], anyDirectories] then .ok (some .anyBelow)
    else
      match checkedSegments segments with
      | .ok pieces => .ok (some (.pieces pieces))
      | .error .unclosedClass => .ok none
      | .error .strayEscape => .error (.invalid pattern)
      | .error (.reversedRange first last position) => .error (.reversedRange first last position)

end Glob

/-- A pattern that has a meaning. -/
structure Exclusion where
  /-- Whether matching files are left out, or taken back in. -/
  excludes : Bool
  matcher : PathMatcher
deriving DecidableEq, Repr

namespace Exclusion

/-- A pattern less the blanks at its end, unless a backslash protects the last. -/
def trimEnd (text : List Char) : List Char :=
  if ['\\', ' '].isSuffixOf text then text else Text.dropTrailingBlanks text

/-- Reads a pattern; comments and patterns that match nothing have no meaning. -/
def parse (pattern : String) : Except ExclusionProblem (Option Exclusion) :=
  let text := trimEnd pattern.toList
  match text with
  | [] => .ok none
  | '#' :: _ => .ok none
  | ['/'] => .ok none
  | '!' :: rest => (Glob.matcher pattern rest).map (·.map fun matcher => ⟨false, matcher⟩)
  | _ => (Glob.matcher pattern text).map (·.map fun matcher => ⟨true, matcher⟩)

/-- Reads all patterns, or finds the first that is refused. -/
def parseAll : List String → Except ExclusionProblem (List Exclusion)
  | [] => .ok []
  | pattern :: rest =>
      if pattern.isEmpty then parseAll rest
      else
        match parse pattern with
        | .error problem => .error problem
        | .ok found => (parseAll rest).map (found.toList ++ ·)

/-- A path as it is matched: without a slash, or a dot and a slash, in front. -/
def matchedPath (path : String) : List Char :=
  match path.toList with
  | '/' :: rest => rest
  | '.' :: '/' :: rest => rest
  | text => text

/-- Whether the patterns leave a path out: the last that matches decides. -/
def excluded (exclusions : List Exclusion) (path : String) : Bool :=
  match exclusions.reverse.find? (·.matcher.run (matchedPath path)) with
  | some exclusion => exclusion.excludes
  | none => false

/-- The compiler of these patterns. -/
def compile : PatternCompiler := fun patterns => (parseAll patterns).map excluded

end Exclusion

end TaggedCatalog
