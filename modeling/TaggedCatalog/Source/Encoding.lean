import TaggedCatalog.Source.Lookup
import TaggedCatalog.Text.Lines
import TaggedCatalog.Text.Utf8

/-! # The encoding of a source file

A source file is read byte by byte. Its line ends are made uniform and the last
line is ended if it is not. A comment in the first two lines may name the
encoding, the second line counting only if the first one holds no code; a byte
order mark goes only with UTF-8.

The result is UTF-8 again, one character per byte. Where no other encoding is
named the bytes are passed on unchecked: names and texts are decoded when they
are read, and comments never are. -/

namespace TaggedCatalog.Source

/-- The encodings that every reader knows. -/
inductive Encoding where
  | utf8
  | latin1
  | ascii
deriving DecidableEq, Repr

namespace Encoding

def isMargin (c : Char) : Bool := c == ' ' || c == '\t' || c == '\x0c'

def isEncodingLetter (c : Char) : Bool :=
  c.isAlphanum || c == '-' || c == '_' || c == '.'

/-- The name behind the first `coding:` or `coding=` that has one. -/
def nameInComment : List Char → Option String
  | [] => none
  | c :: rest =>
      let here :=
        match c :: rest with
        | 'c' :: 'o' :: 'd' :: 'i' :: 'n' :: 'g' :: mark :: after =>
            if mark == ':' || mark == '=' then
              (after.dropWhile fun d => d == ' ' || d == '\t').takeWhile isEncodingLetter
            else []
        | _ => []
      if here.isEmpty then nameInComment rest else some (String.ofList here)

/-- The encoding that a line names, if the line is a comment. -/
def nameInLine (line : List Char) : Option String :=
  match line.dropWhile isMargin with
  | '#' :: comment => nameInComment comment
  | _ => none

/-- Whether a line holds nothing but a comment. -/
def isCodeFree (line : List Char) : Bool :=
  match line.dropWhile isMargin with
  | [] => true
  | c :: _ => c == '#'

/-- The name that a file gives for its encoding. -/
def declaredName (lines : List (List Char)) : Option String :=
  match lines with
  | first :: second :: _ :: _ =>
      match nameInLine first with
      | some name => some name
      | none => if isCodeFree first then nameInLine second else none
  | first :: _ => nameInLine first
  | [] => none

/-- A name with its first letters made comparable: lower case, and hyphens for
low lines. Twelve letters are looked at. -/
def comparable (name : String) : List Char :=
  (name.toList.take 12).map fun c => if c == '_' then '-' else c.toLower

def startsWith (start text : List Char) : Bool := start.isPrefixOf text

/-- Whether a name is the plain name of UTF-8 itself. -/
def isPlainUtf8 (name : String) : Bool :=
  let letters := comparable name
  letters == "utf-8".toList || startsWith "utf-8-".toList letters

def isPlainLatin1 (name : String) : Bool :=
  let letters := comparable name
  ["latin-1", "iso-8859-1", "iso-latin-1"].any fun known =>
    letters == known.toList || startsWith (known.toList ++ ['-']) letters

def utf8Names : List String := ["u8", "utf", "utf8", "utf-8", "utf8-ucs2", "utf8-ucs4", "cp65001"]

def latin1Names : List String :=
  ["8859", "cp819", "csisolatin1", "ibm819", "iso8859", "iso8859-1", "iso-8859-1",
   "iso-8859-1-1987", "iso-ir-100", "l1", "latin", "latin1", "latin-1"]

def asciiNames : List String :=
  ["646", "ansi-x3.4-1968", "ansi-x3-4-1968", "ansi-x3.4-1986", "ascii", "cp367", "csascii",
   "ibm367", "iso646-us", "iso-646.irv-1991", "iso-ir-6", "us", "us-ascii"]

/-- The encoding of a name other than a plain one, if every reader knows it. -/
def ofName? (name : String) : Option Encoding :=
  let letters := String.ofList (name.toList.map fun c => if c == '_' then '-' else c.toLower)
  if isPlainLatin1 name || latin1Names.contains letters then some latin1
  else if utf8Names.contains letters then some utf8
  else if asciiNames.contains letters then some ascii
  else none

/-- A byte of Latin-1 in UTF-8. -/
def unitsOfLatin1 (unit : Char) : List Char :=
  if unit.toNat < 0x80 then [unit]
  else [Char.ofNat (0xC0 + unit.toNat / 0x40), Char.ofNat (0x80 + unit.toNat % 0x40)]

/-- The bytes of an encoding written in UTF-8, if they are well formed. -/
def toUtf8 (encoding : Encoding) (units : List Char) : Option (List Char) :=
  match encoding with
  | utf8 => (Text.decodeUnits units).map fun _ => units
  | latin1 => some (units.flatMap unitsOfLatin1)
  | ascii => if units.all (·.toNat < 0x80) then some units else none

end Encoding

open Encoding

/-- Ends the last line. -/
def endLastLine (units : List Char) : List Char :=
  if units.getLast? = some '\n' then units else units ++ ['\n']

def byteOrderMark : List Char := [Char.ofNat 0xEF, Char.ofNat 0xBB, Char.ofNat 0xBF]

/-- The bytes of an encoding that is looked up, in UTF-8. -/
def decodeElsewhere (lookup : Lookup) (name : String) (units : List Char) : Option (List Char) :=
  (lookup.decoder? name).bind fun decode =>
    (decode (units.map Text.byteOfUnit)).map fun text =>
      (Text.encodeUtf8 text).map Text.unitOfByte

/-- The text of a source file in UTF-8, one character per byte. A file with a
zero byte, or in an encoding that is unknown or violated, has none. -/
def unitsOfFile (lookup : Lookup) (bytes : List UInt8) : Option (List Char) :=
  if bytes.contains 0 then none
  else
    let all := endLastLine (Text.normalizeLineEnds (bytes.map Text.unitOfByte))
    let marked := byteOrderMark.isPrefixOf all
    let units := if marked then all.drop 3 else all
    match declaredName (Text.splitOnChar '\n' units) with
    | none => some units
    | some name =>
        if isPlainUtf8 name then some units
        else if marked then none
        else
          match Encoding.ofName? name with
          | some encoding => encoding.toUtf8 units
          | none => decodeElsewhere lookup name units

example : nameInLine "# -*- coding: latin-1 -*-".toList = some "latin-1" := by decide +kernel
example : nameInLine "x = 1 # coding: latin-1".toList = none := by decide +kernel

end TaggedCatalog.Source
