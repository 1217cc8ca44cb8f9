import TaggedCatalog.Text.Blank
import TaggedCatalog.Text.Lines

/-! # Code points

A text that a program holds is a row of code points. Nearly all of them are characters.
The others are the halves of surrogate pairs: a text may hold one, but there are no bytes
that it could be written as. -/

namespace TaggedCatalog

inductive CodePoint where
  | char (c : Char)
  /-- Half of a surrogate pair, by its place among all of them. -/
  | surrogate (place : Fin 0x800)
deriving DecidableEq, Repr

namespace CodePoint

instance : Coe Char CodePoint := ⟨char⟩

/-- The number of the first half. -/
def firstSurrogate : Nat := 0xD800

def number : CodePoint → Nat
  | char c => c.toNat
  | surrogate place => firstSurrogate + place

/-- The code point of a number. -/
def ofCode? (code : Nat) : Option CodePoint :=
  if isHalf : firstSurrogate ≤ code ∧ code - firstSurrogate < 0x800 then
    some (surrogate ⟨code - firstSurrogate, isHalf.2⟩)
  else if code.isValidChar then some (char (Char.ofNat code))
  else none

def char? : CodePoint → Option Char
  | char c => some c
  | surrogate _ => none

def isBlank : CodePoint → Bool
  | char c => Text.isBlank c
  | surrogate _ => false

/-- The end of a line once all line ends are alike. -/
def lineFeed : CodePoint := char '\n'

def carriageReturn : CodePoint := char '\r'

instance : LT CodePoint := ⟨fun left right => left.number < right.number⟩

instance (left right : CodePoint) : Decidable (left < right) :=
  inferInstanceAs (Decidable (left.number < right.number))

@[simp] theorem carriageReturn_ne_lineFeed : carriageReturn ≠ lineFeed := by decide

theorem char?_eq_some_iff {point : CodePoint} {c : Char} :
    point.char? = some c ↔ char c = point := by
  cases point <;> simp [char?, eq_comm]

/-- The numbers of code points are the codes that stand for one. -/
theorem ofCode?_eq_some_iff {code : Nat} {point : CodePoint} :
    ofCode? code = some point ↔ point.number = code := by
  constructor
  · intro found
    rw [ofCode?] at found
    split at found
    · rename_i isHalf
      cases found
      exact Nat.add_sub_cancel' isHalf.1
    · split at found
      · rename_i isChar
        cases found
        rw [number, Char.ofNat, dif_pos isChar]
        rfl
      · cases found
  · rintro rfl
    cases point with
    | char c =>
        have isChar : c.toNat.isValidChar := c.valid
        have noHalf : ¬(firstSurrogate ≤ c.toNat ∧ c.toNat - firstSurrogate < 0x800) := by
          simp only [Nat.isValidChar, firstSurrogate] at isChar ⊢
          omega
        rw [number, ofCode?, dif_neg noHalf, if_pos isChar, Char.ofNat_toNat]
    | surrogate place => simp [number, ofCode?]

theorem number_injective : Function.Injective number := by
  intro left right same
  have found : ofCode? right.number = some left := ofCode?_eq_some_iff.mpr same
  rw [ofCode?_eq_some_iff.mpr rfl] at found
  exact (Option.some.inj found).symm

end CodePoint

/-- A text as a row of code points. -/
abbrev CodeText := List CodePoint

namespace CodeText

/-- A text of characters. -/
def of (text : String) : CodeText := text.toList.map .char

instance : Coe String CodeText := ⟨of⟩

/-- The characters of a text, if it holds nothing else. -/
def text? (codes : CodeText) : Option String := (codes.mapM CodePoint.char?).map String.ofList

/-- The text without the blanks at either end. -/
def strip (codes : CodeText) : CodeText := Text.trim CodePoint.isBlank codes

/-- The text with every line end written as a line feed. -/
def withLineFeeds (codes : CodeText) : CodeText :=
  Text.uniformLineEnds .carriageReturn .lineFeed codes

@[simp] theorem of_empty : of "" = [] := rfl

@[simp] theorem of_append (first second : String) :
    of (first ++ second) = of first ++ of second := by
  rw [of, String.toList_append, List.map_append, of, of]

@[simp] theorem char_mem_of {c : Char} {text : String} : .char c ∈ of text ↔ c ∈ text.toList := by
  simp [of]

theorem of_injective : Function.Injective of := by
  intro first second same
  exact String.toList_inj.mp ((List.map_inj_right fun _ _ => CodePoint.char.inj).mp same)

@[simp] theorem of_inj {first second : String} : of first = of second ↔ first = second :=
  of_injective.eq_iff

@[simp] theorem of_eq_nil_iff {text : String} : of text = [] ↔ text = "" := by
  rw [← of_empty, of_inj]

theorem mapM_char?_eq_some_iff {codes : CodeText} {characters : List Char} :
    codes.mapM CodePoint.char? = some characters ↔ characters.map .char = codes := by
  induction codes generalizing characters with
  | nil => simp [eq_comm]
  | cons point rest induction =>
      simp only [List.mapM_cons, Option.bind_eq_bind, Option.bind_eq_some_iff,
        CodePoint.char?_eq_some_iff, induction, Option.pure_def, Option.some.injEq]
      constructor
      · rintro ⟨c, rfl, others, rfl, rfl⟩
        rfl
      · intro same
        cases characters with
        | nil => cases same
        | cons c others =>
            cases same
            exact ⟨c, rfl, others, rfl, rfl⟩

/-- A text holds nothing but characters if and only if it is a text of characters. -/
theorem text?_eq_some_iff {codes : CodeText} {text : String} :
    text? codes = some text ↔ of text = codes := by
  rw [text?, Option.map_eq_some_iff]
  constructor
  · rintro ⟨characters, found, rfl⟩
    rw [of, String.toList_ofList, mapM_char?_eq_some_iff.mp found]
  · rintro rfl
    exact ⟨text.toList, mapM_char?_eq_some_iff.mpr rfl, String.ofList_toList⟩

@[simp] theorem text?_of (text : String) : text? (of text) = some text :=
  text?_eq_some_iff.mpr rfl

end CodeText

end TaggedCatalog
