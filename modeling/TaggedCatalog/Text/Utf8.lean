/-! # UTF-8 as a list of bytes -/

namespace TaggedCatalog.Text

/-- The text that the bytes encode, if they are well formed. -/
def decodeUtf8 (bytes : List UInt8) : Option String :=
  String.fromUTF8? (ByteArray.mk bytes.toArray)

def encodeUtf8 (text : String) : List UInt8 := text.toUTF8.data.toList

/-- What is decoded is the text that is encoded so. -/
theorem decodeUtf8_eq_some_iff {bytes : List UInt8} {text : String} :
    decodeUtf8 bytes = some text ↔ encodeUtf8 text = bytes := by
  rw [decodeUtf8, String.fromUTF8?]
  constructor
  · intro decoded
    split at decoded
    · cases decoded
      rfl
    · cases decoded
  · intro encoded
    subst encoded
    exact dif_pos text.isValidUTF8

theorem decodeUtf8_eq_none_iff {bytes : List UInt8} :
    decodeUtf8 bytes = none ↔ ∀ text, encodeUtf8 text ≠ bytes := by
  simp only [Option.eq_none_iff_forall_ne_some, ne_eq, decodeUtf8_eq_some_iff]

/-- A byte as the character of the same number. -/
def unitOfByte (byte : UInt8) : Char := Char.ofNat byte.toNat

def byteOfUnit (unit : Char) : UInt8 := UInt8.ofNat unit.toNat

/-- The text that a list of bytes, each given as a character, encodes. -/
def decodeUnits (units : List Char) : Option String := decodeUtf8 (units.map byteOfUnit)

end TaggedCatalog.Text
