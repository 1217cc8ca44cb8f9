/-! # Numbers of a fixed width -/

namespace TaggedCatalog.Text

/-- The decimal digits of a number, with zeros in front up to the width. -/
def padded (width value : Nat) : String :=
  let digits := Nat.toDigits 10 value
  String.ofList (List.replicate (width - digits.length) '0' ++ digits)

example : padded 4 24 = "0024" := by decide +kernel
example : padded 2 1234 = "1234" := by decide +kernel

end TaggedCatalog.Text
