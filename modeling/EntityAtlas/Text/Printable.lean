import EntityAtlas.Text.PrintableTable

/-!
# Printable characters

Which characters show in a text. The plain space does, and so does every other ASCII character
that is no control (`isPrintable_of_between`).
-/

set_option autoImplicit false

namespace EntityAtlas.Text

/-- Whether a character shows in a text. -/
def isPrintable (char : Char) : Bool := !inRuns char.toNat unprintableRuns

/-- The ASCII characters from the space to the tilde show in a text. -/
theorem isPrintable_of_between {char : Char} (low : 0x1F < char.toNat)
    (high : char.toNat < 0x7F) : isPrintable char = true := by
  have none : inRuns char.toNat unprintableRuns = false := inRuns_eq_false_of_lt low high _
  simp [isPrintable, none]

end EntityAtlas.Text
