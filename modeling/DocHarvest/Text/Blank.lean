/-!
# Whitespace

The characters that separate the parts of a tag value and that are trimmed from the ends of a
text: the ASCII blanks and separators together with the Unicode space and line separators.
-/

namespace DocHarvest.Text

/-- Whether a character is whitespace. -/
def isBlank (character : Char) : Bool :=
  let code := character.toNat
  (0x09 ≤ code && code < 0x0e) || (0x1c ≤ code && code < 0x21) || code == 0x85 || code == 0xa0 ||
    code == 0x1680 || (0x2000 ≤ code && code < 0x200b) || code == 0x2028 || code == 0x2029 ||
    code == 0x202f || code == 0x205f || code == 0x3000

end DocHarvest.Text
