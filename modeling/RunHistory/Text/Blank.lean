import RunHistory.Text.Ranges

/-!
# Blank characters and trimming

The blanks are the white space of the Unicode standard together with the four information separators
U+001C to U+001F.  Zero-width characters (U+180E, U+200B, U+FEFF) are not blank.

## Main definitions

* `isBlank`: the class.
* `trim`, `trimText`: a text without the blanks at its two ends.
* `allBlank`: a text that trims to nothing.
-/

namespace RunHistory

/-- The blank code points. -/
def blankRanges : CodeRanges :=
  [(0x9, 0xD), (0x1C, 0x20), (0x85, 0x85), (0xA0, 0xA0), (0x1680, 0x1680), (0x2000, 0x200A),
    (0x2028, 0x2029), (0x202F, 0x202F), (0x205F, 0x205F), (0x3000, 0x3000)]

/-- Whether a character is blank. -/
def isBlank (c : Char) : Bool := blankRanges.contains c.toNat

/-- A text without the blanks before its first and after its last other character. -/
def trim (cs : List Char) : List Char :=
  ((cs.dropWhile isBlank).reverse.dropWhile isBlank).reverse

/-- `trim` on strings. -/
def trimText (s : String) : String := String.ofList (trim s.toList)

/-- Whether a text holds blanks only; the empty text does. -/
def allBlank (cs : List Char) : Bool := cs.all isBlank

end RunHistory
