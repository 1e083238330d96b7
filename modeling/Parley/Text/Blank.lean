/-!
# Blank characters

The blank characters are those of the Unicode `White_Space` property: the controls from tab
to carriage return, the space, the next-line control, the no-break space, the Ogham space mark,
the typographic spaces from en quad to hair space, the line and paragraph separators, the
narrow no-break space, the medium mathematical space and the ideographic space.
-/

namespace Parley

namespace Text

/-- Code point ranges of the blank characters. -/
def blankRanges : List (Nat × Nat) :=
  [(0x09, 0x0D), (0x20, 0x20), (0x85, 0x85), (0xA0, 0xA0), (0x1680, 0x1680),
   (0x2000, 0x200A), (0x2028, 0x2029), (0x202F, 0x202F), (0x205F, 0x205F), (0x3000, 0x3000)]

/-- Whether a character is blank. -/
def isBlank (c : Char) : Bool :=
  blankRanges.any fun (lo, hi) => lo ≤ c.toNat && c.toNat ≤ hi

/-- The text without its leading and trailing blanks. -/
def trimBlank (s : String) : String :=
  String.ofList ((s.toList.dropWhile isBlank).reverse.dropWhile isBlank).reverse

/-- The text with ASCII capitals made small; other characters are kept. -/
def asciiLower (s : String) : String := String.ofList (s.toList.map Char.toLower)

end Text

end Parley
