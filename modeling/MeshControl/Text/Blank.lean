/-!
# Blank characters

The characters with the Unicode property of white space, and text without them at its ends.
-/

namespace MeshControl.Text

/-- The first and last code points of the ranges of white space. -/
def blankRanges : List (Nat × Nat) :=
  [(0x09, 0x0d), (0x20, 0x20), (0x85, 0x85), (0xa0, 0xa0), (0x1680, 0x1680), (0x2000, 0x200a),
   (0x2028, 0x2029), (0x202f, 0x202f), (0x205f, 0x205f), (0x3000, 0x3000)]

/-- Whether a character is white space. -/
def isBlank (char : Char) : Bool :=
  blankRanges.any fun range => range.1 ≤ char.toNat && char.toNat ≤ range.2

/-- The characters from the first to the last one that is no white space. -/
def trimChars (chars : List Char) : List Char :=
  ((chars.dropWhile isBlank).reverse.dropWhile isBlank).reverse

/-- Text without white space at its ends. -/
def trim (text : String) : String := String.ofList (trimChars text.toList)

/-- Whether a text has nothing but white space. -/
def isBlankText (text : String) : Bool := text.toList.all isBlank

/-- The parts of some characters between separators; there is always at least one. -/
def splitChars (separator : Char) : List Char → List (List Char)
  | [] => [[]]
  | char :: rest =>
    if char = separator then [] :: splitChars separator rest
    else
      match splitChars separator rest with
      | [] => [[char]]
      | part :: parts => (char :: part) :: parts

/-- The parts of a text between separators. -/
def split (separator : Char) (text : String) : List String :=
  (splitChars separator text.toList).map String.ofList

end MeshControl.Text
