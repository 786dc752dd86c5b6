/-!
# Places in a YAML text

A cursor is the rest of a text together with its place. The index counts bytes of UTF-8, the column
counts characters. YAML knows five line breaks, one of which may also be written as two characters.
-/

namespace MeshControl.Yaml

/-- Whether a character breaks the line. -/
def isBreak (char : Char) : Bool :=
  char = '\n' || char = '\r' || char = '\u0085' || char = '\u2028' || char = '\u2029'

/-- Whether a character is a space or a tab. -/
def isBlank (char : Char) : Bool := char = ' ' || char = '\t'

/-- Whether a character may stand in a YAML text. -/
def isAllowed (char : Char) : Bool :=
  let code := char.toNat
  code = 0x09 || code = 0x0a || code = 0x0d || (0x20 ≤ code && code ≤ 0x7e) || code = 0x85 ||
    (0xa0 ≤ code && code ≤ 0xd7ff) || (0xe000 ≤ code && code ≤ 0xfffd) || 0x10000 ≤ code

/-- Whether a character may stand in the name of an anchor or directive. -/
def isWord (char : Char) : Bool := char.isAlphanum || char = '_' || char = '-'

/-- The number of bytes that characters take in UTF-8. -/
def utf8Length (chars : List Char) : Nat := chars.foldl (fun length char => length + char.utf8Size) 0

/-- A place in a text and the characters from there on. -/
structure Cursor where
  rest : List Char
  /-- The number of bytes in front of the place. -/
  index : Nat := 0
  line : Nat := 0
  column : Nat := 0
  deriving Inhabited

namespace Cursor

/-- The character at a distance, if the text goes so far. -/
def peek (cursor : Cursor) (distance : Nat := 0) : Option Char := cursor.rest[distance]?

/-- Whether the text ends here. -/
def atEnd (cursor : Cursor) : Bool := cursor.rest.isEmpty

/-- Whether a given character stands at a distance. -/
def sees (cursor : Cursor) (char : Char) (distance : Nat := 0) : Bool := cursor.peek distance = some char

/-- Whether a line break stands at a distance. -/
def seesBreak (cursor : Cursor) (distance : Nat := 0) : Bool := (cursor.peek distance).any isBreak

/-- Whether a space or tab stands here. -/
def seesBlank (cursor : Cursor) : Bool := cursor.peek.any isBlank

/-- Whether a line break or the end of the text stands here. -/
def seesLineEnd (cursor : Cursor) : Bool := cursor.peek.all isBreak

/-- Whether a space, a tab, a line break or the end of the text stands at a distance. -/
def seesGap (cursor : Cursor) (distance : Nat := 0) : Bool :=
  (cursor.peek distance).all fun char => isBlank char || isBreak char

/-- Moves over a number of characters of the same line. -/
def advance (cursor : Cursor) (count : Nat := 1) : Cursor :=
  { cursor with
    rest := cursor.rest.drop count
    index := cursor.index + utf8Length (cursor.rest.take count)
    column := cursor.column + count }

/-- Moves over a line break, if one stands here; a carriage return and a line feed are one break. -/
def skipBreak (cursor : Cursor) : Cursor :=
  match cursor.rest with
  | '\r' :: '\n' :: rest => { rest, index := cursor.index + 2, line := cursor.line + 1, column := 0 }
  | char :: rest =>
    if isBreak char then { rest, index := cursor.index + char.utf8Size, line := cursor.line + 1, column := 0 }
    else cursor
  | [] => cursor

/-- The line break here as content: separators of lines and paragraphs stay, others are line feeds. -/
def breakText (cursor : Cursor) : List Char :=
  match cursor.peek with
  | none => []
  | some char => if !isBreak char then [] else if char = '\u2028' || char = '\u2029' then [char] else ['\n']

/-- The characters from here on that satisfy a test, and the place after them. They break no line. -/
def takeWhile (cursor : Cursor) (test : Char → Bool) : List Char × Cursor :=
  let taken := cursor.rest.takeWhile test
  (taken, cursor.advance taken.length)

/-- The place after the characters that satisfy a test. They break no line. -/
def skipWhile (cursor : Cursor) (test : Char → Bool) : Cursor := (cursor.takeWhile test).2

/-- The place at the end of the line. -/
def skipLineRest (cursor : Cursor) : Cursor := cursor.skipWhile fun char => !isBreak char

/-- The place after spaces, tabs and a comment, which end the line; nothing else may stand there. -/
def endLine? (cursor : Cursor) : Option Cursor :=
  let cursor := cursor.skipWhile isBlank
  let cursor := if cursor.sees '#' then cursor.skipLineRest else cursor
  if cursor.seesLineEnd then some cursor.skipBreak else none

/-- Whether a line starts here with three times the same character, followed by a gap. -/
def seesMarker (cursor : Cursor) (char : Char) : Bool :=
  cursor.column = 0 && cursor.sees char && cursor.sees char 1 && cursor.sees char 2 && cursor.seesGap 3

/-- Whether a document starts or ends here by a marker. -/
def seesDocumentMarker (cursor : Cursor) : Bool := cursor.seesMarker '-' || cursor.seesMarker '.'

end Cursor

end MeshControl.Yaml
