import MeshControl.Json.Parse
import MeshControl.Yaml.Cursor

/-!
# Scalars of YAML

A scalar is written plain, between quotation marks, or as a block of indented lines. The functions
here take the place where a scalar starts and answer its text and the place after it. Inside plain
and quoted scalars a gap of blanks and line breaks is folded: one break becomes a space, and of
several breaks all but the first stay.

Fuel is enough if it is more than the number of characters left, and for a quoted scalar four times
that: a gap in it takes three steps.
-/

namespace MeshControl.Yaml

/-- How a scalar is written. -/
inductive Style where
  | plain
  | quoted
  /-- A block that keeps its line breaks. -/
  | literal
  /-- A block whose line breaks are folded. -/
  | folded
  deriving DecidableEq, Repr, Inhabited

namespace Scalar

/-- Blanks and line breaks between the words of a scalar. -/
structure Gap where
  /-- The blanks before the first line break, if there was none yet. -/
  blanks : List Char := []
  /-- The first line break. -/
  first : List Char := []
  /-- The line breaks after the first one. -/
  later : List Char := []
  /-- Whether there was a line break. -/
  broken : Bool := false

/-- What stands for a gap in the text of the scalar. -/
def Gap.text (gap : Gap) : List Char :=
  if !gap.broken then gap.blanks
  else if gap.first.head? = some '\n' then if gap.later.isEmpty then [' '] else gap.later
  else gap.first ++ gap.later

/-- Consumes a gap. In a plain scalar a tab may not stand left of the required indentation on a new line. -/
def gap? (indent : Int) (fuel : Nat) (gap : Gap) (cursor : Cursor) : Option (Gap × Cursor) :=
  match fuel with
  | 0 => none
  | fuel + 1 =>
    match cursor.peek with
    | none => some (gap, cursor)
    | some char =>
      if isBlank char then
        if gap.broken then
          if char = '\t' ∧ cursor.column < indent then none else gap? indent fuel gap cursor.advance
        else gap? indent fuel { gap with blanks := gap.blanks ++ [char] } cursor.advance
      else if isBreak char then
        let gap := if gap.broken then { gap with later := gap.later ++ cursor.breakText }
          else { gap with blanks := [], first := cursor.breakText, broken := true }
        gap? indent fuel gap cursor.skipBreak
      else some (gap, cursor)

/-- Whether a character delimits the items of a flow collection. -/
def isFlowDelimiter (char : Char) : Bool :=
  char = ',' || char = '[' || char = ']' || char = '{' || char = '}'

/-- The characters of a plain scalar up to the next gap or to an indicator that ends it. -/
def plainRun? (flow : Bool) : List Char → Option (List Char)
  | [] => some []
  | char :: rest =>
    if isBlank char ∨ isBreak char then some []
    else if flow && char = ':' && rest.head?.any (fun next => isFlowDelimiter next || next = '?') then none
    else if char = ':' && rest.head?.all (fun next => isBlank next || isBreak next) then some []
    else if flow && isFlowDelimiter char then some []
    else (plainRun? flow rest).map (char :: ·)

/-- The rest of a plain scalar, after a gap that counts only if more text follows; also whether the
scalar ends with a line break. -/
def plain? (flow : Bool) (indent : Int) (fuel : Nat) (before : Gap) (cursor : Cursor) :
    Option (List Char × Bool × Cursor) :=
  match fuel with
  | 0 => none
  | fuel + 1 =>
    if cursor.seesDocumentMarker || cursor.sees '#' then some ([], before.broken, cursor)
    else do
      let run ← plainRun? flow cursor.rest
      let (text, before) := if run.isEmpty then ([], before) else (before.text ++ run, {})
      let after := cursor.advance run.length
      if !after.seesBlank && !after.seesBreak then return (text, before.broken, after)
      let (gap, next) ← gap? indent fuel {} after
      if !flow && next.column < indent then return (text, gap.broken, next)
      let (more, broken, last) ← plain? flow indent fuel gap next
      return (text ++ more, broken, last)

/-- The character for an escape without a code. -/
def escape? (letter : Char) : Option Char :=
  match letter with
  | '0' => some '\x00'
  | 'a' => some '\x07'
  | 'b' => some '\x08'
  | 't' | '\t' => some '\t'
  | 'n' => some '\n'
  | 'v' => some '\x0b'
  | 'f' => some '\x0c'
  | 'r' => some '\r'
  | 'e' => some '\x1b'
  | ' ' => some ' '
  | '"' => some '"'
  | '/' => some '/'
  | '\\' => some '\\'
  | 'N' => some '\u0085'
  | '_' => some '\u00a0'
  | 'L' => some '\u2028'
  | 'P' => some '\u2029'
  | _ => none

/-- The number of digits of an escape with a code. -/
def codeLength? (letter : Char) : Option Nat :=
  match letter with
  | 'x' => some 2
  | 'u' => some 4
  | 'U' => some 8
  | _ => none

/-- The number that hexadecimal digits write. -/
def hexNumber? (places : List Char) : Option Nat :=
  places.foldlM (fun number place => (Json.hexValue? place).map (number * 16 + ·)) 0

/-- The character that an escape stands for, and the number of characters after the backslash. -/
def escaped? : List Char → Option (Char × Nat)
  | [] => none
  | letter :: rest =>
    match codeLength? letter with
    | none => (escape? letter).map fun char => (char, 1)
    | some length => do
      guard (length ≤ rest.length)
      let code ← hexNumber? (rest.take length)
      if h : code.isValidChar then return (Char.ofNatAux code h, 1 + length) else none

mutual

/-- The rest of a quoted scalar from the start of a word on. -/
def quoted? (single : Bool) (fuel : Nat) (cursor : Cursor) : Option (List Char × Cursor) :=
  match fuel with
  | 0 => none
  | fuel + 1 => if cursor.seesDocumentMarker || cursor.atEnd then none else word? single fuel cursor

/-- The rest of a quoted scalar inside a word. -/
def word? (single : Bool) (fuel : Nat) (cursor : Cursor) : Option (List Char × Cursor) :=
  match fuel with
  | 0 => none
  | fuel + 1 =>
    match cursor.peek with
    | none => quotedGap? single fuel {} cursor
    | some char =>
      if isBlank char ∨ isBreak char then quotedGap? single fuel {} cursor
      else if single ∧ char = '\'' then
        if cursor.sees '\'' 1 then (word? single fuel (cursor.advance 2)).map fun (text, last) => ('\'' :: text, last)
        else some ([], cursor.advance)
      else if !single ∧ char = '"' then some ([], cursor.advance)
      else if !single ∧ char = '\\' then
        if cursor.seesBreak 1 then
          let next := cursor.advance.skipBreak
          if next.sees '"' then some ([], next.advance)
          else quotedGap? single fuel { broken := true } next
        else do
          let (char, length) ← escaped? (cursor.rest.drop 1)
          let (text, last) ← word? single fuel (cursor.advance (length + 1))
          return (char :: text, last)
      else (word? single fuel cursor.advance).map fun (text, last) => (char :: text, last)

/-- The rest of a quoted scalar from a gap on. -/
def quotedGap? (single : Bool) (fuel : Nat) (before : Gap) (cursor : Cursor) : Option (List Char × Cursor) :=
  match fuel with
  | 0 => none
  | fuel + 1 => do
    let (gap, next) ← gap? 0 fuel before cursor
    let (text, last) ← quoted? single fuel next
    return (gap.text ++ text, last)

end

/-- What becomes of the line breaks at the end of a block. -/
inductive Chomping where
  | strip
  | clip
  | keep
  deriving DecidableEq, Repr, Inhabited

/-- The header of a block: its chomping and the indentation it asks for, zero if none. -/
def header? (cursor : Cursor) : Option (Chomping × Nat × Cursor) := do
  let (chomping, cursor) := chompingAt cursor
  let (increment, cursor) ← incrementAt cursor
  match chomping with
  | some chomping => return (chomping, increment, cursor)
  | none =>
    let (chomping, cursor) := if increment = 0 then (none, cursor) else chompingAt cursor
    return (chomping.getD .clip, increment, cursor)
where
  /-- A sign for the chomping, if there is one. -/
  chompingAt (cursor : Cursor) : Option Chomping × Cursor :=
    if cursor.sees '+' then (some .keep, cursor.advance)
    else if cursor.sees '-' then (some .strip, cursor.advance)
    else (none, cursor)
  /-- A digit for the indentation, if there is one; it is not zero. -/
  incrementAt (cursor : Cursor) : Option (Nat × Cursor) :=
    match cursor.peek with
    | none => some (0, cursor)
    | some char =>
      if !char.isDigit then some (0, cursor)
      else if char = '0' then none
      else some (char.toNat - '0'.toNat, cursor.advance)

/-- Consumes the indentation and the empty lines in front of a line of a block. The answer holds the
widest indentation and the line breaks. Without a known indentation all spaces belong to it. -/
def emptyLines? (indent : Nat) (fuel widest : Nat) (cursor : Cursor) : Option (Nat × List Char × Cursor) :=
  match fuel with
  | 0 => none
  | fuel + 1 =>
    let spaces := (cursor.rest.takeWhile (· = ' ')).length
    let cursor := cursor.advance (if indent = 0 then spaces else min spaces (indent - cursor.column))
    let widest := max widest cursor.column
    if (indent = 0 || cursor.column < indent) && cursor.sees '\t' then none
    else if !cursor.seesBreak then some (widest, [], cursor)
    else do
      let (widest, breaks, last) ← emptyLines? indent fuel widest cursor.skipBreak
      return (widest, cursor.breakText ++ breaks, last)

/-- The line breaks that stay at the end of a block. -/
def Chomping.tail (chomping : Chomping) (first later : List Char) : List Char :=
  match chomping with
  | .strip => []
  | .clip => first
  | .keep => first ++ later

/-- The lines of a block from here on. Before them stand the break of the last line, the empty lines
after it, and whether that line starts with a blank. -/
def blockLines? (style : Style) (chomping : Chomping) (indent : Nat) (fuel : Nat) (first later : List Char)
    (afterBlank : Bool) (cursor : Cursor) : Option (List Char × Cursor) :=
  match fuel with
  | 0 => none
  | fuel + 1 =>
    if cursor.column ≠ indent ∨ cursor.atEnd then some (chomping.tail first later, cursor)
    else do
      let joint := if style = .folded ∧ first.head? = some '\n' ∧ !afterBlank ∧ !cursor.seesBlank
        then if later.isEmpty then [' '] else [] else first
      let (line, lineEnd) := cursor.takeWhile fun char => !isBreak char
      let (_, breaks, next) ← emptyLines? indent fuel 0 lineEnd.skipBreak
      let (text, last) ←
        blockLines? style chomping indent fuel lineEnd.breakText breaks cursor.seesBlank next
      return (joint ++ later ++ line ++ text, last)

/-- A block, from behind its indicator on, inside a collection with the given indentation. -/
def block? (style : Style) (parentIndent : Int) (fuel : Nat) (cursor : Cursor) : Option (List Char × Cursor) := do
  let (chomping, increment, cursor) ← header? cursor
  let cursor ← cursor.endLine?
  let asked := if increment = 0 then 0 else (max parentIndent 0).toNat + increment
  let (widest, breaks, cursor) ← emptyLines? asked fuel 0 cursor
  let indent := if asked = 0 then max widest (max (parentIndent + 1) 1).toNat else asked
  blockLines? style chomping indent fuel [] breaks false cursor

end Scalar

end MeshControl.Yaml
