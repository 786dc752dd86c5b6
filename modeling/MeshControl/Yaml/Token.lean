import MeshControl.Yaml.Scalar

/-!
# Tokens of YAML

`Token.scan?` cuts a text into tokens. Block collections have no brackets, so the scanner makes
tokens for their starts and ends out of the indentation. A key without an indicator is recognised
only at the colon after it; its tokens are then inserted where the key started.
-/

namespace MeshControl.Yaml

/-- The bytes of a tag, or of a part of one. Escapes may write bytes that are no text. -/
abbrev Tag := List UInt8

/-- The bytes of a text as a tag. -/
def Tag.ofString (text : String) : Tag := text.toUTF8.toList

/-- A token of a YAML text. -/
inductive Token where
  | streamEnd
  | versionDirective (major minor : Nat)
  /-- A handle that tags of the document may start with, and what it stands for. -/
  | tagDirective (handle : String) (stem : Tag)
  | documentStart
  | documentEnd
  | blockSequenceStart
  | blockMappingStart
  | blockEnd
  | flowSequenceStart
  | flowSequenceEnd
  | flowMappingStart
  | flowMappingEnd
  | blockEntry
  | flowEntry
  | key
  | value
  | alias (name : String)
  | anchor (name : String)
  /-- A tag with an empty handle is complete. -/
  | tag (handle : String) (suffix : Tag)
  | scalar (text : String) (style : Style)
  deriving DecidableEq, Repr, Inhabited

/-- A place where a key without an indicator may have started. -/
structure KeyCandidate where
  /-- Whether only a key can stand there. -/
  required : Bool
  /-- The number of tokens in front of it. -/
  tokenIndex : Nat
  index : Nat
  line : Nat
  column : Nat
  deriving Repr, Inhabited

/-- The state of the scanner. -/
structure Scanner where
  cursor : Cursor
  /-- The tokens found so far. -/
  tokens : Array Token := #[]
  /-- The column of the innermost block collection, or minus one outside of all. -/
  indent : Int := -1
  /-- The columns of the block collections around it, innermost first. -/
  outerIndents : List Int := []
  /-- Whether a key may start here. -/
  keyAllowed : Bool := true
  /-- The open candidates: of the innermost flow collection first, of the block context last. -/
  candidates : List (Option KeyCandidate) := [none]
  deriving Inhabited

namespace Scanner

/-- Whether the scanner is inside a flow collection. -/
def inFlow (scanner : Scanner) : Bool := 1 < scanner.candidates.length

/-- Adds a token at the end. -/
def push (scanner : Scanner) (token : Token) : Scanner :=
  { scanner with tokens := scanner.tokens.push token }

/-- Adds a token in front of those from an index on. -/
def insertAt (scanner : Scanner) (index : Nat) (token : Token) : Scanner :=
  { scanner with tokens := scanner.tokens.insertIdxIfInBounds index token }

/-- Moves the cursor over a number of characters. -/
def advance (scanner : Scanner) (count : Nat := 1) : Scanner :=
  { scanner with cursor := scanner.cursor.advance count }

/-- Removes the candidate of the innermost level. A required key cannot be given up. -/
def dropCandidate? (scanner : Scanner) : Option Scanner :=
  match scanner.candidates with
  | some candidate :: outer => if candidate.required then none else some { scanner with candidates := none :: outer }
  | _ => some scanner

/-- Notes that a key may start here, if keys are allowed here. -/
def noteCandidate? (scanner : Scanner) : Option Scanner :=
  if !scanner.keyAllowed then some scanner
  else do
    let scanner ← scanner.dropCandidate?
    let candidate : KeyCandidate :=
      { required := !scanner.inFlow && scanner.indent = scanner.cursor.column
        tokenIndex := scanner.tokens.size
        index := scanner.cursor.index
        line := scanner.cursor.line
        column := scanner.cursor.column }
    return { scanner with candidates := some candidate :: scanner.candidates.drop 1 }

/-- Gives up the candidates that are too far back: a key stays on one line and is not longer than
1024 bytes. -/
def dropStale? (scanner : Scanner) : Option Scanner := do
  let candidates ← scanner.candidates.mapM fun candidate =>
    match candidate with
    | none => some none
    | some key =>
      if key.line < scanner.cursor.line || key.index + 1024 < scanner.cursor.index then
        if key.required then none else some none
      else some (some key)
  return { scanner with candidates }

/-- Opens a block collection at a column that is farther right than the innermost one. Its token
comes at the end, or in front of the tokens from an index on. -/
def openBlock (scanner : Scanner) (column : Nat) (index : Option Nat) (token : Token) : Scanner :=
  if !scanner.inFlow && scanner.indent < column then
    let scanner := { scanner with indent := column, outerIndents := scanner.indent :: scanner.outerIndents }
    match index with
    | none => scanner.push token
    | some index => scanner.insertAt index token
  else scanner

/-- The ends of the block collections that start to the right of a column. -/
def closeFrom (column : Int) : Int → List Int → Array Token → Int × List Int × Array Token
  | indent, [], tokens => (indent, [], tokens)
  | indent, outer :: rest, tokens =>
    if column < indent then closeFrom column outer rest (tokens.push .blockEnd) else (indent, outer :: rest, tokens)

/-- Closes the block collections that start to the right of a column. -/
def closeBlocks (scanner : Scanner) (column : Int) : Scanner :=
  if scanner.inFlow then scanner
  else
    let (indent, outerIndents, tokens) := closeFrom column scanner.indent scanner.outerIndents scanner.tokens
    { scanner with indent, outerIndents, tokens }

/-- Moves to the next token over blanks, comments and line breaks. In the block context a new line may
start a key, and a tab may not stand where a key may start. A line may start with a byte order mark,
which takes a column like any other character. -/
def skipToToken (fuel : Nat) (scanner : Scanner) : Scanner :=
  match fuel with
  | 0 => scanner
  | fuel + 1 =>
    let cursor := scanner.cursor
    let cursor := if cursor.column = 0 && cursor.sees '\ufeff' then cursor.advance else cursor
    let tabs := scanner.inFlow || !scanner.keyAllowed
    let cursor := cursor.skipWhile fun char => char = ' ' || (tabs && char = '\t')
    let cursor := if cursor.sees '#' then cursor.skipLineRest else cursor
    if cursor.seesBreak then
      skipToToken fuel { scanner with
        cursor := cursor.skipBreak
        keyAllowed := scanner.keyAllowed || !scanner.inFlow }
    else { scanner with cursor }

/-- The end of the text closes everything. -/
def streamEnd? (scanner : Scanner) : Option Scanner := do
  let scanner ← (scanner.closeBlocks (-1)).dropCandidate?
  return { scanner with keyAllowed := false }.push .streamEnd

/-- A handle of tags: an exclamation mark, word characters, and perhaps an exclamation mark. -/
def tagHandle? (cursor : Cursor) : Option (List Char × Cursor) :=
  if !cursor.sees '!' then none
  else
    let (word, after) := cursor.advance.takeWhile isWord
    if after.sees '!' then some ('!' :: word ++ ['!'], after.advance) else some ('!' :: word, after)

/-- Whether a character may stand in a tag; the delimiters of flow collections only between angle
brackets and in directives. -/
def isTagChar (verbatim : Bool) (char : Char) : Bool :=
  isWord char || ";/?:@&=+$.%!~*'()".toList.contains char || (verbatim && ",[]".toList.contains char)

/-- The number of bytes that an escape in a tag starts, given its first byte. -/
def escapeWidth? (byte : Nat) : Option Nat :=
  if byte < 0x80 then some 1
  else if byte / 0x20 = 6 then some 2
  else if byte / 0x10 = 14 then some 3
  else if byte / 0x08 = 30 then some 4
  else none

/-- The bytes of a number of escapes, each a percent sign and two hexadecimal digits. -/
def escapedBytes? : Nat → List Char → Option (List UInt8 × List Char)
  | 0, rest => some ([], rest)
  | count + 1, '%' :: high :: low :: rest => do
    let high ← Json.hexValue? high
    let low ← Json.hexValue? low
    let (bytes, rest) ← escapedBytes? count rest
    return (.ofNat (high * 16 + low) :: bytes, rest)
  | _, _ => none

/-- Whether a byte may follow the first one of several. -/
def isTrailing (byte : UInt8) : Bool := byte.toNat / 0x40 = 2

/-- The bytes of a tag's characters, with escapes resolved. Escapes come in groups as long as the first
byte of a group asks for. -/
def tagBytes? (fuel : Nat) (chars : List Char) : Option Tag :=
  match fuel, chars with
  | 0, _ => none
  | _, [] => some []
  | fuel + 1, '%' :: high :: low :: rest => do
    let first := (← Json.hexValue? high) * 16 + (← Json.hexValue? low)
    let (bytes, rest) ← escapedBytes? ((← escapeWidth? first) - 1) rest
    guard (bytes.all isTrailing)
    let more ← tagBytes? fuel rest
    return .ofNat first :: bytes ++ more
  | fuel + 1, char :: rest => if char = '%' then none else (tagBytes? fuel rest).map (.ofNat char.toNat :: ·)

/-- The characters of a tag from here on. Some are required unless a head comes before them. The tag ends
at the first byte that is zero. -/
def tagSuffix? (verbatim : Bool) (head : List Char) (cursor : Cursor) : Option (Tag × Cursor) := do
  let (chars, after) := cursor.takeWhile (isTagChar verbatim)
  guard (!head.isEmpty || !chars.isEmpty)
  let bytes ← tagBytes? (chars.length + 1) chars
  return ((Tag.ofString (String.ofList (head.drop 1)) ++ bytes).takeWhile (· ≠ 0), after)

/-- A tag: verbatim between angle brackets, or with a handle in front. -/
def tag? (cursor : Cursor) : Option (Token × Cursor) :=
  if cursor.sees '<' 1 then do
    let (suffix, after) ← tagSuffix? true [] (cursor.advance 2)
    guard (after.sees '>')
    return (.tag "" suffix, after.advance)
  else do
    let (handle, after) ← tagHandle? cursor
    if 1 < handle.length && handle.getLast? = some '!' then
      let (suffix, after) ← tagSuffix? false [] after
      return (.tag (String.ofList handle) suffix, after)
    else
      let (suffix, after) ← tagSuffix? false handle after
      if suffix.isEmpty then return (.tag "" (.ofString "!"), after)
      else return (.tag "!" suffix, after)

/-- A number in a version, of at most nine digits. -/
def versionNumber? (cursor : Cursor) : Option (Nat × Cursor) :=
  let (places, after) := cursor.takeWhile Char.isDigit
  if places.isEmpty || 9 < places.length then none else some (Json.digitsValue places, after)

/-- A directive, from behind the percent sign to the end of the line. -/
def directive? (cursor : Cursor) : Option (Token × Cursor) := do
  let (name, after) := cursor.takeWhile isWord
  guard after.seesGap
  let (token, after) ←
    match String.ofList name with
    | "YAML" => do
      let (major, after) ← versionNumber? (after.skipWhile isBlank)
      guard (after.sees '.')
      let (minor, after) ← versionNumber? after.advance
      pure (Token.versionDirective major minor, after)
    | "TAG" => do
      let (handle, after) ← tagHandle? (after.skipWhile isBlank)
      guard ((handle = ['!'] || handle.getLast? = some '!') && after.seesBlank)
      let (stem, after) ← tagSuffix? true [] (after.skipWhile isBlank)
      guard after.seesGap
      pure (Token.tagDirective (String.ofList handle) stem, after)
    | _ => none
  return (token, ← after.endLine?)

/-- The name after an anchor or alias indicator, and the place after it. -/
def anchorName? (cursor : Cursor) : Option (String × Cursor) :=
  let (name, after) := cursor.takeWhile isWord
  if name.isEmpty then none
  else if after.seesGap || after.peek.any (fun char => "?:,]\x7d%@\x60".toList.contains char) then
    some (String.ofList name, after)
  else none

/-- A token that ends all blocks and starts no key: a directive or a document marker. -/
def outside? (scanner : Scanner) : Option Scanner := do
  let scanner ← (scanner.closeBlocks (-1)).dropCandidate?
  return { scanner with keyAllowed := false }

/-- The start of a flow collection. -/
def flowStart? (scanner : Scanner) (token : Token) : Option Scanner := do
  let scanner ← scanner.noteCandidate?
  return ({ scanner with candidates := none :: scanner.candidates, keyAllowed := true }.advance).push token

/-- The end of a flow collection. -/
def flowEnd? (scanner : Scanner) (token : Token) : Option Scanner := do
  let scanner ← scanner.dropCandidate?
  let candidates := if scanner.inFlow then scanner.candidates.drop 1 else scanner.candidates
  return ({ scanner with candidates, keyAllowed := false }.advance).push token

/-- A comma between items. -/
def flowEntry? (scanner : Scanner) : Option Scanner := do
  let scanner ← scanner.dropCandidate?
  return ({ scanner with keyAllowed := true }.advance).push .flowEntry

/-- A dash in front of an item. -/
def blockEntry? (scanner : Scanner) : Option Scanner := do
  guard (scanner.inFlow || scanner.keyAllowed)
  let scanner ← (scanner.openBlock scanner.cursor.column none .blockSequenceStart).dropCandidate?
  return ({ scanner with keyAllowed := true }.advance).push .blockEntry

/-- A question mark in front of a key. -/
def keyIndicator? (scanner : Scanner) : Option Scanner := do
  guard (scanner.inFlow || scanner.keyAllowed)
  let scanner ← (scanner.openBlock scanner.cursor.column none .blockMappingStart).dropCandidate?
  return ({ scanner with keyAllowed := !scanner.inFlow }.advance).push .key

/-- A colon in front of a value. It makes a key of the open candidate, if there is one. -/
def valueIndicator? (scanner : Scanner) : Option Scanner :=
  match scanner.candidates with
  | some candidate :: outer =>
    let scanner := scanner.insertAt candidate.tokenIndex .key
    let scanner := scanner.openBlock candidate.column (some candidate.tokenIndex) .blockMappingStart
    some (({ scanner with candidates := none :: outer, keyAllowed := false }.advance).push .value)
  | _ => do
    guard (scanner.inFlow || scanner.keyAllowed)
    let scanner := scanner.openBlock scanner.cursor.column none .blockMappingStart
    return ({ scanner with keyAllowed := !scanner.inFlow }.advance).push .value

/-- An alias or an anchor. -/
def anchor? (scanner : Scanner) (token : String → Token) : Option Scanner := do
  let scanner ← scanner.noteCandidate?
  let (name, cursor) ← anchorName? scanner.cursor.advance
  return { scanner with keyAllowed := false, cursor }.push (token name)

/-- The tag of a node. A blank must follow it, or a comma inside a flow collection. -/
def nodeTag? (scanner : Scanner) : Option Scanner := do
  let scanner ← scanner.noteCandidate?
  let (token, cursor) ← tag? scanner.cursor
  guard ((scanner.inFlow && cursor.sees ',') || cursor.seesGap)
  return { scanner with keyAllowed := false, cursor }.push token

/-- A block scalar. A key may follow it. -/
def blockScalar? (fuel : Nat) (scanner : Scanner) (style : Style) : Option Scanner := do
  let scanner ← scanner.dropCandidate?
  let (text, cursor) ← Scalar.block? style scanner.indent fuel scanner.cursor.advance
  return { scanner with keyAllowed := true, cursor }.push (.scalar (String.ofList text) style)

/-- A quoted scalar. -/
def quotedScalar? (fuel : Nat) (scanner : Scanner) (single : Bool) : Option Scanner := do
  let scanner ← scanner.noteCandidate?
  let (text, cursor) ← Scalar.quoted? single (4 * fuel) scanner.cursor.advance
  return { scanner with keyAllowed := false, cursor }.push (.scalar (String.ofList text) .quoted)

/-- A plain scalar. A key may follow it if it ends with a line break. -/
def plainScalar? (fuel : Nat) (scanner : Scanner) : Option Scanner := do
  let scanner ← scanner.noteCandidate?
  let (text, broken, cursor) ← Scalar.plain? scanner.inFlow (scanner.indent + 1) fuel {} scanner.cursor
  return { scanner with keyAllowed := broken, cursor }.push (.scalar (String.ofList text) .plain)

/-- The indicators that no plain scalar starts with. -/
def indicators : List Char := "-?:,[]\x7b\x7d#&*!|>'\"%@\x60".toList

/-- Whether a plain scalar starts here. -/
def startsPlain (scanner : Scanner) (char : Char) : Bool :=
  (!isBlank char && !isBreak char && !indicators.contains char) ||
    (char = '-' && !(scanner.cursor.peek 1).any isBlank) ||
    (!scanner.inFlow && (char = '?' || char = ':') && !scanner.cursor.seesGap 1)

/-- The next token, at the place of the cursor. The fuel is more than the number of characters left. -/
def token? (fuel : Nat) (scanner : Scanner) (char : Char) : Option Scanner :=
  let cursor := scanner.cursor
  if cursor.column = 0 && char = '%' then do
    let scanner ← scanner.outside?
    let (token, cursor) ← directive? cursor.advance
    return { scanner with cursor }.push token
  else if cursor.seesMarker '-' then scanner.outside?.map fun scanner => (scanner.advance 3).push .documentStart
  else if cursor.seesMarker '.' then scanner.outside?.map fun scanner => (scanner.advance 3).push .documentEnd
  else if char = '[' then scanner.flowStart? .flowSequenceStart
  else if char = '\x7b' then scanner.flowStart? .flowMappingStart
  else if char = ']' then scanner.flowEnd? .flowSequenceEnd
  else if char = '\x7d' then scanner.flowEnd? .flowMappingEnd
  else if char = ',' then scanner.flowEntry?
  else if char = '-' && cursor.seesGap 1 then scanner.blockEntry?
  else if char = '?' && (scanner.inFlow || cursor.seesGap 1) then scanner.keyIndicator?
  else if char = ':' && (scanner.inFlow || cursor.seesGap 1) then scanner.valueIndicator?
  else if char = '*' then scanner.anchor? .alias
  else if char = '&' then scanner.anchor? .anchor
  else if char = '!' then scanner.nodeTag?
  else if char = '|' && !scanner.inFlow then scanner.blockScalar? fuel .literal
  else if char = '>' && !scanner.inFlow then scanner.blockScalar? fuel .folded
  else if char = '\'' then scanner.quotedScalar? fuel true
  else if char = '"' then scanner.quotedScalar? fuel false
  else if scanner.startsPlain char then scanner.plainScalar? fuel
  else none

/-- Scans to the end of the text. The fuel is more than the number of characters left: every token takes
one of them at least. -/
def run? (fuel : Nat) (scanner : Scanner) : Option Scanner :=
  match fuel with
  | 0 => none
  | fuel + 1 => do
    let scanner ← (scanner.skipToToken (fuel + 1)).dropStale?
    let scanner := scanner.closeBlocks scanner.cursor.column
    match scanner.cursor.peek with
    | none => scanner.streamEnd?
    | some char => run? fuel (← scanner.token? (fuel + 1) char)

end Scanner

/-- The tokens of a text, if it has only allowed characters and can be cut into tokens. Every token has a
character of its own, so the length is fuel enough. -/
def Token.scan? (source : String) : Option (List Token) :=
  let chars := source.toList
  if chars.all isAllowed then
    (Scanner.run? (chars.length + 1) { cursor := { rest := chars } }).map (·.tokens.toList)
  else none

end MeshControl.Yaml
