import MeshControl.Json

/-!
# Reading JSON text

`Json.parse` accepts exactly one value between white space. Each function below takes characters
and answers what it has read together with the characters after it. Numbers follow the grammar of
the format and strings must escape control characters. A surrogate escape that is not half of a pair
is read, but leaves its string, or the object whose field name it is in, without a value.
-/

namespace MeshControl.Json

/-- White space between tokens. -/
def isSpace (char : Char) : Bool := char = ' ' || char = '\n' || char = '\t' || char = '\r'

/-- What follows white space. -/
def skipSpace (chars : List Char) : List Char := chars.dropWhile isSpace

/-- The value of a hexadecimal digit. -/
def hexValue? (char : Char) : Option Nat :=
  if '0' ≤ char ∧ char ≤ '9' then some (char.toNat - '0'.toNat)
  else if 'a' ≤ char ∧ char ≤ 'f' then some (char.toNat - 'a'.toNat + 10)
  else if 'A' ≤ char ∧ char ≤ 'F' then some (char.toNat - 'A'.toNat + 10)
  else none

/-- The number that four hexadecimal digits write. -/
def codeUnit? (first second third fourth : Char) : Option Nat := do
  let first ← hexValue? first
  let second ← hexValue? second
  let third ← hexValue? third
  let fourth ← hexValue? fourth
  return ((first * 16 + second) * 16 + third) * 16 + fourth

/-- The character that a backslash with this letter stands for. -/
def unescape? (letter : Char) : Option Char :=
  match letter with
  | '"' => some '"'
  | '\\' => some '\\'
  | '/' => some '/'
  | 'b' => some '\x08'
  | 'f' => some '\x0c'
  | 'n' => some '\n'
  | 'r' => some '\r'
  | 't' => some '\t'
  | _ => none

/-- Whether a code unit is the first half of a surrogate pair. -/
def isHighSurrogate (unit : Nat) : Bool := 0xD800 ≤ unit && unit < 0xDC00

/-- Whether a code unit is the second half of a surrogate pair. -/
def isLowSurrogate (unit : Nat) : Bool := 0xDC00 ≤ unit && unit < 0xE000

/-- The character of a surrogate pair. -/
def surrogatePair (high low : Nat) : Char :=
  Char.ofNat (0x10000 + (high - 0xD800) * 0x400 + (low - 0xDC00))

/-- A piece of a string literal. -/
inductive Piece where
  | char (char : Char)
  /-- An escaped code unit, which may be half of a surrogate pair. -/
  | unit (unit : Nat)
  deriving DecidableEq, Repr

/-- The rest of a string literal up to its closing quotation mark. -/
def literal? : List Char → Option (List Piece × List Char)
  | [] => none
  | '"' :: rest => some ([], rest)
  | '\\' :: 'u' :: first :: second :: third :: fourth :: rest =>
    match codeUnit? first second third fourth with
    | none => none
    | some unit => (literal? rest).map fun (pieces, rest) => (.unit unit :: pieces, rest)
  | '\\' :: letter :: rest =>
    match unescape? letter with
    | none => none
    | some char => (literal? rest).map fun (pieces, rest) => (.char char :: pieces, rest)
  | char :: rest =>
    if char.toNat < 32 ∨ char = '\\' then none
    else (literal? rest).map fun (pieces, rest) => (.char char :: pieces, rest)

/-- The characters that pieces write. Half of a surrogate pair writes none. -/
def joined? : List Piece → Option (List Char)
  | [] => some []
  | .char char :: pieces => (joined? pieces).map (char :: ·)
  | .unit high :: .unit low :: pieces =>
    if isHighSurrogate high then
      if isLowSurrogate low then (joined? pieces).map (surrogatePair high low :: ·) else none
    else if isLowSurrogate high then none
    else (joined? (.unit low :: pieces)).map (Char.ofNat high :: ·)
  | .unit unit :: pieces =>
    if isHighSurrogate unit || isLowSurrogate unit then none
    else (joined? pieces).map (Char.ofNat unit :: ·)

/-- The value of a string literal. -/
def ofLiteral (pieces : List Piece) : Json :=
  match joined? pieces with
  | some chars => .text (String.ofList chars)
  | none => .broken

/-- The object with some fields, if every field has a name. -/
def ofFields (fields : List (List Piece × Json)) : Json :=
  match fields.mapM fun field => (joined? field.1).map fun name => (String.ofList name, field.2) with
  | some fields => .object fields
  | none => .broken

/-- The digits at the front of some characters, and what follows them. -/
def digits (chars : List Char) : List Char × List Char :=
  (chars.takeWhile Char.isDigit, chars.dropWhile Char.isDigit)

/-- The fraction of a number, which may be missing. -/
def fraction? : List Char → Option (List Char × List Char)
  | '.' :: rest =>
    let (places, rest) := digits rest
    if places.isEmpty then none else some ('.' :: places, rest)
  | rest => some ([], rest)

/-- The exponent of a number, which may be missing. -/
def exponent? (chars : List Char) : Option (List Char × List Char) :=
  match chars with
  | mark :: rest =>
    if mark = 'e' ∨ mark = 'E' then
      let sign := rest.takeWhile (fun char => char = '+' || char = '-') |>.take 1
      let (places, rest) := digits (rest.drop sign.length)
      if places.isEmpty then none else some (mark :: (sign ++ places), rest)
    else some ([], chars)
  | [] => some ([], [])

/-- The number that decimal digits write. -/
def digitsValue (places : List Char) : Nat :=
  places.foldl (fun value place => value * 10 + (place.toNat - '0'.toNat)) 0

/-- A number. It has no leading zeros; without sign, fraction and exponent it is natural. -/
def number? (chars : List Char) : Option (Json × List Char) := do
  let sign := chars.takeWhile (· = '-') |>.take 1
  let (whole, rest) := digits (chars.drop sign.length)
  guard (!whole.isEmpty && (whole.length = 1 || whole.head? != some '0'))
  let (fraction, rest) ← fraction? rest
  let (exponent, rest) ← exponent? rest
  let value := if sign.isEmpty && fraction.isEmpty && exponent.isEmpty then .natural (digitsValue whole)
    else .number (String.ofList (sign ++ whole ++ fraction ++ exponent))
  return (value, rest)

mutual

/-- A value, after white space. The fuel bounds the number of nested calls. -/
def value? (fuel : Nat) (chars : List Char) : Option (Json × List Char) :=
  match fuel with
  | 0 => none
  | fuel + 1 =>
    match skipSpace chars with
    | 'n' :: 'u' :: 'l' :: 'l' :: rest => some (.null, rest)
    | 't' :: 'r' :: 'u' :: 'e' :: rest => some (.bool true, rest)
    | 'f' :: 'a' :: 'l' :: 's' :: 'e' :: rest => some (.bool false, rest)
    | '"' :: rest => (literal? rest).map fun (pieces, rest) => (ofLiteral pieces, rest)
    | '[' :: rest =>
      match skipSpace rest with
      | ']' :: rest => some (.list [], rest)
      | rest => do
        let (item, rest) ← value? fuel rest
        let (items, rest) ← items? fuel rest
        return (.list (item :: items), rest)
    | '{' :: rest =>
      match skipSpace rest with
      | '}' :: rest => some (.object [], rest)
      | rest => do
        let (field, rest) ← namedValue? fuel rest
        let (fields, rest) ← fields? fuel rest
        return (ofFields (field :: fields), rest)
    | chars => number? chars

/-- The items after the first one, up to the closing bracket. -/
def items? (fuel : Nat) (chars : List Char) : Option (List Json × List Char) :=
  match fuel with
  | 0 => none
  | fuel + 1 =>
    match skipSpace chars with
    | ']' :: rest => some ([], rest)
    | ',' :: rest => do
      let (item, rest) ← value? fuel rest
      let (items, rest) ← items? fuel rest
      return (item :: items, rest)
    | _ => none

/-- One field of an object: its name, a colon and its value. -/
def namedValue? (fuel : Nat) (chars : List Char) : Option ((List Piece × Json) × List Char) :=
  match fuel with
  | 0 => none
  | fuel + 1 =>
    match skipSpace chars with
    | '"' :: rest => do
      let (name, rest) ← literal? rest
      match skipSpace rest with
      | ':' :: rest =>
        let (value, rest) ← value? fuel rest
        return ((name, value), rest)
      | _ => none
    | _ => none

/-- The fields after the first one, up to the closing brace. -/
def fields? (fuel : Nat) (chars : List Char) :
    Option (List (List Piece × Json) × List Char) :=
  match fuel with
  | 0 => none
  | fuel + 1 =>
    match skipSpace chars with
    | '}' :: rest => some ([], rest)
    | ',' :: rest => do
      let (field, rest) ← namedValue? fuel rest
      let (fields, rest) ← fields? fuel rest
      return (field :: fields, rest)
    | _ => none

end

/-- The value that a text writes, if the text is one JSON value between white space. Every call
consumes a character or is followed by one that does, so twice the length is fuel enough. -/
def parse? (source : String) : Option Json :=
  let chars := source.toList
  match value? (2 * chars.length + 2) chars with
  | some (value, rest) => if (skipSpace rest).isEmpty then some value else none
  | none => none

end MeshControl.Json
