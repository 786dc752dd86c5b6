import MeshControl.Json.Parse

/-!
# What plain scalars stand for

The core schema of YAML 1.2 decides which plain scalars are null, truth values and numbers. Integers
are at most a machine word wide, with a wider range that is recognised but not supported; a decimal
fraction counts as a number only if it is finite in double precision.
-/

namespace MeshControl.Yaml.Core

/-- Whether a text is one of the spellings of null. The empty text is none of them. -/
def isNull (text : String) : Bool := ["null", "Null", "NULL", "~"].contains text

/-- The truth value that a text spells. -/
def bool? (text : String) : Option Bool :=
  if ["true", "True", "TRUE"].contains text then some true
  else if ["false", "False", "FALSE"].contains text then some false
  else none

/-- The value of a digit in a base of at most sixteen. -/
def digit? (base : Nat) (char : Char) : Option Nat :=
  (Json.hexValue? char).bind fun value => if value < base then some value else none

/-- The number that one digit or more write in a base, if it is below a limit. -/
def digits? (base limit : Nat) (chars : List Char) : Option Nat := do
  guard (!chars.isEmpty)
  let number ← chars.foldlM (fun number char => (digit? base char).map (number * base + ·)) 0
  if number < limit then some number else none

/-- Whether digits start with a superfluous zero; such a text is no number. -/
def hasLeadingZero (chars : List Char) : Bool :=
  let unsigned := match chars with
    | '-' :: rest | '+' :: rest => rest
    | chars => chars
  match unsigned with
  | '0' :: rest => !rest.isEmpty && rest.all Char.isDigit
  | _ => false

/-- The number that digits with an optional mark of their base write. -/
def magnitude? (limit : Nat) (chars : List Char) : Option Nat :=
  match chars with
  | '0' :: 'x' :: rest => digits? 16 limit rest
  | '0' :: 'o' :: rest => digits? 8 limit rest
  | '0' :: 'b' :: rest => digits? 2 limit rest
  | chars => if hasLeadingZero chars then none else digits? 10 limit chars

/-- The integer without minus sign that a text writes, if it is below a limit. -/
def unsigned? (limit : Nat) (text : String) : Option Nat :=
  match text.toList with
  | '+' :: rest => magnitude? limit rest
  | chars => magnitude? limit chars

/-- The magnitude of the integer with minus sign that a text writes, if it is at most a limit. -/
def negated? (limit : Nat) (text : String) : Option Nat :=
  match text.toList with
  | '-' :: rest => magnitude? (limit + 1) rest
  | _ => none

/-- A natural number of at most sixty-four bits. -/
def natural? (text : String) : Option Nat := unsigned? (Nat.pow 2 64) text

/-- Whether mantissa times a power of ten is finite in double precision, rounding to nearest. The first
number that is not is halfway between the greatest double and the next power of two. -/
def isFinite (mantissa : Nat) (exponent : Int) : Bool :=
  let width : Int := (Nat.toDigits 10 mantissa).length
  if mantissa = 0 || width + exponent < 308 then true
  else if 310 < width + exponent then false
  else
    let limit := (Nat.pow 2 54 - 1) * Nat.pow 2 970
    if 0 ≤ exponent then mantissa * Nat.pow 10 exponent.toNat < limit
    else mantissa < limit * Nat.pow 10 (-exponent).toNat

/-- The exponent behind the digits of a decimal fraction; none means zero. -/
def exponent? : List Char → Option Int
  | [] => some 0
  | mark :: rest =>
    if mark ≠ 'e' ∧ mark ≠ 'E' then none
    else
      let (negative, places) := match rest with
        | '-' :: rest => (true, rest)
        | '+' :: rest => (false, rest)
        | rest => (false, rest)
      if places.isEmpty || !places.all Char.isDigit then none
      else
        let magnitude : Int := Json.digitsValue places
        some (if negative then -magnitude else magnitude)

/-- Whether characters write a finite decimal fraction, without a plus sign in front. -/
def isDecimal (chars : List Char) : Bool :=
  let unsigned := match chars with
    | '-' :: rest => rest
    | chars => chars
  let (whole, rest) := Json.digits unsigned
  let (places, rest) := match rest with
    | '.' :: rest => Json.digits rest
    | rest => ([], rest)
  if whole.isEmpty && places.isEmpty then false
  else
    match exponent? rest with
    | none => false
    | some exponent => isFinite (Json.digitsValue (whole ++ places)) (exponent - places.length)

/-- Whether a text writes a fraction, infinity, or a value that is no number. -/
def isFloat (text : String) : Bool :=
  let named := [".inf", ".Inf", ".INF", "+.inf", "+.Inf", "+.INF", "-.inf", "-.Inf", "-.INF", ".nan", ".NaN", ".NAN"]
  if named.contains text then true
  else
    match text.toList with
    | '+' :: '+' :: _ | '+' :: '-' :: _ => false
    | '+' :: rest => isDecimal rest
    | chars => isDecimal chars

/-- What a plain scalar stands for. -/
inductive Meaning where
  | null
  | bool (value : Bool)
  | natural (value : Nat)
  /-- A number that is not natural. -/
  | number
  /-- An integer that is too wide to be supported. -/
  | unsupported
  | text
  deriving DecidableEq, Repr, Inhabited

/-- The meaning of a plain scalar. -/
def meaning (text : String) : Meaning :=
  if text.isEmpty || isNull text then .null
  else
    match bool? text with
    | some value => .bool value
    | none =>
      match natural? text with
      | some value => .natural value
      | none =>
        if (negated? (Nat.pow 2 63) text).isSome then .number
        else if (unsigned? (Nat.pow 2 128) text).isSome || (negated? (Nat.pow 2 127) text).isSome then .unsupported
        else if !hasLeadingZero text.toList && isFloat text then .number
        else .text

end MeshControl.Yaml.Core
