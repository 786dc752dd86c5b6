import MeshControl.SortedMap

/-!
# JSON values and their compact text

A value keeps the order of its object fields and every repetition of a field, because a reader may
have to refuse one. A text may write a value that Unicode text cannot hold; it counts as `Json.broken`,
which a reader refuses where it looks and passes over where it does not. `Json.render` writes a value
without spaces; `Json.pretty` writes it over several lines with two spaces of indentation per level.
-/

namespace MeshControl

/-- A JSON value. -/
inductive Json where
  | null
  | bool (value : Bool)
  /-- A number without sign, fraction and exponent. -/
  | natural (value : Nat)
  /-- Any other number, as it is written. -/
  | number (literal : String)
  | text (value : String)
  | list (items : List Json)
  /-- Fields in the order in which they are written. -/
  | object (fields : List (String × Json))
  /-- A string, or an object with a field name, that contains half of a surrogate pair. -/
  | broken
  deriving Inhabited

namespace Json

/-- The lower-case hexadecimal digit of a number below sixteen. -/
def hexDigit (digit : Nat) : Char :=
  if digit < 10 then Char.ofNat ('0'.toNat + digit) else Char.ofNat ('a'.toNat + (digit - 10))

/-- How a character stands inside a string literal: quotation mark, backslash and control characters
are escaped, all else stands for itself. -/
def escape (char : Char) : List Char :=
  if char = '"' then ['\\', '"']
  else if char = '\\' then ['\\', '\\']
  else if char = '\n' then ['\\', 'n']
  else if char = '\t' then ['\\', 't']
  else if char = '\r' then ['\\', 'r']
  else if char = '\x08' then ['\\', 'b']
  else if char = '\x0c' then ['\\', 'f']
  else if char.toNat < 32 then
    ['\\', 'u', '0', '0', hexDigit (char.toNat / 16), hexDigit (char.toNat % 16)]
  else [char]

/-- A string literal with its quotation marks. -/
def quote (value : String) : List Char := '"' :: (value.toList.flatMap escape ++ ['"'])

mutual

/-- The compact text of a value as characters. What no text can hold is written as null. -/
def render : Json → List Char
  | .null | .broken => ['n', 'u', 'l', 'l']
  | .bool true => ['t', 'r', 'u', 'e']
  | .bool false => ['f', 'a', 'l', 's', 'e']
  | .natural value => (toString value).toList
  | .number literal => literal.toList
  | .text value => quote value
  | .list [] => ['[', ']']
  | .list (item :: items) => '[' :: (render item ++ renderItems items)
  | .object [] => ['{', '}']
  | .object ((name, value) :: fields) => '{' :: (quote name ++ ':' :: (render value ++ renderFields fields))

/-- The items after the first one, up to the closing bracket. -/
def renderItems : List Json → List Char
  | [] => [']']
  | item :: items => ',' :: (render item ++ renderItems items)

/-- The fields after the first one, up to the closing brace. -/
def renderFields : List (String × Json) → List Char
  | [] => ['}']
  | (name, value) :: fields => ',' :: (quote name ++ ':' :: (render value ++ renderFields fields))

end

/-- The compact text of a value. -/
def compact (value : Json) : String := String.ofList (render value)

mutual

/-- The text of a value over several lines, its first line without indentation. -/
def prettyAt (indent : String) : Json → String
  | .list [] => "[]"
  | .list (item :: items) =>
    let inner := indent ++ "  "
    "[\n" ++ inner ++ prettyAt inner item ++ prettyItems inner items ++ "\n" ++ indent ++ "]"
  | .object [] => "\x7b\x7d"
  | .object ((name, value) :: fields) =>
    let inner := indent ++ "  "
    "\x7b\n" ++ inner ++ String.ofList (quote name) ++ ": " ++ prettyAt inner value ++
      prettyFields inner fields ++ "\n" ++ indent ++ "\x7d"
  | .null | .broken => "null"
  | .bool value => if value then "true" else "false"
  | .natural value => toString value
  | .number literal => literal
  | .text value => String.ofList (quote value)

/-- The items after the first one, each on a line of its own. -/
def prettyItems (indent : String) : List Json → String
  | [] => ""
  | item :: items => ",\n" ++ indent ++ prettyAt indent item ++ prettyItems indent items

/-- The fields after the first one, each on a line of its own. -/
def prettyFields (indent : String) : List (String × Json) → String
  | [] => ""
  | (name, value) :: fields =>
    ",\n" ++ indent ++ String.ofList (quote name) ++ ": " ++ prettyAt indent value ++ prettyFields indent fields

end

/-- The text of a value over several lines. -/
def pretty (value : Json) : String := prettyAt "" value

/-- The value of the last field with a given name, if the value is an object with such a field. -/
def field? (name : String) : Json → Option Json
  | .object fields => (fields.reverse.find? fun field => field.1 == name).map (·.2)
  | _ => none

mutual

/-- The value with the fields of every object in key order; of repeated fields the last one stays. -/
def normalize : Json → Json
  | .list items => .list (normalizeItems items)
  | .object fields => .object (SortedMap.ofList (normalizeFields fields)).entries
  | .null => .null
  | .broken => .broken
  | .bool value => .bool value
  | .natural value => .natural value
  | .number literal => .number literal
  | .text value => .text value

/-- Items with the fields of every object in key order. -/
def normalizeItems : List Json → List Json
  | [] => []
  | item :: items => normalize item :: normalizeItems items

/-- Fields whose values have the fields of every object in key order. -/
def normalizeFields : List (String × Json) → List (String × Json)
  | [] => []
  | (name, value) :: fields => (name, normalize value) :: normalizeFields fields

end

/-- A list of texts. -/
def texts (values : List String) : Json := .list (values.map .text)

/-- A map as an object, its fields in key order. -/
def ofMap {α : Type} (write : α → Json) (map : TextMap α) : Json :=
  .object (map.entries.map fun entry => (entry.1, write entry.2))

/-- Labels as an object. -/
def ofLabels (labels : Labels) : Json := ofMap .text labels

/-- A field that is left out when its value is empty. -/
def fieldUnless (empty : Bool) (name : String) (value : Json) : List (String × Json) :=
  if empty then [] else [(name, value)]

/-- A field that is left out when there is no value. -/
def fieldOf? {α : Type} (name : String) (write : α → Json) : Option α → List (String × Json)
  | none => []
  | some value => [(name, write value)]

/-- A value, or null when there is none. -/
def orNull {α : Type} (write : α → Json) : Option α → Json
  | none => .null
  | some value => write value

end Json

end MeshControl
