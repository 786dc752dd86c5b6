import MeshControl.Reading.Held

/-!
# Reading typed values from JSON

A JSON value answers a reader by its own type only: a number is no text, and null stands for nothing
but absence. There are no references in it, so reading needs no budget.
-/

namespace MeshControl.Json

open Reading

/-- The text of a string. -/
def readText : Reads Json String
  | .text value => return value
  | _ => throw .invalid

/-- The truth value of `true` and `false`. -/
def readBool : Reads Json Bool
  | .bool value => return value
  | _ => throw .invalid

/-- A number without sign, fraction and exponent. -/
def readNatural : Reads Json Nat
  | .natural value => return value
  | _ => throw .invalid

/-- The items of a list. -/
def readList : Reads Json (List Json)
  | .list items => return items
  | _ => throw .invalid

/-- The fields of an object. -/
def readFields : Reads Json (List (String × Json))
  | .object fields => return fields
  | _ => throw .invalid

/-- The fields of an object, or the items of a list. -/
def readParts : Reads Json (Parts Json)
  | .object fields => return .named fields
  | .list items => return .inOrder items
  | _ => throw .invalid

/-- Anything but null. -/
def readPresent : Reads Json (Option Json)
  | .null => return none
  | value => return some value

/-- A bare name, or an object with one field. -/
def readConstant : Reads Json (String × Option Json)
  | .text name => return (name, none)
  | .object [(name, content)] => return (name, some content)
  | _ => throw .invalid

/-- Only null holds nothing. -/
def readNothing : Reads Json Unit
  | .null => return ()
  | _ => throw .invalid

/-- A bare name, or an object with at least one field. -/
def readKeyed : Reads Json (KeyedChoice Json)
  | .text name => return ⟨name, none, false⟩
  | .object ((name, content) :: more) => return ⟨name, some content, !more.isEmpty⟩
  | _ => throw .invalid

instance : Readable Json where
  text := readText
  bool := readBool
  natural := readNatural
  list := readList
  parts _ := readParts
  entries := readFields
  present := readPresent
  constant _ := readConstant
  nothing := readNothing
  keyed := readKeyed

mutual

/-- The meaning of a value on its own. -/
def held : Json → Held
  | .null => .null
  | .bool value => .bool value
  | .natural value => .natural value
  | .number _ => .other
  | .broken => .other
  | .text value => .text value
  | .list items => .list (heldItems items)
  | .object fields => .map (heldFields fields)

/-- The meanings of items. -/
def heldItems : List Json → List Held
  | [] => []
  | item :: items => held item :: heldItems items

/-- The meanings of fields. -/
def heldFields : List (String × Json) → List (Held × Held)
  | [] => []
  | (name, value) :: fields => (.text name, held value) :: heldFields fields

end

/-- Reads an object one of whose fields names its kind. The kind is wanted before anything else, and
decides what the other fields are read as. -/
def readKind {α : Type} (field : String) (alternatives : List (String × Fields Held α)) : Reads Json α
  | .object fields => do
    let kind ← ofEntries (required field readText) fields
    alternative alternatives kind (.map (heldFields (fields.filter (·.1 ≠ field))))
  | .list (kind :: items) => do alternative alternatives (← readText kind) (.list (heldItems items))
  | .list [] => throw (.missingField field)
  | _ => throw .invalid

/-- What a value holds. -/
def decode {α : Type} (read : Reads Json α) (value : Json) : Except ReadError α := read.within 0 value

end MeshControl.Json
