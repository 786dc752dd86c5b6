import MeshControl.Reading

/-!
# Values held until their kind is known

An object that names its own kind is read in two steps. First its fields are held, each with the
meaning that it has on its own; then the kind decides what they are read as. A held value answers a
reader by its own type only, whatever text it comes from.
-/

namespace MeshControl.Reading

/-- A value with the meaning that it has on its own. -/
inductive Held where
  | null
  | bool (value : Bool)
  | natural (value : Nat)
  /-- Something that no reader wants, such as a number that is not natural. -/
  | other
  | text (value : String)
  | list (items : List Held)
  | map (entries : List (Held × Held))
  deriving Inhabited

namespace Held

/-- The text of a string. -/
def readText : Reads Held String
  | .text value => return value
  | _ => throw .invalid

/-- The items of a list. -/
def readList : Reads Held (List Held)
  | .list items => return items
  | _ => throw .invalid

/-- The parts of a record. A number as a key names the field at its index among the names, and nothing
else but text can be a key. -/
def readParts (names : List String) : Reads Held (Parts Held)
  | .map entries => .named <$> entries.mapM fun entry =>
    match entry.1 with
    | .text name => return (name, entry.2)
    | .natural index => return ((names[index]?).getD "", entry.2)
    | _ => throw .invalid
  | .list items => return .inOrder items
  | _ => throw .invalid

/-- The entries of a map from text. -/
def readEntries : Reads Held (List (String × Held))
  | .map entries => entries.mapM fun entry => do return (← readText entry.1, entry.2)
  | _ => throw .invalid

/-- Anything but null. -/
def readPresent : Reads Held (Option Held)
  | .null => return none
  | value => return some value

/-- A bare name, or a map with one entry, whose key may also be an index among the names. -/
def readConstant (names : List String) : Reads Held (String × Option Held)
  | .text name => return (name, none)
  | .map [(.text name, content)] => return (name, some content)
  | .map [(.natural index, content)] =>
    match names[index]? with
    | some name => return (name, some content)
    | none => throw .invalid
  | _ => throw .invalid

/-- Null and the empty map hold nothing. -/
def readNothing : Reads Held Unit
  | .null | .map [] => return ()
  | _ => throw .invalid

/-- A bare name, or a map with at least one entry. -/
def readKeyed : Reads Held (KeyedChoice Held)
  | .text name => return ⟨name, none, false⟩
  | .map ((name, content) :: more) => do return ⟨← readText name, some content, !more.isEmpty⟩
  | _ => throw .invalid

instance : Readable Held where
  text := readText
  bool value := match value with
    | .bool value => return value
    | _ => throw .invalid
  natural value := match value with
    | .natural value => return value
    | _ => throw .invalid
  list := readList
  parts := readParts
  entries := readEntries
  present := readPresent
  constant := readConstant
  nothing := readNothing
  keyed := readKeyed

end Held

variable {ν α : Type}

/-- Reads the fields of an alternative by its name. -/
def alternative (alternatives : List (String × Fields Held α)) (name : String) (held : Held) : Attempt α :=
  match alternatives.lookup name with
  | none => throw (.unknownVariant name (alternatives.map (·.1)))
  | some fields => record fields held

end MeshControl.Reading
