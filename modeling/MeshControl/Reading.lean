import MeshControl.Json

/-!
# Reading typed values

Values of this library are read from JSON values and from YAML nodes by the same descriptions. A
format says how its values answer the questions of `Readable`; a description is built from
`Fields`, one per field of a record, in the order of declaration.

When several things are wrong, the earliest entry of an object decides which error is reported;
missing fields come after all entries and are reported in the order of declaration.

A format may share values by references. An attempt to read has a budget of references that it may
follow, so that a short text cannot stand for an enormous value.
-/

namespace MeshControl

/-- Why a value cannot be read. -/
inductive ReadError where
  /-- A required field is absent. -/
  | missingField (name : String)
  /-- A choice has a name that is not among the possible ones. -/
  | unknownVariant (name : String) (expected : List String)
  /-- The value has the wrong form, or takes too many references to read. -/
  | invalid
  deriving DecidableEq, Repr, Inhabited

/-- The wording of a list of possible names: two are joined by "or", more stand after "one of". -/
def ReadError.choices : List String → String
  | [] => "there are no variants"
  | [only] => "expected `" ++ only ++ "`"
  | [first, second] => "expected `" ++ first ++ "` or `" ++ second ++ "`"
  | names => "expected one of " ++ ", ".intercalate (names.map fun name => "`" ++ name ++ "`")

/-- The wording of an error, where it has one. -/
def ReadError.message? : ReadError → Option String
  | .missingField name => some ("missing field `" ++ name ++ "`")
  | .unknownVariant name expected =>
    some ("unknown variant `" ++ name ++ "`, " ++ ReadError.choices expected)
  | .invalid => none

/-- An attempt to read. Its state is the number of references that may still be followed. -/
abbrev Attempt (α : Type) := StateT Nat (Except ReadError) α

/-- Follows a reference, if the budget allows one more. -/
def Attempt.follow : Attempt Unit := fun budget =>
  match budget with
  | 0 => .error .invalid
  | left + 1 => .ok ((), left)

/-- A way of reading values of one type from values of a format. -/
abbrev Reads (ν α : Type) := ν → Attempt α

/-- What a value holds, if it takes no more references to read than the budget allows. -/
def Reads.within {ν α : Type} (read : Reads ν α) (budget : Nat) (value : ν) : Except ReadError α :=
  (read value).run' budget

/-- A one-entry object taken as a choice: the entry's name and value, and whether more entries follow. -/
structure KeyedChoice (ν : Type) where
  name : String
  /-- The value of the entry; a bare name has none. -/
  content : Option ν
  more : Bool

/-- The parts of a record: values with the names of their fields, with repetitions, or bare values in
the order of declaration. -/
inductive Parts (ν : Type) where
  | named (entries : List (String × ν))
  | inOrder (items : List ν)

/-- How the values of a format answer a reader. -/
class Readable (ν : Type) where
  text : Reads ν String
  bool : Reads ν Bool
  natural : Reads ν Nat
  list : Reads ν (List ν)
  /-- The parts of a record with fields of the given names. -/
  parts : List String → Reads ν (Parts ν)
  /-- The entries of a map from text in order, with repetitions. -/
  entries : Reads ν (List (String × ν))
  /-- The value, with its reference followed, unless it stands for the absence of one. -/
  present : Reads ν (Option ν)
  /-- The name that selects one of the named constants, and the content that comes with it, if any. -/
  constant : List String → Reads ν (String × Option ν)
  /-- Succeeds on what may stand as the content of a constant. -/
  nothing : Reads ν Unit
  /-- A choice written as an object with one entry. -/
  keyed : Reads ν (KeyedChoice ν)

namespace Reading

variable {ν α β : Type}

/-- An error and the index of the entry that caused it. -/
structure Misread where
  position : Nat
  error : ReadError

/-- An attempt to read fields. -/
abbrev FieldAttempt (α : Type) := StateT Nat (Except Misread) α

/-- An attempt to read the entry with a given index. -/
def placed (position : Nat) (attempt : Attempt α) : FieldAttempt α := fun budget =>
  (attempt budget).mapError fun error => ⟨position, error⟩

/-- A description of fields read from the entries of an object. -/
structure Fields (ν α : Type) where
  /-- The names of the fields in the order of declaration. -/
  names : List String
  run : List (String × ν) → FieldAttempt α

/-- The earlier of two errors; of errors at one place the first. -/
def Misread.earlier (first second : Misread) : Misread :=
  if second.position < first.position then second else first

/-- Both descriptions must succeed; if both fail, the earlier error is reported. -/
def Fields.both (first : Fields ν (α → β)) (second : Fields ν α) : Fields ν β where
  names := first.names ++ second.names
  run entries budget :=
    match first.run entries budget with
    | .ok (apply, left) => (second.run entries left).map fun result => (apply result.1, result.2)
    | .error misread =>
      match second.run entries budget with
      | .ok _ => .error misread
      | .error other => .error (misread.earlier other)

instance : Applicative (Fields ν) where
  pure value := ⟨[], fun _ => pure value⟩
  seq first second := first.both (second ())

/-- The entries with a given name, with their positions. -/
def occurrences (name : String) (entries : List (String × ν)) : List (Nat × ν) :=
  entries.zipIdx.filterMap fun entry => if entry.1.1 = name then some (entry.2, entry.1.2) else none

/-- Reads the only entry with a given name; a second one is an error at its own place. -/
def single (name : String) (read : Reads ν α) (entries : List (String × ν)) : FieldAttempt (Option α) :=
  match occurrences name entries with
  | [] => pure none
  | (position, value) :: later => do
    let value ← placed position (read value)
    match later with
    | [] => return some value
    | (position, _) :: _ => throw ⟨position, .invalid⟩

/-- A field that must be there. -/
def required (name : String) (read : Reads ν α) : Fields ν α where
  names := [name]
  run entries := do
    match ← single name read entries with
    | some value => return value
    | none => throw ⟨entries.length, .missingField name⟩

/-- A field with a value of its own when it is absent. -/
def withDefault (name : String) (default : α) (read : Reads ν α) : Fields ν α where
  names := [name]
  run entries := do return (← single name read entries).getD default

/-- A value that may stand for absence. -/
def optional [Readable ν] (read : Reads ν α) : Reads ν (Option α) := fun value => do
  match ← Readable.present value with
  | none => return none
  | some value => return some (← read value)

/-- A field that may be absent in either way. -/
def optionalField [Readable ν] (name : String) (read : Reads ν α) : Fields ν (Option α) :=
  withDefault name none (optional read)

/-- A field of a lenient record: it may be absent in either way, and of repeated entries, which must
all be readable, the last one counts. -/
def lenient [Readable ν] (name : String) (read : Reads ν α) : Fields ν (Option α) where
  names := [name]
  run entries := (occurrences name entries).foldlM
    (fun _ occurrence => placed occurrence.1 (optional read occurrence.2)) none

/-- Reads fields from bare values in the order of declaration. Values may only be missing at the end,
where they have a default, and there may not be more values than fields. -/
def ofItems (fields : Fields ν α) (items : List ν) : Attempt α := fun budget =>
  match fields.run (fields.names.zip items) budget with
  | .error misread => .error (if misread.position < items.length then misread.error else .invalid)
  | .ok result => if fields.names.length < items.length then .error .invalid else .ok result

/-- Reads fields from named entries. Other entries are ignored. -/
def ofEntries (fields : Fields ν α) (entries : List (String × ν)) : Attempt α := fun budget =>
  (fields.run entries budget).mapError (·.error)

/-- Reads the fields of a record. -/
def record [Readable ν] (fields : Fields ν α) : Reads ν α := fun value => do
  match ← Readable.parts fields.names value with
  | .named entries => ofEntries fields entries
  | .inOrder items => ofItems fields items

/-- Reads the fields of a record that cannot be written as bare values. -/
def namedRecord [Readable ν] (fields : Fields ν α) : Reads ν α := fun value => do
  match ← Readable.parts fields.names value with
  | .named entries => ofEntries fields entries
  | .inOrder _ => throw .invalid

/-- A list, item by item. -/
def listOf [Readable ν] (read : Reads ν α) : Reads ν (List α) := fun value => do
  (← Readable.list value).mapM read

/-- A map from text; of repeated keys the last one counts. -/
def mapOf [Readable ν] (read : Reads ν α) : Reads ν (TextMap α) := fun value => do
  let entries ← (← Readable.entries value).mapM fun entry => do return (entry.1, ← read entry.2)
  return SortedMap.ofList entries

/-- Labels and other maps from text to text. -/
def labelMap [Readable ν] : Reads ν Labels := mapOf Readable.text

/-- An integer of sixteen bits without sign. -/
def word16 [Readable ν] : Reads ν UInt16 := fun value => do
  let number ← Readable.natural value
  if number < 65536 then return .ofNat number else throw .invalid

/-- One of several named constants, which come without content. Any other name stands for the constant
given for it, if there is one. -/
def constantOr [Readable ν] (names : List (String × α)) (other : Option α) : Reads ν α := fun value => do
  let (name, content) ← Readable.constant (names.map (·.1)) value
  match names.lookup name <|> other with
  | none => throw (.unknownVariant name (names.map (·.1)))
  | some constant =>
    if let some content := content then Readable.nothing content
    return constant

/-- One of several named constants, which come without content. -/
def constantOf [Readable ν] (names : List (String × α)) : Reads ν α := constantOr names none

/-- One of several alternatives, written as an object with one entry named for the alternative. -/
def keyedOf [Readable ν] (alternatives : List (String × Reads ν α)) : Reads ν α := fun value => do
  let choice ← Readable.keyed value
  match alternatives.lookup choice.name with
  | none => throw (.unknownVariant choice.name (alternatives.map (·.1)))
  | some read =>
    match choice.content with
    | none => throw .invalid
    | some content =>
      let result ← read content
      if choice.more then throw .invalid else return result

end Reading

end MeshControl
