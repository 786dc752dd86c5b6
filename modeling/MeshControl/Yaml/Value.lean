import MeshControl.Reading.Held
import MeshControl.Yaml.Node
import MeshControl.Yaml.Core

/-!
# YAML nodes as values

Typed values are read from a document in two ways. A `View` is a node that the wanted type looks at:
a plain scalar is text where text is wanted, and a missing node is an empty record, list or map.
`View.held` gives scalars the meaning that they have on their own, so that they can be read like JSON.
Every alias on the way is a reference that takes from the budget; what is ignored takes nothing.
-/

namespace MeshControl.Yaml

open Reading

/-- A node together with the document that resolves its aliases. -/
structure View where
  document : Document
  node : Node
  deriving Inhabited

/-- The text behind the exclamation mark of a local tag, which names a variant. A lone mark names itself;
other tags, and bytes that are no text, name none. -/
def localTag? (tag : Option Tag) : Option String :=
  match tag with
  | some (0x21 :: name) => String.fromUTF8? ⟨(if name.isEmpty then [0x21] else name).toArray⟩
  | _ => none

/-- The tag of null. -/
def nullTag : Tag := .ofString "tag:yaml.org,2002:null"

/-- The tag of truth values. -/
def boolTag : Tag := .ofString "tag:yaml.org,2002:bool"

/-- The tag of integers. -/
def intTag : Tag := .ofString "tag:yaml.org,2002:int"

/-- The tag of floating-point numbers. -/
def floatTag : Tag := .ofString "tag:yaml.org,2002:float"

namespace View

/-- The view of the root. -/
def ofDocument (document : Document) : View := ⟨document, document.root⟩

/-- The view of another node of the same document. -/
def onNode (view : View) (node : Node) : View := { view with node }

/-- The node itself, or the node that an alias stands for. -/
def resolved (view : View) : Attempt Node :=
  match view.node with
  | .alias anchor => do
    Attempt.follow
    match view.document.targets[anchor]? with
    | some (.alias _) | none => throw .invalid
    | some node => return node
  | node => return node

/-- The text of any scalar. -/
def text (view : View) : Attempt String := do
  match ← view.resolved with
  | .scalar _ _ text => return text
  | _ => throw .invalid

/-- Whether a scalar may be looked at as the type with a given tag: it is plain, or a literal block
with this tag. -/
def isBare (tag : Option Tag) (style : Style) (wanted : Tag) : Bool :=
  style = .plain || (style = .literal && tag = some wanted)

/-- The truth value of a scalar that spells one. -/
def bool (view : View) : Attempt Bool := do
  match ← view.resolved with
  | .scalar tag style text =>
    match if isBare tag style boolTag then Core.bool? text else none with
    | some value => return value
    | none => throw .invalid
  | _ => throw .invalid

/-- The natural number of a scalar that writes one. -/
def natural (view : View) : Attempt Nat := do
  match ← view.resolved with
  | .scalar tag style text =>
    match if isBare tag style intTag then Core.natural? text else none with
    | some value => return value
    | none => throw .invalid
  | _ => throw .invalid

/-- The items of a sequence. A missing node has none. -/
def list (view : View) : Attempt (List View) := do
  match ← view.resolved with
  | .sequence _ items => return items.map view.onNode
  | .scalar _ .plain "" => return []
  | _ => throw .invalid

/-- The entries of a mapping whose keys are scalars. A missing node has none. -/
def entries (view : View) : Attempt (List (String × View)) := do
  match ← view.resolved with
  | .mapping _ entries => entries.mapM fun entry => do return (← (view.onNode entry.1).text, view.onNode entry.2)
  | .scalar _ .plain "" => return []
  | _ => throw .invalid

/-- The entries of a mapping whose keys are scalars. -/
def parts (view : View) : Attempt (Parts View) := .named <$> view.entries

/-- Anything but a missing node or a plain null. A tag makes a scalar present, unless it is that of
null, which nothing but null may have. -/
def present (view : View) : Attempt (Option View) := do
  let node ← view.resolved
  match node with
  | .scalar none .plain text => return if text.isEmpty || Core.isNull text then none else some (view.onNode node)
  | .scalar (some tag) .plain text =>
    if tag ≠ nullTag then return some (view.onNode node)
    else if Core.isNull text then return none
    else throw .invalid
  | _ => return some (view.onNode node)

/-- The text of a scalar names a constant, or a local tag does, in front of the content. -/
def constant (view : View) : Attempt (String × Option View) := do
  match ← view.resolved with
  | .scalar tag style text =>
    match localTag? tag with
    | some name => return (name, some (view.onNode (.scalar none style text)))
    | none => return (text, none)
  | .sequence tag items =>
    match localTag? tag with
    | some name => return (name, some (view.onNode (.sequence none items)))
    | none => throw .invalid
  | .mapping tag entries =>
    match localTag? tag with
    | some name => return (name, some (view.onNode (.mapping none entries)))
    | none => throw .invalid
  | .alias _ => throw .invalid

/-- Only a missing node or a plain null holds nothing. -/
def nothing (view : View) : Attempt Unit := do
  match ← view.resolved with
  | .scalar none .plain text => if text.isEmpty || Core.isNull text then return () else throw .invalid
  | .scalar (some tag) .plain text => if tag = nullTag && Core.isNull text then return () else throw .invalid
  | _ => throw .invalid

/-- A mapping without a local tag is a choice by its first key. -/
def keyed (view : View) : Attempt (KeyedChoice View) := do
  match ← view.resolved with
  | .mapping tag ((key, content) :: more) =>
    if (localTag? tag).isSome then throw .invalid
    else return ⟨← (view.onNode key).text, some (view.onNode content), !more.isEmpty⟩
  | _ => throw .invalid

instance : Readable View where
  text := text
  bool := bool
  natural := natural
  list := list
  parts _ := parts
  entries := entries
  present := present
  constant _ := constant
  nothing := nothing
  keyed := keyed

/-- The meaning of a plain scalar. -/
def heldPlain? (text : String) : Option Held :=
  match Core.meaning text with
  | .null => some .null
  | .bool value => some (.bool value)
  | .natural value => some (.natural value)
  | .number => some .other
  | .unsupported => none
  | .text => some (.text text)

/-- The meaning of a scalar. Only a plain scalar has a meaning other than its text, unless a tag of the
core schema asks for one. A local tag names a variant, which nothing can hold; one that is no text does
nothing, and any other tag makes a scalar text. -/
def heldScalar? (tag : Option Tag) (style : Style) (text : String) : Option Held :=
  match tag with
  | none => untagged
  | some tag =>
    if (localTag? (some tag)).isSome then none
    else if tag.head? = some 0x21 then untagged
    else if tag = boolTag then (Core.bool? text).map .bool
    else if tag = intTag then
      match Core.natural? text with
      | some value => some (.natural value)
      | none => if (Core.negated? (Nat.pow 2 63) text).isSome then some .other else none
    else if tag = floatTag then if Core.isFloat text then some .other else none
    else if tag = nullTag then if Core.isNull text then some .null else none
    else some (.text text)
where
  /-- The meaning of the scalar without a tag. -/
  untagged : Option Held := if style = .plain then heldPlain? text else some (.text text)

/-- The meaning of a node on its own. Collections nest at most as deep as given, and none has a local tag. -/
def held (depth : Nat) (view : View) : Attempt Held := do
  match ← view.resolved, depth with
  | .scalar tag style text, _ =>
    match heldScalar? tag style text with
    | some held => return held
    | none => throw .invalid
  | .sequence tag items, depth + 1 =>
    if (localTag? tag).isSome then throw .invalid
    return .list (← items.mapM fun item => held depth (view.onNode item))
  | .mapping tag entries, depth + 1 =>
    if (localTag? tag).isSome then throw .invalid
    return .map (← entries.mapM fun entry => do
      return (← held depth (view.onNode entry.1), ← held depth (view.onNode entry.2)))
  | _, _ => throw .invalid

end View

/-- The number of collections that may be nested in a document. -/
def maxDepth : Nat := 128

/-- The number of references that may be followed in a document: a hundred for every event. -/
def Document.budget (document : Document) : Nat := 100 * document.events

/-- The typed value that the only document of a text holds. -/
def read? {α : Type} (read : Reads View α) (source : String) : Option α := do
  let document ← Document.parse? source
  (read.within document.budget (.ofDocument document)).toOption

end MeshControl.Yaml
