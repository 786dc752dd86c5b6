import MeshControl.Yaml.Token

/-!
# Nodes of YAML

`Document.parse?` builds the tree of the only document of a text. Aliases stay in the tree as the
numbers of their anchors, so a node may contain itself. A number is the count of anchor names at the
time: an anchor name that is used again takes a number that the next new name takes too, and then
belongs to the node that starts last.
-/

namespace MeshControl.Yaml

/-- A node of a document. -/
inductive Node where
  | scalar (tag : Option Tag) (style : Style) (text : String)
  | sequence (tag : Option Tag) (items : List Node)
  | mapping (tag : Option Tag) (entries : List (Node × Node))
  /-- The node with a given anchor. -/
  | alias (anchor : Nat)
  deriving Inhabited

/-- A scalar without tag and text, as it stands for a missing node. -/
def Node.blank : Node := .scalar none .plain ""

/-- A node with an anchor. -/
structure Anchored where
  anchor : Nat
  /-- The place of the node among the starts of all nodes. -/
  order : Nat
  node : Node
  deriving Inhabited

/-- The document of a text. -/
structure Document where
  root : Node
  /-- The nodes of the anchor numbers. -/
  targets : Array Node := #[]
  /-- The number of scalars, aliases, and starts and ends of collections. -/
  events : Nat := 0
  deriving Inhabited

namespace Document

/-- The state of the parser. -/
structure Parsing where
  tokens : List Token
  /-- What the handles of tags stand for. -/
  handles : List (String × Tag)
  /-- The numbers of the anchor names so far. -/
  anchors : TextMap Nat := ∅
  anchored : List Anchored := []
  events : Nat := 0
  deriving Inhabited

/-- A step of the parser, which fails on text outside the language. -/
abbrev Parser := StateT Parsing Option

/-- The next token. -/
def peek : Parser Token := do
  match (← get).tokens with
  | token :: _ => return token
  | [] => failure

/-- Drops the next token. -/
def skip : Parser Unit := modify fun state => { state with tokens := state.tokens.drop 1 }

/-- Counts one event. -/
def countEvent : Parser Unit := modify fun state => { state with events := state.events + 1 }

/-- The meaning of a tag, whose handle must be declared. -/
def resolveTag (handle : String) (suffix : Tag) : Parser Tag := do
  if handle.isEmpty then return suffix
  match (← get).handles.lookup handle with
  | some stem => return stem ++ suffix
  | none => failure

/-- The tag and anchor name in front of a node, in either order. -/
def properties : Parser (Option Tag × Option String) := do
  match ← peek with
  | .anchor name =>
    skip
    match ← peek with
    | .tag handle suffix =>
      skip
      return (some (← resolveTag handle suffix), some name)
    | _ => return (none, some name)
  | .tag handle suffix =>
    skip
    match ← peek with
    | .anchor name =>
      skip
      return (some (← resolveTag handle suffix), some name)
    | _ => return (some (← resolveTag handle suffix), none)
  | _ => return (none, none)

/-- Gives a starting node its anchor number. -/
def startAnchor (name : Option String) : Parser (Option (Nat × Nat)) := do
  match name with
  | none => return none
  | some name =>
    let state ← get
    let anchor := state.anchors.size
    set { state with anchors := state.anchors.insert name anchor }
    return some (anchor, state.events)

/-- Notes the finished node of an anchor. -/
def finishAnchor (anchor : Option (Nat × Nat)) (node : Node) : Parser Node := do
  match anchor with
  | none => return node
  | some (anchor, order) =>
    modify fun state => { state with anchored := ⟨anchor, order, node⟩ :: state.anchored }
    return node

/-- A missing node. -/
def blank : Parser Node := do
  countEvent
  return .blank

mutual

/-- A node. Block collections are allowed outside flow collections, and a sequence without
indentation of its own is allowed in a block mapping. -/
def node (fuel : Nat) (block unindented : Bool) : Parser Node :=
  match fuel with
  | 0 => failure
  | fuel + 1 => do
    match ← peek with
    | .alias name =>
      skip
      countEvent
      match (← get).anchors.get? name with
      | some anchor => return .alias anchor
      | none => failure
    | _ =>
      let (tag, anchorName) ← properties
      match ← peek with
      | .scalar text style =>
        skip
        let anchor ← startAnchor anchorName
        countEvent
        finishAnchor anchor (.scalar tag style text)
      | .blockEntry =>
        if unindented then
          let anchor ← startAnchor anchorName
          countEvent
          finishAnchor anchor (.sequence tag (← unindentedItems fuel))
        else noContent tag anchorName
      | .flowSequenceStart =>
        skip
        let anchor ← startAnchor anchorName
        countEvent
        finishAnchor anchor (.sequence tag (← flowItems fuel true))
      | .flowMappingStart =>
        skip
        let anchor ← startAnchor anchorName
        countEvent
        finishAnchor anchor (.mapping tag (← flowEntries fuel true))
      | .blockSequenceStart =>
        if block then
          skip
          let anchor ← startAnchor anchorName
          countEvent
          finishAnchor anchor (.sequence tag (← blockItems fuel))
        else noContent tag anchorName
      | .blockMappingStart =>
        if block then
          skip
          let anchor ← startAnchor anchorName
          countEvent
          finishAnchor anchor (.mapping tag (← blockEntries fuel))
        else noContent tag anchorName
      | _ => noContent tag anchorName

/-- A node that has at most a tag and an anchor; one of them it must have. -/
def noContent (tag : Option Tag) (anchorName : Option String) : Parser Node := do
  if tag.isNone && anchorName.isNone then failure
  let anchor ← startAnchor anchorName
  countEvent
  finishAnchor anchor (.scalar tag .plain "")

/-- The items of a block sequence. -/
def blockItems (fuel : Nat) : Parser (List Node) :=
  match fuel with
  | 0 => failure
  | fuel + 1 => do
    match ← peek with
    | .blockEntry =>
      skip
      let item ← match ← peek with
        | .blockEntry | .blockEnd => blank
        | _ => node fuel true false
      return item :: (← blockItems fuel)
    | .blockEnd =>
      skip
      countEvent
      return []
    | _ => failure

/-- The items of a sequence in a block mapping without indentation of its own. -/
def unindentedItems (fuel : Nat) : Parser (List Node) :=
  match fuel with
  | 0 => failure
  | fuel + 1 => do
    match ← peek with
    | .blockEntry =>
      skip
      let item ← match ← peek with
        | .blockEntry | .key | .value | .blockEnd => blank
        | _ => node fuel true false
      return item :: (← unindentedItems fuel)
    | _ =>
      countEvent
      return []

/-- The entries of a block mapping. -/
def blockEntries (fuel : Nat) : Parser (List (Node × Node)) :=
  match fuel with
  | 0 => failure
  | fuel + 1 => do
    match ← peek with
    | .key =>
      skip
      let key ← match ← peek with
        | .key | .value | .blockEnd => blank
        | _ => node fuel true true
      let value ← match ← peek with
        | .value => do
          skip
          match ← peek with
          | .key | .value | .blockEnd => blank
          | _ => node fuel true true
        | _ => blank
      return (key, value) :: (← blockEntries fuel)
    | .blockEnd =>
      skip
      countEvent
      return []
    | _ => failure

/-- The items of a flow sequence. An item may be a single entry, which stands for a mapping. -/
def flowItems (fuel : Nat) (first : Bool) : Parser (List Node) :=
  match fuel with
  | 0 => failure
  | fuel + 1 => do
    match ← peek with
    | .flowSequenceEnd => flowEnd
    | token =>
      if !first then
        if token = .flowEntry then skip else failure
      match ← peek with
      | .flowSequenceEnd => flowEnd
      | .key =>
        skip
        countEvent
        let entry ← singleEntry fuel
        countEvent
        return .mapping none [entry] :: (← flowItems fuel false)
      | _ =>
        let item ← node fuel false false
        return item :: (← flowItems fuel false)

/-- The end of a flow sequence. -/
def flowEnd : Parser (List Node) := do
  skip
  countEvent
  return []

/-- A single entry among the items of a flow sequence. A missing key takes the next token with it. -/
def singleEntry (fuel : Nat) : Parser (Node × Node) :=
  match fuel with
  | 0 => failure
  | fuel + 1 => do
    let key ← match ← peek with
      | .value | .flowEntry | .flowSequenceEnd => do
        skip
        blank
      | _ => node fuel false false
    match ← peek with
    | .value =>
      skip
      match ← peek with
      | .flowEntry | .flowSequenceEnd => return (key, ← blank)
      | _ => return (key, ← node fuel false false)
    | _ => return (key, ← blank)

/-- The entries of a flow mapping. A node without key indicator is a key without value. -/
def flowEntries (fuel : Nat) (first : Bool) : Parser (List (Node × Node)) :=
  match fuel with
  | 0 => failure
  | fuel + 1 => do
    match ← peek with
    | .flowMappingEnd => flowMapEnd
    | token =>
      if !first then
        if token = .flowEntry then skip else failure
      match ← peek with
      | .flowMappingEnd => flowMapEnd
      | .key =>
        skip
        let key ← match ← peek with
          | .value | .flowEntry | .flowMappingEnd => blank
          | _ => node fuel false false
        let value ← match ← peek with
          | .value => do
            skip
            match ← peek with
            | .flowEntry | .flowMappingEnd => blank
            | _ => node fuel false false
          | _ => blank
        return (key, value) :: (← flowEntries fuel false)
      | _ =>
        let key ← node fuel false false
        let value ← blank
        return (key, value) :: (← flowEntries fuel false)

/-- The end of a flow mapping. -/
def flowMapEnd : Parser (List (Node × Node)) := do
  skip
  countEvent
  return []

end

/-- Whether a handle of tags is declared among others. -/
def declares (handles : List (String × Tag)) (handle : String) : Bool := (handles.lookup handle).isSome

/-- The directives in front of a document: at most one version, which is 1.1 or 1.2, and no handle twice. -/
def directives (fuel : Nat) (version : Bool) (handles : List (String × Tag)) : Parser (List (String × Tag)) :=
  match fuel with
  | 0 => failure
  | fuel + 1 => do
    match ← peek with
    | .versionDirective major minor =>
      if version || major ≠ 1 || (minor ≠ 1 && minor ≠ 2) then failure
      skip
      directives fuel true handles
    | .tagDirective handle stem =>
      if declares handles handle then failure
      skip
      directives fuel version ((handle, stem) :: handles)
    | _ => return handles

/-- The handles that every document knows. -/
def defaultHandles : List (String × Tag) := [("!", .ofString "!"), ("!!", .ofString "tag:yaml.org,2002:")]

/-- Drops markers of the end of a document. -/
def skipEnds (fuel : Nat) : Parser Unit :=
  match fuel with
  | 0 => return
  | fuel + 1 => do
    if (← peek) = .documentEnd then
      skip
      skipEnds fuel

/-- The root of a document behind its start marker; it may be missing. -/
def explicitRoot (fuel : Nat) : Parser Node := do
  let handles ← directives fuel false []
  modify fun state => { state with handles := handles ++ defaultHandles }
  if (← peek) ≠ .documentStart then failure
  skip
  match ← peek with
  | .versionDirective .. | .tagDirective .. | .documentStart | .documentEnd | .streamEnd => blank
  | _ => node fuel true false

/-- The root of the only document of a text. A text without a document counts as a blank one. -/
def stream (fuel : Nat) : Parser Node := do
  match ← peek with
  | .streamEnd => return .blank
  | token =>
    let root ← match token with
      | .versionDirective .. | .tagDirective .. | .documentStart => explicitRoot fuel
      | _ => node fuel true false
    skipEnds fuel
    if (← peek) = .streamEnd then return root else failure

/-- The nodes of the anchor numbers: of all with one number the node that starts last. -/
def targetsOf (names : Nat) (anchored : List Anchored) : Array Node :=
  (anchored.mergeSort fun first second => first.order ≤ second.order).foldl
    (fun targets anchored => targets.setIfInBounds anchored.anchor anchored.node)
    (.replicate (names + 1) .blank)

/-- The document of a text, if the text has at most one. Every call either drops a token or is
followed by one that does, so twice the number of tokens is fuel enough. -/
def parse? (source : String) : Option Document := do
  let tokens ← Token.scan? source
  let (root, state) ← (stream (2 * tokens.length + 4)).run { tokens, handles := defaultHandles }
  return { root, targets := targetsOf state.anchors.size state.anchored, events := state.events }

end Document

end MeshControl.Yaml
