import MeshControl.Input
import MeshControl.Output.Snapshot
import MeshControl.Text.Blank
import MeshControl.Yaml.Value

/-!
# Patches of the outputs

After a pass a patcher may change the objects for workload clusters. Patchers form trees: one does
nothing, one adds the objects that a file lists, one runs other patchers in order, and one is given
by a function. A failure is reported to the caller and undoes nothing.
-/

namespace MeshControl

/-- Why a patcher has failed. -/
inductive PatchError where
  /-- A file cannot be read. -/
  | unreadable (path reason : String)
  /-- A file does not hold a list of objects, for which the YAML library has given a message. -/
  | malformed (path message : String)
  /-- Members of a chain have failed, each with the given wording. -/
  | failed (failures : List String)
  deriving DecidableEq, Repr, Inhabited

/-- The wording of a failure. -/
def PatchError.message : PatchError → String
  | .unreadable path reason => "read " ++ path ++ ": " ++ reason
  | .malformed path message => "parse " ++ path ++ ": " ++ message
  | .failed failures =>
    toString failures.length ++ " patcher(s) failed: " ++ "; ".intercalate failures

/-- Outputs after a patch, and its failure, if it failed. -/
structure Patched where
  outputs : OutputSnapshot
  failure : Option PatchError := none
  deriving DecidableEq, Inhabited

/-- The files that a run sees. -/
structure Files where
  /-- The content of the file at a path, or the reason why it cannot be read. -/
  read : String → Except String String
  /-- The message of the YAML library on a text that does not hold a list of objects. -/
  complaint : String → String

/-- A patcher of outputs. -/
inductive Patcher where
  | noop
  /-- Adds the objects that a file lists. -/
  | file (path : String)
  /-- Runs its members in order, whatever fails. -/
  | chain (members : List Patcher)
  | custom (name : String) (apply : Input → OutputSnapshot → Patched)
  deriving Inhabited

namespace Manifest

open Reading Yaml

/-- The kind of an object and its other fields, each of which stands once in a mapping. -/
structure Tagged where
  kind : Option String := none
  fields : List (Held × Held) := []

/-- The collections inside an object may nest as deep as a document allows, less the list of objects and
the object itself. -/
def innerDepth : Nat := maxDepth - 2

/-- Reads one more entry of an object. The kind stays text whatever it looks like. -/
def addEntry (tagged : Tagged) (entry : View × View) : Attempt Tagged := do
  match ← entry.1.held innerDepth with
  | .text "kind" =>
    if tagged.kind.isSome then throw .invalid
    return { tagged with kind := some (← entry.2.text) }
  | key => return { tagged with fields := tagged.fields ++ [(key, ← entry.2.held innerDepth)] }

/-- Reads an object: its kind, which comes first in a sequence, decides how its other parts are read. -/
def readObject (view : View) : Attempt OutputObject := do
  match ← view.resolved with
  | .mapping tag entries =>
    if (localTag? tag).isSome then throw .invalid
    let tagged ← (entries.map fun entry => (view.onNode entry.1, view.onNode entry.2)).foldlM addEntry {}
    match tagged.kind with
    | none => throw (.missingField "kind")
    | some kind => alternative OutputObject.alternatives kind (.map tagged.fields)
  | .sequence tag (kind :: items) =>
    if (localTag? tag).isSome then throw .invalid
    let kind ← (view.onNode kind).text
    let items ← items.mapM fun item => (view.onNode item).held innerDepth
    alternative OutputObject.alternatives kind (.list items)
  | _ => throw .invalid

/-- The objects that a YAML text lists. -/
def parse? (source : String) : Option (List OutputObject) := Yaml.read? (listOf readObject) source

end Manifest

namespace Patcher

/-- The name of a patcher in messages. -/
def name : Patcher → String
  | .noop => "noop"
  | .file _ => "file"
  | .chain _ => "chain"
  | .custom name _ => name

/-- Adds the objects that a file lists. A blank file lists none, and a failure adds none. -/
def applyFile (files : Files) (path : String) (outputs : OutputSnapshot) : Patched :=
  match files.read path with
  | .error reason => { outputs, failure := some (.unreadable path reason) }
  | .ok source =>
    if Text.isBlankText source then { outputs }
    else
      match Manifest.parse? source with
      | none => { outputs, failure := some (.malformed path (files.complaint source)) }
      | some objects => { outputs := outputs.addAll objects }

mutual

/-- Runs a patcher. -/
def apply (files : Files) (input : Input) (outputs : OutputSnapshot) : Patcher → Patched
  | .noop => { outputs }
  | .file path => applyFile files path outputs
  | .chain members =>
    let (outputs, failures) := applyMembers files input outputs members
    { outputs, failure := if failures.isEmpty then none else some (.failed failures) }
  | .custom _ apply => apply input outputs

/-- Runs the members of a chain in order; the answer holds the wording of each failure. -/
def applyMembers (files : Files) (input : Input) (outputs : OutputSnapshot) :
    List Patcher → OutputSnapshot × List String
  | [] => (outputs, [])
  | member :: members =>
    let patched := apply files input outputs member
    let (outputs, failures) := applyMembers files input patched.outputs members
    match patched.failure with
    | none => (outputs, failures)
    | some error => (outputs, (member.name ++ ": " ++ error.message) :: failures)

end

end Patcher

end MeshControl
