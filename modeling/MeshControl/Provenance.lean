import MeshControl.Json.Parse
import MeshControl.Reference

/-!
# Provenance of generated objects

Every generated object carries two labels that name its maker and an annotation that lists its
parents: the objects of the management plane for which it was made, by kind.
-/

namespace MeshControl.Provenance

/-- The label of the agent. -/
def agentLabel : String := "agent.orbit.dev"

/-- The label of the part of the agent that made the object. -/
def makerLabel : String := "translator.orbit.dev"

/-- The annotation that lists parents. -/
def parentsAnnotation : String := "parents.orbit.dev"

/-- The kind of virtual meshes. -/
def virtualMeshKind : String := "networking.orbit.dev/v1, Kind=VirtualMesh"

/-- The kind of access policies. -/
def accessPolicyKind : String := "networking.orbit.dev/v1, Kind=AccessPolicy"

/-- The labels of an object made by one part of the agent. -/
def madeBy (maker : String) : Labels := .ofList [(agentLabel, "orbit"), (makerLabel, maker)]

/-- Parents by kind. -/
abbrev Parents := TextMap (List ObjectRef)

namespace Parents

/-- Parents as an object: the kinds in order, and under each kind its references. -/
def toJson (parents : Parents) : Json := .ofMap (fun refs => .list (refs.map ObjectRef.toJson)) parents

/-- The parents that a text lists, if it is readable. -/
def parse? (source : String) : Option Parents := do
  let value ← Json.parse? source
  (Json.decode (Reading.mapOf (Reading.listOf ObjectRef.read)) value).toOption

/-- Adds a parent after those of its kind, unless it is there already. -/
def add (parents : Parents) (kind : String) (parent : ObjectRef) : Parents :=
  let present := (parents.get? kind).getD []
  parents.insert kind (if parent ∈ present then present else present ++ [parent])

end Parents

/-- The parents of an object; an object without a readable annotation has none. -/
def parents (metadata : Metadata) : Parents :=
  ((metadata.annotations.get? parentsAnnotation).bind Parents.parse?).getD ∅

/-- Adds a parent to an object. An unreadable annotation is replaced. -/
def appendParent (metadata : Metadata) (kind : String) (parent : ObjectRef) : Metadata :=
  metadata.annotate parentsAnnotation ((parents metadata).add kind parent).toJson.compact

end MeshControl.Provenance
