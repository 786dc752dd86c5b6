import MeshControl.Output.ObjectMap

/-!
# Output snapshots

A snapshot is a named set of objects with at most one object per identity. Adding an object replaces
the one with its identity, and merging another snapshot adds all its objects.
-/

namespace MeshControl

/-- A named set of objects. -/
structure OutputSnapshot where
  name : String
  /-- Each object under its identity. -/
  byId : ObjectMap := ∅
  deriving DecidableEq, Inhabited

namespace OutputSnapshot

/-- Adds an object, in place of one with the same identity. -/
def add (snapshot : OutputSnapshot) (object : OutputObject) : OutputSnapshot :=
  { snapshot with byId := snapshot.byId.insert object }

/-- Adds objects one after the other. -/
def addAll (snapshot : OutputSnapshot) (objects : List OutputObject) : OutputSnapshot :=
  objects.foldl add snapshot

/-- The objects in the order of their identities. -/
def objects (snapshot : OutputSnapshot) : List OutputObject := snapshot.byId.values

/-- The union of two snapshots under the name of the first; the second wins at a common identity. -/
def merge (snapshot other : OutputSnapshot) : OutputSnapshot :=
  { snapshot with byId := snapshot.byId.union other.byId }

/-- Visits the objects in the order of their identities. -/
def foldObjects {σ : Type} (visit : σ → OutputObject → σ) (state : σ) (snapshot : OutputSnapshot) : σ :=
  snapshot.byId.fold visit state

/-- Changes every object in place, in the order of their identities. The change must keep the identity. -/
def visitObjects {σ : Type} (change : σ → OutputObject → OutputObject × σ) (state : σ)
    (snapshot : OutputSnapshot) : OutputSnapshot × σ :=
  let changed := snapshot.byId.visit change state
  ({ snapshot with byId := changed.1 }, changed.2)

/-- Changes every object alike. -/
def mapObjects (change : OutputObject → OutputObject) (snapshot : OutputSnapshot) : OutputSnapshot :=
  (snapshot.visitObjects (fun _ object => (change object, ())) ()).1

/-- The object with an identity. -/
def get? (snapshot : OutputSnapshot) (id : ObjectId) : Option OutputObject := snapshot.byId.get? id

/-- The objects of one type in the order of their identities. -/
def objectsOf (snapshot : OutputSnapshot) (type : ResourceType) : List OutputObject :=
  (snapshot.byId.groups.group type).values

/-- The authorization policies in the order of their identities. -/
def authorizationPolicies (snapshot : OutputSnapshot) : List AuthorizationPolicy :=
  (snapshot.objectsOf .authorizationPolicy).filterMap fun object =>
    match object with
    | .authorizationPolicy policy => some policy
    | .secret _ => none

/-- The number of objects. -/
def size (snapshot : OutputSnapshot) : Nat := snapshot.byId.size

/-- Whether the snapshot has no object. -/
def isEmpty (snapshot : OutputSnapshot) : Bool := snapshot.byId.isEmpty

/-- The objects as a list. -/
def toJson (snapshot : OutputSnapshot) : Json := .list (snapshot.objects.map OutputObject.toJson)

end OutputSnapshot

end MeshControl
