import MeshControl.Json.Read

/-!
# References and object metadata

`ObjectRef` names an object of the management plane and `ClusterRef` an object on a workload
cluster. Both have a dotted key, and both are ordered by their parts from left to right, each part
by code points.
-/

namespace MeshControl

/-- A reference to a namespaced object of the management plane. -/
structure ObjectRef where
  name : String
  ns : String := ""
  deriving DecidableEq, Ord, Repr, Inhabited

/-- A reference to a namespaced object on a workload cluster. -/
structure ClusterRef where
  name : String
  ns : String := ""
  cluster : String := ""
  deriving DecidableEq, Ord, Repr, Inhabited

namespace ObjectRef

/-- References are compared by name and then by namespace. -/
theorem compare_eq_lex :
    (compare : ObjectRef → ObjectRef → Ordering) =
      compareLex (compareOn ObjectRef.name) (compareOn ObjectRef.ns) := by
  funext left right
  show instOrdObjectRef.ord left right = _
  cases left
  cases right
  simp [instOrdObjectRef.ord, compareLex, compareOn]

instance : Std.TransOrd ObjectRef := by
  unfold Std.TransOrd
  rw [compare_eq_lex]
  infer_instance

instance : Std.LawfulEqOrd ObjectRef where
  compare_self := by simp
  eq_of_compare {left right} same := by
    cases left
    cases right
    simp only [compare_eq_lex, compareLex, compareOn, Ordering.then_eq_eq,
      Std.LawfulEqCmp.compare_eq_iff_eq] at same
    simp [same]

/-- The identity of the object, `name.namespace`. -/
def key (ref : ObjectRef) : String := ref.name ++ "." ++ ref.ns

/-- How the reference is shown to people, `namespace/name`. -/
def display (ref : ObjectRef) : String := ref.ns ++ "/" ++ ref.name

def toJson (ref : ObjectRef) : Json :=
  .object [("name", .text ref.name), ("namespace", .text ref.ns)]

open Reading in
def read {ν : Type} [Readable ν] : Reads ν ObjectRef :=
  record (mk <$> required "name" Readable.text <*> withDefault "namespace" "" Readable.text)

end ObjectRef

namespace ClusterRef

/-- References are compared by name, namespace and cluster, in this order. -/
theorem compare_eq_lex :
    (compare : ClusterRef → ClusterRef → Ordering) =
      compareLex (compareOn ClusterRef.name)
        (compareLex (compareOn ClusterRef.ns) (compareOn ClusterRef.cluster)) := by
  funext left right
  show instOrdClusterRef.ord left right = _
  cases left
  cases right
  simp [instOrdClusterRef.ord, compareLex, compareOn]

instance : Std.TransOrd ClusterRef := by
  unfold Std.TransOrd
  rw [compare_eq_lex]
  infer_instance

instance : Std.LawfulEqOrd ClusterRef where
  compare_self := by simp
  eq_of_compare {left right} same := by
    cases left
    cases right
    simp only [compare_eq_lex, compareLex, compareOn, Ordering.then_eq_eq,
      Std.LawfulEqCmp.compare_eq_iff_eq] at same
    simp [same]

/-- The identity of the object, `name.namespace.cluster`. -/
def key (ref : ClusterRef) : String := ref.name ++ "." ++ ref.ns ++ "." ++ ref.cluster

/-- The fields of the reference, for objects that hold more than the reference. -/
def jsonFields (ref : ClusterRef) : List (String × Json) :=
  [("name", .text ref.name), ("namespace", .text ref.ns), ("clusterName", .text ref.cluster)]

def toJson (ref : ClusterRef) : Json := .object ref.jsonFields

open Reading in
def read {ν : Type} [Readable ν] : Reads ν ClusterRef :=
  record (mk <$> required "name" Readable.text <*> withDefault "namespace" "" Readable.text <*>
    withDefault "clusterName" "" Readable.text)

end ClusterRef

/-- The metadata of an object. Objects of the management plane have an empty cluster. -/
structure Metadata where
  name : String
  ns : String := ""
  cluster : String := ""
  labels : Labels := ∅
  annotations : Labels := ∅
  deriving DecidableEq, Inhabited

namespace Metadata

/-- The metadata of the same object on another cluster. -/
def onCluster (metadata : Metadata) (cluster : String) : Metadata := { metadata with cluster }

/-- Adds labels; an added label replaces one with the same key. -/
def addLabels (metadata : Metadata) (labels : Labels) : Metadata :=
  { metadata with labels := metadata.labels.union labels }

/-- Sets one annotation. -/
def annotate (metadata : Metadata) (key value : String) : Metadata :=
  { metadata with annotations := metadata.annotations.insert key value }

/-- The object as seen from the management plane. -/
def ref (metadata : Metadata) : ObjectRef := ⟨metadata.name, metadata.ns⟩

/-- The object as seen on its cluster. -/
def clusterRef (metadata : Metadata) : ClusterRef := ⟨metadata.name, metadata.ns, metadata.cluster⟩

def toJson (metadata : Metadata) : Json :=
  .object ([("name", .text metadata.name), ("namespace", .text metadata.ns)] ++
    Json.fieldUnless metadata.cluster.isEmpty "clusterName" (.text metadata.cluster) ++
    Json.fieldUnless metadata.labels.isEmpty "labels" (.ofLabels metadata.labels) ++
    Json.fieldUnless metadata.annotations.isEmpty "annotations" (.ofLabels metadata.annotations))

open Reading in
def read {ν : Type} [Readable ν] : Reads ν Metadata :=
  record (mk <$> required "name" Readable.text <*> withDefault "namespace" "" Readable.text <*>
    withDefault "clusterName" "" Readable.text <*> withDefault "labels" ∅ labelMap <*>
    withDefault "annotations" ∅ labelMap)

end Metadata

end MeshControl
