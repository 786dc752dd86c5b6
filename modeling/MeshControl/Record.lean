import MeshControl.Reference

/-!
# Records of cluster objects

Namespaces, config maps, secrets and registered clusters, as far as a pass over a snapshot needs
them.
-/

namespace MeshControl

/-- A namespace on a workload cluster. -/
structure NamespaceRecord where
  name : String
  cluster : String
  labels : Labels := ∅
  deriving DecidableEq, Inhabited

/-- A config map on a workload cluster. -/
structure ConfigMapRecord where
  name : String
  ns : String
  cluster : String
  data : Labels := ∅
  deriving DecidableEq, Inhabited

/-- A secret, in an input or among the objects to be written. -/
structure Secret where
  metadata : Metadata
  type : String := ""
  data : Labels := ∅
  deriving DecidableEq, Inhabited

/-- A workload cluster that is registered with the management plane. -/
structure KubernetesCluster where
  name : String
  ns : String := ""
  domain : String := ""
  deriving DecidableEq, Repr, Inhabited

namespace NamespaceRecord

def toJson (record : NamespaceRecord) : Json :=
  .object [("name", .text record.name), ("cluster", .text record.cluster),
    ("labels", .ofLabels record.labels)]

open Reading in
def read {ν : Type} [Readable ν] : Reads ν NamespaceRecord :=
  record (mk <$> required "name" Readable.text <*> required "cluster" Readable.text <*>
    withDefault "labels" ∅ labelMap)

end NamespaceRecord

namespace ConfigMapRecord

/-- The reference to the config map on its cluster. -/
def ref (record : ConfigMapRecord) : ClusterRef := ⟨record.name, record.ns, record.cluster⟩

/-- The identity of the config map, `name.namespace.cluster`. -/
def key (record : ConfigMapRecord) : String := record.ref.key

def toJson (record : ConfigMapRecord) : Json :=
  .object [("name", .text record.name), ("namespace", .text record.ns), ("cluster", .text record.cluster),
    ("data", .ofLabels record.data)]

open Reading in
def read {ν : Type} [Readable ν] : Reads ν ConfigMapRecord :=
  record (mk <$> required "name" Readable.text <*> required "namespace" Readable.text <*>
    required "cluster" Readable.text <*> withDefault "data" ∅ labelMap)

end ConfigMapRecord

namespace Secret

/-- The fields of a secret, for objects that hold more than the secret. -/
def jsonFields (secret : Secret) : List (String × Json) :=
  [("metadata", secret.metadata.toJson)] ++ Json.fieldUnless secret.type.isEmpty "type" (.text secret.type) ++
    Json.fieldUnless secret.data.isEmpty "data" (.ofLabels secret.data)

def toJson (secret : Secret) : Json := .object secret.jsonFields

open Reading in
/-- The description of a secret's fields. -/
def fields {ν : Type} [Readable ν] : Fields ν Secret :=
  mk <$> required "metadata" Metadata.read <*> withDefault "type" "" Readable.text <*>
    withDefault "data" ∅ labelMap

def read {ν : Type} [Readable ν] : Reads ν Secret := Reading.record fields

end Secret

namespace KubernetesCluster

def toJson (cluster : KubernetesCluster) : Json :=
  .object ([("name", .text cluster.name), ("namespace", .text cluster.ns)] ++
    Json.fieldUnless cluster.domain.isEmpty "clusterDomain" (.text cluster.domain))

open Reading in
def read {ν : Type} [Readable ν] : Reads ν KubernetesCluster :=
  record (mk <$> required "name" Readable.text <*> withDefault "namespace" "" Readable.text <*>
    withDefault "clusterDomain" "" Readable.text)

end KubernetesCluster

end MeshControl
