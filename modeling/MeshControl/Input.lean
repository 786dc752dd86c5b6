import MeshControl.Mesh
import MeshControl.Destination
import MeshControl.Workload
import MeshControl.Record

/-!
# Input snapshots

A snapshot is everything that one pass sees of the world. References are resolved by name and
namespace, and the first match counts.
-/

namespace MeshControl

/-- The world as one pass sees it. -/
structure Input where
  name : String := ""
  meshes : List Mesh := []
  destinations : List Destination := []
  workloads : List Workload := []
  secrets : List Secret := []
  clusters : List KubernetesCluster := []
  namespaces : List NamespaceRecord := []
  configMaps : List ConfigMapRecord := []
  deriving DecidableEq, Inhabited

namespace Input

/-- Adds a mesh after the others. -/
def addMesh (input : Input) (mesh : Mesh) : Input := { input with meshes := input.meshes ++ [mesh] }

/-- Adds a destination after the others. -/
def addDestination (input : Input) (destination : Destination) : Input :=
  { input with destinations := input.destinations ++ [destination] }

/-- Adds a workload after the others. -/
def addWorkload (input : Input) (workload : Workload) : Input :=
  { input with workloads := input.workloads ++ [workload] }

/-- Adds a namespace after the others. -/
def addNamespace (input : Input) (record : NamespaceRecord) : Input :=
  { input with namespaces := input.namespaces ++ [record] }

/-- Adds a config map after the others. -/
def addConfigMap (input : Input) (record : ConfigMapRecord) : Input :=
  { input with configMaps := input.configMaps ++ [record] }

/-- Adds a secret after the others. -/
def addSecret (input : Input) (secret : Secret) : Input := { input with secrets := input.secrets ++ [secret] }

/-- Adds a registered cluster after the others. -/
def addCluster (input : Input) (cluster : KubernetesCluster) : Input :=
  { input with clusters := input.clusters ++ [cluster] }

/-- The first destination with the name and namespace of a reference. -/
def findDestination? (input : Input) (ref : ObjectRef) : Option Destination :=
  input.destinations.find? fun destination =>
    destination.metadata.name = ref.name && destination.metadata.ns = ref.ns

/-- The first mesh with the name and namespace of a reference. -/
def findMesh? (input : Input) (ref : ObjectRef) : Option Mesh :=
  input.meshes.find? fun mesh => mesh.metadata.name = ref.name && mesh.metadata.ns = ref.ns

/-- The namespaces on a cluster, in the order of the snapshot. -/
def namespacesOn (input : Input) (cluster : String) : List NamespaceRecord :=
  input.namespaces.filter fun record => record.cluster = cluster

def toJson (input : Input) : Json :=
  .object [("name", .text input.name), ("meshes", .list (input.meshes.map Mesh.toJson)),
    ("destinations", .list (input.destinations.map Destination.toJson)),
    ("workloads", .list (input.workloads.map Workload.toJson)),
    ("secrets", .list (input.secrets.map Secret.toJson)),
    ("kubernetesClusters", .list (input.clusters.map KubernetesCluster.toJson)),
    ("namespaces", .list (input.namespaces.map NamespaceRecord.toJson)),
    ("configMaps", .list (input.configMaps.map ConfigMapRecord.toJson))]

open Reading in
def read {ν : Type} [Readable ν] : Reads ν Input :=
  record (mk <$> withDefault "name" "" Readable.text <*>
    withDefault "meshes" [] (listOf Mesh.read) <*>
    withDefault "destinations" [] (listOf Destination.read) <*>
    withDefault "workloads" [] (listOf Workload.read) <*>
    withDefault "secrets" [] (listOf Secret.read) <*>
    withDefault "kubernetesClusters" [] (listOf KubernetesCluster.read) <*>
    withDefault "namespaces" [] (listOf NamespaceRecord.read) <*>
    withDefault "configMaps" [] (listOf ConfigMapRecord.read))

end Input

end MeshControl
