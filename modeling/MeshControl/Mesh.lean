import MeshControl.Reference

/-!
# Meshes

A mesh is an installation of one of five providers. Its status records the virtual mesh applied to
it and the gateways through which traffic from other clusters enters.
-/

namespace MeshControl

/-- Where the control plane of a mesh is installed. -/
structure Installation where
  ns : String
  cluster : String
  version : String := ""
  deriving DecidableEq, Repr, Inhabited

/-- The trust domain of an Istio mesh that does not name one. -/
def defaultTrustDomain : String := "cluster.local"

/-- An Istio mesh. The revision selects the injector configuration of a control plane. -/
structure IstioMesh where
  installation : Installation
  trustDomain : String := defaultTrustDomain
  revision : Option String := none
  deriving DecidableEq, Repr, Inhabited

/-- An AWS App Mesh, which has no installation of its own on a cluster. -/
structure AppMesh where
  awsName : String
  region : String
  clusters : List String := []
  deriving DecidableEq, Repr, Inhabited

/-- The provider of a mesh. -/
inductive Provider where
  | istio (mesh : IstioMesh)
  | linkerd (installation : Installation)
  | osm (installation : Installation)
  | consulConnect (installation : Installation)
  | appMesh (mesh : AppMesh)
  deriving DecidableEq, Repr, Inhabited

/-- What a virtual mesh asks for about access between the workloads of its meshes. -/
inductive GlobalAccess where
  /-- The default of the provider, which for Istio is no enforcement. -/
  | meshDefault
  | disabled
  | enabled
  deriving DecidableEq, Repr, Inhabited

/-- A virtual mesh: the meshes it groups and the access policy among them. -/
structure VirtualMeshSpec where
  meshes : List ObjectRef := []
  globalAccess : GlobalAccess := .meshDefault
  deriving DecidableEq, Repr, Inhabited

/-- A virtual mesh as it is applied to a mesh. -/
structure AppliedVirtualMesh where
  ref : ObjectRef
  spec : VirtualMeshSpec := {}
  deriving DecidableEq, Repr, Inhabited

/-- What is applied to a mesh. -/
structure MeshStatus where
  virtualMesh : Option AppliedVirtualMesh := none
  /-- The destinations of the ingress gateways, in the order in which they were applied. -/
  ingressGateways : List ObjectRef := []
  deriving DecidableEq, Repr, Inhabited

/-- A discovered mesh. -/
structure Mesh where
  metadata : Metadata
  provider : Provider
  status : MeshStatus := {}
  deriving DecidableEq, Inhabited

namespace Installation

def toJson (installation : Installation) : Json :=
  .object ([("namespace", .text installation.ns), ("cluster", .text installation.cluster)] ++
    Json.fieldUnless installation.version.isEmpty "version" (.text installation.version))

open Reading in
def read {ν : Type} [Readable ν] : Reads ν Installation :=
  record (mk <$> required "namespace" Readable.text <*> required "cluster" Readable.text <*>
    withDefault "version" "" Readable.text)

end Installation

namespace IstioMesh

def toJson (mesh : IstioMesh) : Json :=
  .object ([("installation", mesh.installation.toJson), ("trustDomain", .text mesh.trustDomain)] ++
    Json.fieldOf? "revision" .text mesh.revision)

open Reading in
def read {ν : Type} [Readable ν] : Reads ν IstioMesh :=
  record (mk <$> required "installation" Installation.read <*>
    withDefault "trustDomain" defaultTrustDomain Readable.text <*> optionalField "revision" Readable.text)

end IstioMesh

namespace AppMesh

def toJson (mesh : AppMesh) : Json :=
  .object [("awsName", .text mesh.awsName), ("region", .text mesh.region),
    ("clusters", .texts mesh.clusters)]

open Reading in
def read {ν : Type} [Readable ν] : Reads ν AppMesh :=
  record (mk <$> required "awsName" Readable.text <*> required "region" Readable.text <*>
    withDefault "clusters" [] (listOf Readable.text))

end AppMesh

namespace Provider

/-- The installation of a provider that is installed on one cluster. -/
def installation : Provider → Option Installation
  | .istio mesh => some mesh.installation
  | .linkerd installation | .osm installation | .consulConnect installation => some installation
  | .appMesh _ => none

/-- The lower-case name of the provider. -/
def typeName : Provider → String
  | .istio _ => "istio"
  | .linkerd _ => "linkerd"
  | .osm _ => "osm"
  | .consulConnect _ => "consulconnect"
  | .appMesh _ => "appmesh"

/-- The settings of a provider that has only an installation. -/
def installedToJson (installation : Installation) : Json :=
  .object [("installation", installation.toJson)]

/-- A provider is an object with one field, named for the provider. -/
def toJson : Provider → Json
  | .istio mesh => .object [("istio", mesh.toJson)]
  | .linkerd installation => .object [("linkerd", installedToJson installation)]
  | .osm installation => .object [("osm", installedToJson installation)]
  | .consulConnect installation => .object [("consulConnect", installedToJson installation)]
  | .appMesh mesh => .object [("appMesh", mesh.toJson)]

open Reading in
/-- The settings of a provider that has only an installation. -/
def readInstalled {ν : Type} [Readable ν] : Reads ν Installation :=
  record (required "installation" Installation.read)

open Reading in
def read {ν : Type} [Readable ν] : Reads ν Provider :=
  keyedOf [("istio", fun value => .istio <$> IstioMesh.read value),
    ("linkerd", fun value => .linkerd <$> readInstalled value),
    ("osm", fun value => .osm <$> readInstalled value),
    ("consulConnect", fun value => .consulConnect <$> readInstalled value),
    ("appMesh", fun value => .appMesh <$> AppMesh.read value)]

end Provider

namespace GlobalAccess

/-- The written name of a policy. -/
def name : GlobalAccess → String
  | .meshDefault => "MESH_DEFAULT"
  | .disabled => "DISABLED"
  | .enabled => "ENABLED"

def toJson (access : GlobalAccess) : Json := .text access.name

open Reading in
def read {ν : Type} [Readable ν] : Reads ν GlobalAccess :=
  constantOf ([.meshDefault, .disabled, .enabled].map fun access => (name access, access))

end GlobalAccess

namespace VirtualMeshSpec

def toJson (spec : VirtualMeshSpec) : Json :=
  .object [("meshes", .list (spec.meshes.map ObjectRef.toJson)),
    ("globalAccessPolicy", spec.globalAccess.toJson)]

open Reading in
def read {ν : Type} [Readable ν] : Reads ν VirtualMeshSpec :=
  record (mk <$> withDefault "meshes" [] (listOf ObjectRef.read) <*>
    withDefault "globalAccessPolicy" .meshDefault GlobalAccess.read)

end VirtualMeshSpec

namespace AppliedVirtualMesh

def toJson (applied : AppliedVirtualMesh) : Json :=
  .object [("ref", applied.ref.toJson), ("spec", applied.spec.toJson)]

open Reading in
def read {ν : Type} [Readable ν] : Reads ν AppliedVirtualMesh :=
  record (mk <$> required "ref" ObjectRef.read <*> withDefault "spec" {} VirtualMeshSpec.read)

end AppliedVirtualMesh

namespace MeshStatus

/-- A gateway is an object that holds the reference to its destination. -/
def gatewayToJson (destination : ObjectRef) : Json := .object [("destinationRef", destination.toJson)]

def toJson (status : MeshStatus) : Json :=
  .object (Json.fieldOf? "appliedVirtualMesh" AppliedVirtualMesh.toJson status.virtualMesh ++
    Json.fieldUnless status.ingressGateways.isEmpty "appliedEastWestIngressGateways"
      (.list (status.ingressGateways.map gatewayToJson)))

open Reading in
def readGateway {ν : Type} [Readable ν] : Reads ν ObjectRef :=
  record (required "destinationRef" ObjectRef.read)

open Reading in
def read {ν : Type} [Readable ν] : Reads ν MeshStatus :=
  record (mk <$> optionalField "appliedVirtualMesh" AppliedVirtualMesh.read <*>
    withDefault "appliedEastWestIngressGateways" [] (listOf readGateway))

end MeshStatus

namespace Mesh

/-- The object reference of the mesh. -/
def ref (mesh : Mesh) : ObjectRef := mesh.metadata.ref

/-- The identity of the mesh in membership, caches and summaries. -/
def key (mesh : Mesh) : String := mesh.ref.key

/-- The Istio settings of an Istio mesh. -/
def istio (mesh : Mesh) : Option IstioMesh :=
  match mesh.provider with
  | .istio settings => some settings
  | _ => none

/-- The cluster with the control plane, if the provider is installed on one. -/
def cluster (mesh : Mesh) : Option String := mesh.provider.installation.map (·.cluster)

def toJson (mesh : Mesh) : Json :=
  .object [("metadata", mesh.metadata.toJson), ("provider", mesh.provider.toJson),
    ("status", mesh.status.toJson)]

open Reading in
def read {ν : Type} [Readable ν] : Reads ν Mesh :=
  record (mk <$> required "metadata" Metadata.read <*> required "provider" Provider.read <*>
    withDefault "status" {} MeshStatus.read)

end Mesh

end MeshControl
