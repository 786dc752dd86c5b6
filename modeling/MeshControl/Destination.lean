import MeshControl.Reference

/-!
# Destinations

A destination is a service behind which workloads run, with the access policies applied to it.
-/

namespace MeshControl

/-- A port that a service listens on. -/
structure ServicePort where
  number : UInt16
  name : String := ""
  protocol : String := ""
  deriving DecidableEq, Repr, Inhabited

/-- The service behind a destination. -/
structure Service where
  ref : ClusterRef
  /-- The labels that select the workloads of the service. -/
  selector : Labels := ∅
  ports : List ServicePort := []
  deriving DecidableEq, Inhabited

/-- What discovery knows of a destination. -/
structure DestinationSpec where
  service : Service
  /-- The mesh that owns the destination, if discovery has resolved it. -/
  mesh : Option ObjectRef := none
  deriving DecidableEq, Inhabited

/-- A source of traffic: the service accounts it may run under. -/
structure IdentitySelector where
  serviceAccounts : List ClusterRef := []
  deriving DecidableEq, Repr, Inhabited

/-- Who may call a destination, and how. Without source selectors every source is allowed. -/
structure AccessPolicySpec where
  sources : List IdentitySelector := []
  ports : List UInt16 := []
  methods : List String := []
  paths : List String := []
  deriving DecidableEq, Repr, Inhabited

/-- An access policy as it is applied to a destination. -/
structure AppliedAccessPolicy where
  ref : ObjectRef
  spec : AccessPolicySpec := {}
  deriving DecidableEq, Repr, Inhabited

/-- What is applied to a destination. -/
structure DestinationStatus where
  accessPolicies : List AppliedAccessPolicy := []
  deriving DecidableEq, Repr, Inhabited

/-- A discovered destination. -/
structure Destination where
  metadata : Metadata
  spec : DestinationSpec
  status : DestinationStatus := {}
  deriving DecidableEq, Inhabited

/-- A number of sixteen bits as JSON. -/
def Json.ofWord16 (number : UInt16) : Json := .natural number.toNat

namespace ServicePort

def toJson (port : ServicePort) : Json :=
  .object [("port", .ofWord16 port.number), ("name", .text port.name), ("protocol", .text port.protocol)]

open Reading in
def read {ν : Type} [Readable ν] : Reads ν ServicePort :=
  record (mk <$> required "port" word16 <*> withDefault "name" "" Readable.text <*>
    withDefault "protocol" "" Readable.text)

end ServicePort

namespace Service

def toJson (service : Service) : Json :=
  .object ([("ref", service.ref.toJson), ("workloadSelectorLabels", .ofLabels service.selector)] ++
    Json.fieldUnless service.ports.isEmpty "ports" (.list (service.ports.map ServicePort.toJson)))

open Reading in
def read {ν : Type} [Readable ν] : Reads ν Service :=
  record (mk <$> required "ref" ClusterRef.read <*> withDefault "workloadSelectorLabels" ∅ labelMap <*>
    withDefault "ports" [] (listOf ServicePort.read))

end Service

namespace DestinationSpec

def toJson (spec : DestinationSpec) : Json :=
  .object (("kubeService", spec.service.toJson) :: Json.fieldOf? "mesh" ObjectRef.toJson spec.mesh)

open Reading in
def read {ν : Type} [Readable ν] : Reads ν DestinationSpec :=
  record (mk <$> required "kubeService" Service.read <*> optionalField "mesh" ObjectRef.read)

end DestinationSpec

namespace IdentitySelector

def toJson (selector : IdentitySelector) : Json :=
  .object [("kubeServiceAccountRefs", .list (selector.serviceAccounts.map ClusterRef.toJson))]

open Reading in
def read {ν : Type} [Readable ν] : Reads ν IdentitySelector :=
  record (mk <$> withDefault "kubeServiceAccountRefs" [] (listOf ClusterRef.read))

end IdentitySelector

namespace AccessPolicySpec

def toJson (spec : AccessPolicySpec) : Json :=
  .object [("sourceSelectors", .list (spec.sources.map IdentitySelector.toJson)),
    ("allowedPorts", .list (spec.ports.map .ofWord16)), ("allowedMethods", .texts spec.methods),
    ("allowedPaths", .texts spec.paths)]

open Reading in
def read {ν : Type} [Readable ν] : Reads ν AccessPolicySpec :=
  record (mk <$> withDefault "sourceSelectors" [] (listOf IdentitySelector.read) <*>
    withDefault "allowedPorts" [] (listOf word16) <*>
    withDefault "allowedMethods" [] (listOf Readable.text) <*>
    withDefault "allowedPaths" [] (listOf Readable.text))

end AccessPolicySpec

namespace AppliedAccessPolicy

def toJson (applied : AppliedAccessPolicy) : Json :=
  .object [("ref", applied.ref.toJson), ("spec", applied.spec.toJson)]

open Reading in
def read {ν : Type} [Readable ν] : Reads ν AppliedAccessPolicy :=
  record (mk <$> required "ref" ObjectRef.read <*> withDefault "spec" {} AccessPolicySpec.read)

end AppliedAccessPolicy

namespace DestinationStatus

def toJson (status : DestinationStatus) : Json :=
  .object (Json.fieldUnless status.accessPolicies.isEmpty "appliedAccessPolicies"
    (.list (status.accessPolicies.map AppliedAccessPolicy.toJson)))

open Reading in
def read {ν : Type} [Readable ν] : Reads ν DestinationStatus :=
  record (mk <$> withDefault "appliedAccessPolicies" [] (listOf AppliedAccessPolicy.read))

end DestinationStatus

namespace Destination

/-- The object reference of the destination. -/
def ref (destination : Destination) : ObjectRef := destination.metadata.ref

/-- The service behind the destination. -/
def service (destination : Destination) : Service := destination.spec.service

/-- The policies applied to the destination, in order. -/
def policies (destination : Destination) : List AppliedAccessPolicy := destination.status.accessPolicies

def toJson (destination : Destination) : Json :=
  .object [("metadata", destination.metadata.toJson), ("spec", destination.spec.toJson),
    ("status", destination.status.toJson)]

open Reading in
def read {ν : Type} [Readable ν] : Reads ν Destination :=
  record (mk <$> required "metadata" Metadata.read <*> required "spec" DestinationSpec.read <*>
    withDefault "status" {} DestinationStatus.read)

end Destination

end MeshControl
