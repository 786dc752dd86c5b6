import MeshControl.Naming
import MeshControl.Output.Object
import MeshControl.Provenance
import MeshControl.Report

/-!
# Access to a mesh under a virtual mesh

A virtual mesh with enforced access closes the namespace of an Istio control plane by a policy that
denies everything, and opens each ingress gateway again by a policy that allows everything there.
-/

namespace MeshControl.Access

/-- The name of the policy that denies everything. -/
def globalName : String := "global-access-control"

/-- The stem of the names of the policies that open a gateway. -/
def gatewayStem : String := "allow-ingress-gateway"

/-- The maker of both kinds of policies. -/
def meshMaker : String := "access"

/-- A policy in the namespace of a control plane, made for a virtual mesh. -/
def meshPolicy (installation : Installation) (parent : ObjectRef) (name : String) (spec : AuthorizationSpec) :
    AuthorizationPolicy :=
  let metadata : Metadata := { name, ns := installation.ns, cluster := installation.cluster }
  { metadata := Provenance.appendParent (metadata.addLabels (Provenance.madeBy meshMaker))
      Provenance.virtualMeshKind parent
    spec }

/-- The policy that denies everything. -/
def globalPolicy (installation : Installation) (parent : ObjectRef) : AuthorizationPolicy :=
  meshPolicy installation parent globalName {}

/-- The name of the policy that opens the gateway with a given destination. -/
def gatewayName (gateway : ObjectRef) : String := Naming.bounded gatewayStem gateway.key

/-- The policy that allows everything at the workloads of a gateway's destination. -/
def gatewayPolicy (installation : Installation) (parent gateway : ObjectRef) (destination : Destination) :
    AuthorizationPolicy :=
  meshPolicy installation parent (gatewayName gateway)
    { selector := some destination.service.selector, action := some .allow, rules := [{}] }

/-- The gateways of a mesh whose destinations do not exist, each once, in order. -/
def missingGateways (input : Input) (mesh : Mesh) : List ObjectRef :=
  (mesh.status.ingressGateways.filter fun gateway => (input.findDestination? gateway).isNone).eraseDups

/-- The policies for an Istio mesh under a virtual mesh. Without enforced access there are none. -/
def meshPolicies (input : Input) (mesh : Mesh) (applied : AppliedVirtualMesh) : List AuthorizationPolicy :=
  match mesh.istio, applied.spec.globalAccess with
  | some istio, .enabled =>
    globalPolicy istio.installation applied.ref ::
      mesh.status.ingressGateways.filterMap fun gateway =>
        (input.findDestination? gateway).map (gatewayPolicy istio.installation applied.ref gateway)
  | _, _ => []

/-- The reports on an Istio mesh under a virtual mesh: its missing gateways, if access is enforced. -/
def meshReports (input : Input) (mesh : Mesh) (applied : AppliedVirtualMesh) : List Report :=
  match mesh.istio, applied.spec.globalAccess with
  | some _, .enabled =>
    (missingGateways input mesh).map fun gateway => .forMesh mesh applied.ref (.destinationNotFound gateway)
  | _, _ => []

/-- What is made for one mesh. -/
structure MeshResult where
  /-- Objects for workload clusters, in the order in which they are added. -/
  remote : List OutputObject := []
  /-- Objects for the management plane, in the order in which they are added. -/
  home : List OutputObject := []
  reports : List Report := []
  deriving DecidableEq, Inhabited

/-- A way of making objects for a mesh. -/
abbrev MeshCompiler := Input → Mesh → MeshResult

/-- What is made for a mesh under a virtual mesh. -/
def compileVirtualMesh (input : Input) (mesh : Mesh) (applied : AppliedVirtualMesh) : MeshResult where
  remote := (meshPolicies input mesh applied).map .authorizationPolicy
  reports := meshReports input mesh applied

/-- What is made for a mesh: something only for an Istio mesh with a virtual mesh applied to it. -/
def compileMesh : MeshCompiler := fun input mesh =>
  match mesh.provider, mesh.status.virtualMesh with
  | .istio _, some applied => compileVirtualMesh input mesh applied
  | _, _ => {}

end MeshControl.Access
