import MeshControl.Access.MeshAccess
import MeshControl.Injection.Detector

/-!
# Access to the services behind destinations

An access policy on a destination becomes an authorization policy next to the service. It names the
callers by principals: the trust domain of the mesh on the caller's cluster, its namespace and its
service account. The destination must belong to an Istio mesh, which discovery has named or which is
that of a workload behind the service.
-/

namespace MeshControl.Access

open Injection (Membership)

/-- The stem of the names of the policies for services. -/
def serviceStem : String := "access-policy"

/-- The maker of the policies for services. -/
def serviceMaker : String := "access-policy"

/-- The name of the policy that an access policy becomes for a service. Within the namespace of the
service it depends on both, because one access policy may apply to several services. -/
def servicePolicyName (policy : ObjectRef) (service : ClusterRef) : String :=
  Naming.bounded serviceStem (policy.key ++ "." ++ service.name)

/-- The principal of a service account in a trust domain. -/
def principal (trustDomain : String) (account : ClusterRef) : String :=
  trustDomain ++ "/ns/" ++ account.ns ++ "/sa/" ++ account.name

/-- The trust domain of the first Istio mesh on a cluster. -/
def trustDomain? (input : Input) (cluster : String) : Option String :=
  ((input.meshes.filterMap Mesh.istio).find? fun istio => istio.installation.cluster = cluster).map (·.trustDomain)

/-- The mesh to which a destination belongs. -/
inductive Owner where
  | mesh (mesh : Mesh)
  /-- Discovery has named a mesh that does not exist. -/
  | missing (ref : ObjectRef)
  | unknown
  deriving DecidableEq, Inhabited

/-- Whether a workload runs behind a service. -/
def runsBehind (service : Service) (workload : Workload) : Bool :=
  workload.cluster = service.ref.cluster && workload.ns = service.ref.ns &&
    service.selector.entries.all fun entry => workload.labels.get? entry.1 = some entry.2

/-- The mesh to which a destination belongs: the one that discovery has named, or else that of the first
attributed workload behind the service. A service without selector has no workloads. -/
def ownerOf (input : Input) (membership : Membership) (destination : Destination) : Owner :=
  match destination.spec.mesh with
  | some ref =>
    match input.findMesh? ref with
    | some mesh => .mesh mesh
    | none => .missing ref
  | none =>
    if destination.service.selector.isEmpty then .unknown
    else
      match (input.workloads.filter (runsBehind destination.service)).findSome? membership.meshFor? with
      | none => .unknown
      | some key =>
        match input.meshes.find? fun mesh => mesh.key = key with
        | some mesh => .mesh mesh
        | none => .unknown

/-- The service accounts that an access policy names, in order. -/
def requestedAccounts (spec : AccessPolicySpec) : List ClusterRef := spec.sources.flatMap (·.serviceAccounts)

/-- The principals of the service accounts on clusters with an Istio mesh, ascending and distinct. -/
def principals (input : Input) (accounts : List ClusterRef) : List String :=
  SortedMap.distinct (accounts.filterMap fun account =>
    (trustDomain? input account.cluster).map fun domain => principal domain account)

/-- The requests that an access policy allows. -/
def operationOf (spec : AccessPolicySpec) : Operation where
  ports := spec.ports.map fun port => toString port.toNat
  methods := spec.methods
  paths := spec.paths

/-- The only rule of a policy with some principals and an operation. -/
def ruleOf (principals : List String) (operation : Operation) : Rule where
  sources := if principals.isEmpty then [] else [principals]
  operations := if operation.isEmpty then [] else [operation]

/-- The policy for a service that an access policy with resolved principals becomes. -/
def servicePolicy (service : Service) (applied : AppliedAccessPolicy) (principals : List String) :
    AuthorizationPolicy :=
  let metadata : Metadata :=
    { name := servicePolicyName applied.ref service.ref, ns := service.ref.ns, cluster := service.ref.cluster }
  { metadata := Provenance.appendParent (metadata.addLabels (Provenance.madeBy serviceMaker))
      Provenance.accessPolicyKind applied.ref
    spec :=
      { selector := some service.selector
        action := some .allow
        rules := [ruleOf principals (operationOf applied.spec)] } }

/-- What an access policy becomes on a destination of an Istio mesh. If it names service accounts and
none of them has a principal, it becomes nothing, since a policy without principals admits everyone. -/
def compilePolicy (input : Input) (destination : Destination) (applied : AppliedAccessPolicy) :
    Option AuthorizationPolicy :=
  let accounts := requestedAccounts applied.spec
  let principals := principals input accounts
  if !accounts.isEmpty && principals.isEmpty then none
  else some (servicePolicy destination.service applied principals)

/-- The reports on an access policy: the service accounts on clusters without an Istio mesh, in order. -/
def policyReports (input : Input) (destination : Destination) (applied : AppliedAccessPolicy) : List Report :=
  ((requestedAccounts applied.spec).filter fun account => (trustDomain? input account.cluster).isNone).map
    fun account => .forDestination destination applied.ref (.noMeshForCluster account)

/-- What is made for a destination. -/
structure DestinationResult where
  policies : List AuthorizationPolicy := []
  reports : List Report := []
  deriving DecidableEq, Inhabited

/-- What is made for a destination. Without access policies nothing is looked up. -/
def compileDestination (input : Input) (membership : Membership) (destination : Destination) :
    DestinationResult :=
  if destination.policies.isEmpty then {}
  else
    match ownerOf input membership destination with
    | .unknown => {}
    | .missing ref =>
      { reports := destination.policies.map fun applied =>
          .forDestination destination applied.ref (.meshNotFound ref) }
    | .mesh mesh =>
      if mesh.istio.isNone then {}
      else
        { policies := destination.policies.filterMap (compilePolicy input destination)
          reports := destination.policies.flatMap (policyReports input destination) }

end MeshControl.Access
