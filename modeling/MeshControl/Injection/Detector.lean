import MeshControl.Injection.Config
import MeshControl.Input
import MeshControl.Text.Blank

/-!
# Which mesh a workload belongs to

A workload belongs to the first Istio mesh on its cluster whose proxy it runs, or whose injector
would give its pods a proxy. `injectRequired` is the decision of the injector. The detector keeps
what it has loaded: the configuration of a mesh is read once, at the first question that needs it.
-/

namespace MeshControl.Injection

/-- The name of the proxy's container. -/
def proxyContainer : String := "istio-proxy"

/-- The annotation by which a pod asks for a sidecar or refuses one. -/
def injectAnnotation : String := "sidecar.istio.io/inject"

/-- The label by which a namespace asks for sidecars. -/
def injectionLabel : String := "istio-injection"

/-- The label by which a namespace asks for the sidecars of a revision. -/
def revisionLabel : String := "istio.io/rev"

/-- The namespace of control planes, whose workloads its labels never inject. -/
def systemNamespace : String := "istio-system"

/-- Namespaces whose workloads are never injected. -/
def builtinIgnored : List String := ["kube-system", "kube-public", "kube-node-lease", "local-path-storage"]

/-- Adds names at the end of a list, except those that are there already. -/
def addNew (present : List String) (names : List String) : List String :=
  names.foldl (fun present name => if name ∈ present then present else present ++ [name]) present

/-- The ignored namespaces when a comma-separated list adds to those that always are. -/
def ignoredNamespaces (extra : Option String) : List String :=
  match extra with
  | none => builtinIgnored
  | some extra => addNew builtinIgnored (((Text.split ',' extra).map Text.trim).filter fun name => !name.isEmpty)

/-- The identity of a namespace on a cluster. -/
def namespaceKey (name cluster : String) : String := name ++ "/" ++ cluster

/-- Whether the labels of a namespace ask for sidecars. -/
def labelsEnable (record : NamespaceRecord) (ignored : List String) : Bool :=
  if record.name = systemNamespace || ignored.contains record.name then false
  else record.labels.contains revisionLabel || record.labels.get? injectionLabel = some "enabled"

/-- Whether the pods of a workload run the proxy already. -/
def runsProxy (workload : Workload) : Bool := workload.podTemplate.containers.contains proxyContainer

/-- Whether one of some selectors matches the labels of a workload. Selectors that ask for nothing and
selectors that cannot be compiled match nothing. -/
def anyMatches (selectors : List LabelSelector) (workload : Workload) : Bool :=
  selectors.any fun selector =>
    match Selector.compile selector with
    | .ok selector => !selector.isEmpty && selector.holds workload.labels
    | .error _ => false

/-- What the pods of a workload ask for by their annotation. -/
inductive Request where
  | injection
  | refusal
  /-- No annotation, or an empty one. -/
  | nothing
  deriving DecidableEq, Repr, Inhabited

/-- What the pods of a workload ask for. Letters count without their case. -/
def request (workload : Workload) : Request :=
  match ((workload.podAnnotation injectAnnotation).getD "").map Char.toLower with
  | "y" | "yes" | "true" | "on" => .injection
  | "" => .nothing
  | _ => .refusal

/-- Whether the injector gives a workload's pods a sidecar. Pods on the host's network and in ignored
namespaces never get one; then the annotation decides, then the selectors and the namespace, and at
last the policy. -/
def injectRequired (ignored : List String) (namespaceInjected : Bool) (config : Config)
    (workload : Workload) : Bool :=
  if workload.podTemplate.hostNetwork || ignored.contains workload.ns then false
  else
    match request workload with
    | .injection => true
    | .refusal => false
    | .nothing =>
      if anyMatches config.never workload then false
      else if namespaceInjected || anyMatches config.always workload then true
      else config.policy = .enabled

/-- A mesh whose configuration could not be loaded. -/
structure Anomaly where
  /-- The key of the mesh. -/
  mesh : String
  error : ConfigError
  deriving DecidableEq, Repr, Inhabited

/-- The wording of the anomaly, with the complaints of the YAML library about configurations. -/
def Anomaly.message (complaint : String → String) (anomaly : Anomaly) : String :=
  "mesh " ++ anomaly.mesh ++ ": " ++ anomaly.error.message complaint

/-- The key of each attributed workload with the key of its mesh. -/
structure Membership where
  byWorkload : TextMap String := ∅
  deriving DecidableEq, Inhabited

namespace Membership

/-- The key of the mesh of a workload. -/
def meshFor? (membership : Membership) (workload : Workload) : Option String :=
  membership.byWorkload.get? workload.key

/-- Attributes a workload to a mesh. -/
def insert (membership : Membership) (workload : Workload) (mesh : Mesh) : Membership :=
  ⟨membership.byWorkload.insert workload.key mesh.key⟩

end Membership

/-- What is known while workloads are attributed. -/
structure Detector where
  configMaps : ConfigMaps
  /-- Namespaces whose workloads are never injected. -/
  ignored : List String
  /-- The identities of the namespaces whose labels ask for sidecars. -/
  injected : List String
  /-- The configurations loaded so far, by the keys of their meshes. -/
  configs : TextMap Config := ∅
  /-- The failures to load a configuration, in order. -/
  anomalies : List Anomaly := []
  deriving DecidableEq, Inhabited

namespace Detector

/-- A detector over some namespaces and config maps. The labels of ignored namespaces do not count. -/
def new (ignored : List String) (namespaces : List NamespaceRecord) (configMaps : ConfigMaps) : Detector where
  configMaps
  ignored
  injected := (namespaces.filter fun record => labelsEnable record ignored).map fun record =>
    namespaceKey record.name record.cluster

/-- Ignores more namespaces from now on. -/
def ignore (detector : Detector) (extra : List String) : Detector :=
  { detector with ignored := addNew detector.ignored extra }

/-- The configuration of a mesh, loaded unless it was before. A mesh whose configuration cannot be
loaded has the default one and is noted as an anomaly. -/
def configFor (detector : Detector) (mesh : Mesh) : Config × Detector :=
  match detector.configs.get? mesh.key with
  | some config => (config, detector)
  | none =>
    match mesh.istio.map fun istio => loadConfig istio detector.configMaps with
    | some (.ok config) => (config, { detector with configs := detector.configs.insert mesh.key config })
    | some (.error error) =>
      ({}, { detector with
        configs := detector.configs.insert mesh.key {}
        anomalies := detector.anomalies ++ [⟨mesh.key, error⟩] })
    | none => ({}, { detector with configs := detector.configs.insert mesh.key {} })

/-- Whether the injector of a mesh gives a workload's pods a sidecar. -/
def injects (detector : Detector) (workload : Workload) (mesh : Mesh) : Bool × Detector :=
  let namespaceInjected := detector.injected.contains (namespaceKey workload.ns workload.cluster)
  let (config, detector) := detector.configFor mesh
  (injectRequired detector.ignored namespaceInjected config workload, detector)

/-- Whether a mesh is an Istio mesh on the cluster of a workload. -/
def isCandidate (workload : Workload) (mesh : Mesh) : Bool :=
  mesh.istio.any fun istio => istio.installation.cluster = workload.cluster

/-- The first mesh that a workload belongs to. -/
def detect (detector : Detector) (workload : Workload) : List Mesh → Option Mesh × Detector
  | [] => (none, detector)
  | mesh :: meshes =>
    if !isCandidate workload mesh then detect detector workload meshes
    else if runsProxy workload then (some mesh, detector)
    else
      match detector.injects workload mesh with
      | (true, detector) => (some mesh, detector)
      | (false, detector) => detect detector workload meshes

/-- Attributes one more workload. -/
def attributeOne (meshes : List Mesh) (state : Membership × Detector) (workload : Workload) :
    Membership × Detector :=
  match state.2.detect workload meshes with
  | (some mesh, detector) => (state.1.insert workload mesh, detector)
  | (none, detector) => (state.1, detector)

/-- Attributes workloads in order. Of workloads with one key the last attributed one counts. -/
def attributeAll (detector : Detector) (workloads : List Workload) (meshes : List Mesh) :
    Membership × Detector :=
  workloads.foldl (attributeOne meshes) ({}, detector)

end Detector

end MeshControl.Injection
