import MeshControl.Proofs.Injection.Decision

/-!
# Attribution without memory

`Surroundings` holds the records and settings on which attribution depends. `Surroundings.Owns` says of one
workload and one mesh whether they belong together, from a fresh look at the records; the first mesh to
which a workload belongs and the membership of many workloads follow from it.
-/

namespace MeshControl.Injection

/-- What attribution depends on besides the workloads and the meshes. -/
structure Surroundings where
  namespaces : List NamespaceRecord
  configMaps : List ConfigMapRecord
  /-- The ignored namespaces with which the detector starts. -/
  ignored : List String
  /-- The namespaces it ignores besides. -/
  extra : List String := []
  deriving DecidableEq, Inhabited

/-- The configuration that a load finds for a mesh now, or the default one where it fails. -/
def currentConfig (configMaps : ConfigMaps) (istio : IstioMesh) : Config :=
  match loadConfig istio configMaps with
  | .ok config => config
  | .error _ => { policy := .disabled, always := [], never := [] }

namespace Surroundings

variable (surroundings : Surroundings)

/-- All namespaces whose workloads are never injected. -/
def allIgnored : List String := surroundings.ignored ++ surroundings.extra

/-- The injector of an Istio mesh gives the pods of a workload a sidecar. -/
def Injects (workload : Workload) (istio : IstioMesh) : Prop :=
  Gives surroundings.allIgnored surroundings.namespaces
    (currentConfig (.ofList surroundings.configMaps) istio) workload

/-- A workload belongs to an Istio mesh on its cluster whose proxy it runs or whose injector would give
it one. -/
def Owns (workload : Workload) (mesh : Mesh) : Prop :=
  ∃ istio, mesh.istio = some istio ∧ istio.installation.cluster = workload.cluster ∧
    (proxyContainer ∈ workload.podTemplate.containers ∨ surroundings.Injects workload istio)

instance (workload : Workload) (istio : IstioMesh) : Decidable (surroundings.Injects workload istio) :=
  inferInstanceAs (Decidable (Gives _ _ _ _))

instance (workload : Workload) (mesh : Mesh) : Decidable (surroundings.Owns workload mesh) :=
  inferInstanceAs (Decidable (∃ istio ∈ mesh.istio, istio.installation.cluster = workload.cluster ∧
    (proxyContainer ∈ workload.podTemplate.containers ∨ surroundings.Injects workload istio)))

/-- The first mesh to which a workload belongs. -/
def meshOf? (workload : Workload) (meshes : List Mesh) : Option Mesh :=
  meshes.find? fun mesh => surroundings.Owns workload mesh

/-- On the workload's cluster the proxy and the injector decide. -/
theorem owns_iff {workload : Workload} {mesh : Mesh} {istio : IstioMesh} (isIstio : mesh.istio = some istio)
    (here : istio.installation.cluster = workload.cluster) :
    surroundings.Owns workload mesh ↔ runsProxy workload = true ∨ surroundings.Injects workload istio := by
  simp [Owns, isIstio, here, runsProxy]

theorem meshOf?_cons (workload : Workload) (mesh : Mesh) (meshes : List Mesh) :
    surroundings.meshOf? workload (mesh :: meshes) =
      if surroundings.Owns workload mesh then some mesh else surroundings.meshOf? workload meshes := by
  unfold meshOf?
  rw [List.find?_cons]
  split <;> simp_all

/-- The key of each workload with a mesh and the key of that mesh, in the order of the workloads. -/
def attributions (workloads : List Workload) (meshes : List Mesh) : List (String × String) :=
  workloads.filterMap fun workload =>
    (surroundings.meshOf? workload meshes).map fun mesh => (workload.key, mesh.key)

theorem attributions_append (earlier later : List Workload) (meshes : List Mesh) :
    surroundings.attributions (earlier ++ later) meshes =
      surroundings.attributions earlier meshes ++ surroundings.attributions later meshes :=
  List.filterMap_append

/-- The membership of some workloads. Of workloads with one key the last one with a mesh counts. -/
def membership (workloads : List Workload) (meshes : List Mesh) : Membership :=
  ⟨.ofList (surroundings.attributions workloads meshes)⟩

end Surroundings

/-- The membership that a detector computes over an input. -/
def Detector.membershipOver (detector : Detector) (input : Input) : Membership :=
  (detector.attributeAll input.workloads input.meshes).1

end MeshControl.Injection
