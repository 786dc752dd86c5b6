import Mathlib.Data.List.Nodup
import MeshControl.Proofs.Injection.ConfigMaps
import MeshControl.Proofs.Injection.Memory
import MeshControl.Proofs.Live.Overlay
import MeshControl.Publisher

/-!
# Attribution is local to a cluster

The detector keeps what it knows of all clusters in shared tables, under keys that join names.
`Injection.meshOf?_onCluster` shows for one workload, and `Input.meshFor?_attribution_onCluster` for a whole
call, that nothing of another cluster is ever found under the keys of its own. It follows that live records
of another cluster change nothing.
-/

namespace MeshControl

open Injection (Membership Surroundings)

namespace Input

/-- What the detector's keys rest on: no namespace has a slash in its name and no cluster a dot. -/
structure KeysSeparate (input : Input) : Prop where
  namespaces : ∀ record ∈ input.namespaces, '/' ∉ record.name.toList
  workloadNamespaces : ∀ workload ∈ input.workloads, '/' ∉ workload.ns.toList
  workloadClusters : ∀ workload ∈ input.workloads, '.' ∉ workload.cluster.toList
  configMapClusters : ∀ record ∈ input.configMaps, '.' ∉ record.cluster.toList

/-- The part of an input that concerns injection on a cluster: its workloads and records, and the Istio
meshes that are installed on it. -/
def onCluster (input : Input) (cluster : String) : Input :=
  { input with
    meshes := input.meshes.filter fun mesh => mesh.istio.any fun istio => istio.installation.cluster = cluster
    workloads := input.workloads.filter fun workload => workload.cluster = cluster
    namespaces := input.namespacesOn cluster
    configMaps := input.configMaps.filter fun record => record.cluster = cluster }

/-- The records of an input and the settings of a detector. -/
def surroundings (input : Input) (ignored extra : List String) : Surroundings where
  namespaces := input.namespaces
  configMaps := input.configMaps
  ignored
  extra

/-- The membership that a new detector gives to the workloads of an input. -/
def attribution (input : Input) (ignored extra : List String) : Membership :=
  ((input.surroundings ignored extra).detector.attributeAll input.workloads input.meshes).1

end Input

/-- A pass attributes as a detector does that ignores nothing besides. -/
theorem Publisher.membershipOf_eq (ignored : List String) (input : Input) :
    membershipOf ignored input = input.attribution ignored [] := rfl

namespace Injection

variable {input : Input} {ignored extra : List String} {workload : Workload} {cluster : String}

/-- The configuration of a mesh is not read from a config map on another cluster. -/
theorem currentConfig_filter {records : List ConfigMapRecord} {istio : IstioMesh}
    (noDot : '.' ∉ istio.installation.cluster.toList)
    (noDots : ∀ record ∈ records, '.' ∉ record.cluster.toList) :
    currentConfig (.ofList (records.filter fun record =>
        record.cluster = istio.installation.cluster)) istio = currentConfig (.ofList records) istio := by
  have found := ConfigMaps.find_filter
    ⟨configMapName istio.revision, istio.installation.ns, istio.installation.cluster⟩ noDot noDots
  simp only [currentConfig, loadConfig, found]

theorem namespaceAsks_filter (ignored : List String) (records : List NamespaceRecord) (workload : Workload) :
    NamespaceAsks ignored (records.filter fun record => record.cluster = workload.cluster) workload ↔
      NamespaceAsks ignored records workload := by
  simp only [NamespaceAsks, List.mem_filter, decide_eq_true_eq]
  constructor
  · rintro ⟨record, ⟨member, _⟩, asks⟩
    exact ⟨record, member, asks⟩
  · rintro ⟨record, member, names, here, turnsOn⟩
    exact ⟨record, ⟨member, here⟩, names, here, turnsOn⟩

/-- Records of namespaces count only through the question whether one turns injection on. -/
theorem gives_congr {first second : List NamespaceRecord} {config : Config}
    (asks : NamespaceAsks ignored first workload ↔ NamespaceAsks ignored second workload) :
    Gives ignored first config workload ↔ Gives ignored second config workload := by
  constructor
  · rintro ⟨ownNetwork, notIgnored, asked⟩
    exact ⟨ownNetwork, notIgnored, by rwa [← asks]⟩
  · rintro ⟨ownNetwork, notIgnored, asked⟩
    exact ⟨ownNetwork, notIgnored, by rwa [asks]⟩

section OneWorkload

variable (separate : input.KeysSeparate) (noDot : '.' ∉ workload.cluster.toList)
include separate noDot

/-- Whether a workload belongs to a mesh is decided by the records of its cluster. -/
theorem owns_onCluster (mesh : Mesh) :
    ((input.onCluster workload.cluster).surroundings ignored extra).Owns workload mesh ↔
      (input.surroundings ignored extra).Owns workload mesh := by
  refine exists_congr fun istio => and_congr_right fun _ => and_congr_right fun installed => ?_
  refine or_congr_right ?_
  rw [← installed] at noDot
  have config : currentConfig (.ofList (input.onCluster workload.cluster).configMaps) istio =
      currentConfig (.ofList input.configMaps) istio := by
    rw [← installed]
    exact currentConfig_filter noDot separate.configMapClusters
  unfold Surroundings.Injects
  rw [Input.surroundings, Input.surroundings, config]
  exact gives_congr (namespaceAsks_filter _ input.namespaces workload)

/-- The mesh to which a workload belongs is decided by the meshes and the records of its cluster. -/
theorem meshOf?_onCluster :
    ((input.onCluster workload.cluster).surroundings ignored extra).meshOf? workload
        (input.onCluster workload.cluster).meshes =
      (input.surroundings ignored extra).meshOf? workload input.meshes := by
  unfold Surroundings.meshOf?
  simp only [owns_onCluster separate noDot]
  rw [Input.onCluster, List.find?_filter]
  congr 1
  funext mesh
  -- Only an Istio mesh on the workload's cluster can own it, so the restriction drops no answer.
  rw [decide_eq_decide, decide_eq_true_eq, and_iff_right_iff_imp]
  rintro ⟨istio, isIstio, installed, _⟩
  simp [isIstio, installed]

end OneWorkload

/-- The membership of the workloads on a cluster is decided by the meshes and the records there. -/
theorem meshFor?_membership_onCluster (separate : input.KeysSeparate) (member : workload ∈ input.workloads) :
    (((input.onCluster workload.cluster).surroundings ignored extra).membership
        (input.onCluster workload.cluster).workloads
        (input.onCluster workload.cluster).meshes).meshFor? workload =
      ((input.surroundings ignored extra).membership input.workloads input.meshes).meshFor? workload := by
  simp only [Surroundings.membership, Surroundings.attributions, Membership.meshFor?,
    SortedMap.get?_ofList]
  have alike : ∀ other ∈ (input.onCluster workload.cluster).workloads,
      ((input.onCluster workload.cluster).surroundings ignored extra).meshOf? other
          (input.onCluster workload.cluster).meshes =
        (input.surroundings ignored extra).meshOf? other input.meshes := by
    intro other otherMember
    obtain ⟨inside, here⟩ := List.mem_filter.1 otherMember
    rw [decide_eq_true_eq] at here
    rw [← here]
    exact meshOf?_onCluster separate (separate.workloadClusters other inside)
  rw [List.filterMap_congr fun other otherMember => by rw [alike other otherMember]]
  refine SortedMap.lookupLast_filterMap_filter fun other inside elsewhere entry made same => ?_
  obtain ⟨mesh, _, rfl⟩ := Option.map_eq_some_iff.1 made
  have keys : workload.key = other.key := Std.LawfulEqCmp.eq_of_compare same
  have clusters : workload.cluster = other.cluster := ClusterRef.cluster_eq_of_key_eq
    (separate.workloadClusters workload member) (separate.workloadClusters other inside) keys
  exact absurd clusters.symm (by simpa using elsewhere)

end Injection

namespace Input

variable {input : Input} (ignored extra : List String)

/-- With separate and distinct keys a new detector attributes as the rule does. -/
theorem attribution_eq_membership (separate : input.KeysSeparate)
    (distinct : (input.meshes.map Mesh.key).Nodup) :
    input.attribution ignored extra =
      (input.surroundings ignored extra).membership input.workloads input.meshes := by
  have coherent : Injection.Detector.Coherent (· ∈ input.meshes) := fun _ _ member otherMember same =>
    List.inj_on_of_nodup_map distinct member otherMember same
  have start := Injection.Detector.Faithful.start (input.surroundings ignored extra) (· ∈ input.meshes)
  exact (start.attributeAll coherent separate.namespaces separate.workloadNamespaces
    fun _ member => member).1

theorem KeysSeparate.onCluster (separate : input.KeysSeparate) (cluster : String) :
    (input.onCluster cluster).KeysSeparate where
  namespaces record member := separate.namespaces record (List.mem_of_mem_filter member)
  workloadNamespaces workload member := separate.workloadNamespaces workload (List.mem_of_mem_filter member)
  workloadClusters workload member := separate.workloadClusters workload (List.mem_of_mem_filter member)
  configMapClusters record member := separate.configMapClusters record (List.mem_of_mem_filter member)

/-- What a new detector attributes to a workload does not change when all that concerns other clusters is
left out. -/
theorem meshFor?_attribution_onCluster (separate : input.KeysSeparate)
    (distinct : (input.meshes.map Mesh.key).Nodup) {cluster : String} {workload : Workload}
    (member : workload ∈ (input.onCluster cluster).workloads) :
    ((input.onCluster cluster).attribution ignored extra).meshFor? workload =
      (input.attribution ignored extra).meshFor? workload := by
  obtain ⟨inside, here⟩ := List.mem_filter.1 member
  rw [decide_eq_true_eq] at here
  subst here
  have distinctHere : ((input.onCluster workload.cluster).meshes.map Mesh.key).Nodup :=
    distinct.sublist (List.filter_sublist.map Mesh.key)
  rw [attribution_eq_membership _ _ (separate.onCluster workload.cluster) distinctHere,
    attribution_eq_membership _ _ separate distinct]
  exact Injection.meshFor?_membership_onCluster separate inside

end Input

namespace Live.InjectionInputs

variable {inputs : InjectionInputs} {input : Input}

/-- Live records leave the part of an input on every other cluster as it is. -/
theorem onCluster_applyTo (tagged : inputs.Tagged) (input : Input) {cluster : String}
    (other : cluster ≠ inputs.cluster) :
    (inputs.applyTo input).onCluster cluster = input.onCluster cluster := by
  simp only [Input.onCluster, Input.namespacesOn, applyTo_eq,
    filter_replaced_of_ne NamespaceRecord.cluster _ tagged.namespaces other,
    filter_replaced_of_ne ConfigMapRecord.cluster _ tagged.configMaps other]

theorem keysSeparate_applyTo (separate : input.KeysSeparate) (tagged : inputs.Tagged)
    (noSlash : ∀ record ∈ inputs.namespaces, '/' ∉ record.name.toList)
    (noDot : '.' ∉ inputs.cluster.toList) : (inputs.applyTo input).KeysSeparate where
  namespaces := by
    intro record member
    rcases List.mem_append.1 member with old | loaded
    · exact separate.namespaces record (List.mem_of_mem_filter old)
    · exact noSlash record loaded
  workloadNamespaces := separate.workloadNamespaces
  workloadClusters := separate.workloadClusters
  configMapClusters := by
    intro record member
    rcases List.mem_append.1 member with old | loaded
    · exact separate.configMapClusters record (List.mem_of_mem_filter old)
    · rwa [tagged.configMaps record loaded]

end Live.InjectionInputs

namespace Input

open Live (InjectionInputs)

/-- The mesh to which a new detector attributes a workload is decided by what an input holds for the
workload's cluster. So live records of another cluster never change it. -/
theorem attribution_local (ignored extra : List String) (input : Input) (separate : input.KeysSeparate)
    (distinct : (input.meshes.map Mesh.key).Nodup) :
    (∀ cluster, ∀ workload ∈ (input.onCluster cluster).workloads,
        ((input.onCluster cluster).attribution ignored extra).meshFor? workload =
          (input.attribution ignored extra).meshFor? workload) ∧
      ∀ inputs : InjectionInputs, inputs.Tagged → '.' ∉ inputs.cluster.toList →
        (∀ record ∈ inputs.namespaces, '/' ∉ record.name.toList) →
        ∀ workload ∈ input.workloads, workload.cluster ≠ inputs.cluster →
          ((inputs.applyTo input).attribution ignored extra).meshFor? workload =
            (input.attribution ignored extra).meshFor? workload := by
  refine ⟨fun cluster workload member =>
    meshFor?_attribution_onCluster ignored extra separate distinct member, ?_⟩
  intro inputs tagged noDot noSlash workload member other
  have overlaid := InjectionInputs.keysSeparate_applyTo separate tagged noSlash noDot
  have here : workload ∈ (input.onCluster workload.cluster).workloads :=
    List.mem_filter.2 ⟨member, decide_eq_true rfl⟩
  have unchanged := InjectionInputs.onCluster_applyTo tagged input other
  have hereToo : workload ∈ ((inputs.applyTo input).onCluster workload.cluster).workloads := by
    rwa [unchanged]
  calc
    ((inputs.applyTo input).attribution ignored extra).meshFor? workload
      = (((inputs.applyTo input).onCluster workload.cluster).attribution ignored extra).meshFor? workload :=
        (meshFor?_attribution_onCluster ignored extra overlaid distinct hereToo).symm
    _ = ((input.onCluster workload.cluster).attribution ignored extra).meshFor? workload := by rw [unchanged]
    _ = (input.attribution ignored extra).meshFor? workload :=
        meshFor?_attribution_onCluster ignored extra separate distinct here

section TwoClusters

private def clusterMesh (cluster : String) : Mesh where
  metadata := { name := "istiod-" ++ cluster, ns := "orbit" }
  provider := .istio { installation := { ns := "istio-system", cluster } }

private def clusterPods (name cluster : String) : Workload where
  metadata := { name, ns := "shop", cluster }

/-- The injector on the east injects where nothing else is said, the one on the west has no configuration.
Both clusters have a namespace and a workload of the same names. -/
private def twoClusters : Input where
  meshes := [clusterMesh "west", clusterMesh "east"]
  workloads := [clusterPods "cart" "west", clusterPods "cart" "east", clusterPods "mail" "west"]
  namespaces := [⟨"shop", "west", .ofList [(Injection.injectionLabel, "enabled")]⟩, ⟨"shop", "east", ∅⟩]
  configMaps :=
    [⟨Injection.configMapStem, "istio-system", "east", .ofList [(Injection.configKey, "policy: enabled\n")]⟩]

/-- On the west the namespace has lost its label. -/
private def westRecords : InjectionInputs where
  cluster := "west"
  namespaces := [⟨"shop", "west", ∅⟩]
  configMaps := [⟨Injection.configMapStem, "istio-system", "west", ∅⟩]

/-- The workload on the east keeps its mesh without the west and with live records of the west. -/
theorem attribution_local_two_clusters :
    twoClusters.KeysSeparate ∧ (twoClusters.meshes.map Mesh.key).Nodup ∧ westRecords.Tagged ∧
      ((twoClusters.onCluster "east").attribution Injection.builtinIgnored []).meshFor?
        (clusterPods "cart" "east") = some "istiod-east.orbit" ∧
      ((westRecords.applyTo twoClusters).attribution Injection.builtinIgnored []).meshFor?
        (clusterPods "cart" "east") = some "istiod-east.orbit" := by
  have separate : twoClusters.KeysSeparate :=
    ⟨by decide, by decide, by decide, by decide⟩
  have distinct : (twoClusters.meshes.map Mesh.key).Nodup := by decide
  have tagged : westRecords.Tagged := ⟨by decide, by decide⟩
  obtain ⟨restricted, overlaid⟩ :=
    attribution_local Injection.builtinIgnored [] twoClusters separate distinct
  have whole : (twoClusters.attribution Injection.builtinIgnored []).meshFor? (clusterPods "cart" "east") =
      some "istiod-east.orbit" := by decide +kernel
  refine ⟨separate, distinct, tagged, ?_, ?_⟩
  · rw [restricted "east" _ (by decide), whole]
  · rw [overlaid westRecords tagged (by decide) (by decide) _ (by decide) (by decide), whole]

end TwoClusters

end Input

end MeshControl
