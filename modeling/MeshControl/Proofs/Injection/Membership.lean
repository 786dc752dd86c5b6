import Mathlib.Data.List.Nodup
import MeshControl.Proofs.Injection.Memory

/-!
# Membership is per workload

A detector learns while it attributes workloads, but what it learns about some meshes does not change its
answers about them (`Detector.AnswersLike`). So one call gives each workload the mesh that the detector would
give to it alone, whatever it knows already, as long as no two workloads have the same dotted key. That
namespaces have no dots is not enough for this: a dot in the name of one workload can stand where another
workload has one in the name of its cluster (`Detector.membership_of_another_workload`).
-/

namespace MeshControl.Injection.Detector

variable {detector later : Detector} {meshes : List Mesh} {mesh : Mesh} {workload : Workload}

/-- A detector answers questions about some meshes like another one: it has the same settings, and the same
configuration for each of the meshes, loaded before or not. -/
structure AnswersLike (meshes : List Mesh) (later detector : Detector) : Prop where
  ignored : later.ignored = detector.ignored
  injected : later.injected = detector.injected
  configs : ∀ mesh ∈ meshes, (later.configFor mesh).1 = (detector.configFor mesh).1

namespace AnswersLike

theorem refl (meshes : List Mesh) (detector : Detector) : AnswersLike meshes detector detector :=
  ⟨rfl, rfl, fun _ _ => rfl⟩

theorem trans {first : Detector} (second : AnswersLike meshes later detector)
    (earlier : AnswersLike meshes detector first) : AnswersLike meshes later first where
  ignored := second.ignored.trans earlier.ignored
  injected := second.injected.trans earlier.injected
  configs mesh member := (second.configs mesh member).trans (earlier.configs mesh member)

end AnswersLike

/-- The configuration that a load finds for a mesh, or the default one where it fails or the mesh is not one of
Istio. -/
def freshConfig (configMaps : ConfigMaps) (mesh : Mesh) : Config :=
  (mesh.istio.map (currentConfig configMaps)).getD {}

/-- The configuration of a mesh is the one that is held, or else what a load finds. -/
theorem configFor_fst (detector : Detector) (mesh : Mesh) :
    (detector.configFor mesh).1 =
      (detector.configs.get? mesh.key).getD (freshConfig detector.configMaps mesh) := by
  unfold configFor freshConfig currentConfig
  cases detector.configs.get? mesh.key with
  | some config => rfl
  | none =>
    cases mesh.istio with
    | none => rfl
    | some istio =>
      rw [Option.map_some, Option.map_some]
      cases loadConfig istio detector.configMaps <;> rfl

/-- A configuration that is looked up is held from then on. Nothing else is learned but anomalies. -/
theorem configFor_snd (detector : Detector) (mesh : Mesh) :
    ∃ configs anomalies, (detector.configFor mesh).2 = { detector with configs, anomalies } ∧
      ∀ key, configs.get? key =
        if key = mesh.key then some (detector.configFor mesh).1 else detector.configs.get? key := by
  unfold configFor
  cases held : detector.configs.get? mesh.key with
  | some config =>
    refine ⟨_, _, rfl, fun key => ?_⟩
    by_cases same : key = mesh.key
    · simp [same, held]
    · simp [same]
  | none =>
    cases mesh.istio.map fun istio => loadConfig istio detector.configMaps with
    | none => exact ⟨_, _, rfl, fun key => SortedMap.get?_insert_of_lawful _ _ key _⟩
    | some loaded => cases loaded with
      | ok config => exact ⟨_, _, rfl, fun key => SortedMap.get?_insert_of_lawful _ _ key _⟩
      | error error => exact ⟨_, _, rfl, fun key => SortedMap.get?_insert_of_lawful _ _ key _⟩

/-- A mesh takes a workload that runs its proxy or to whose pods its injector gives one. -/
def takes (detector : Detector) (workload : Workload) (mesh : Mesh) : Bool :=
  isCandidate workload mesh && (runsProxy workload || (detector.injects workload mesh).1)

theorem AnswersLike.injects (like : AnswersLike meshes later detector) (workload : Workload)
    (member : mesh ∈ meshes) :
    (later.injects workload mesh).1 = (detector.injects workload mesh).1 := by
  obtain ⟨_, _, after, _⟩ := configFor_snd later mesh
  obtain ⟨_, _, afterward, _⟩ := configFor_snd detector mesh
  simp only [Detector.injects, like.configs mesh member, like.injected, after, afterward, like.ignored]

/-- The key of each workload that a mesh takes, with the key of the first mesh that does. -/
def entries (detector : Detector) (meshes : List Mesh) (workloads : List Workload) : List (String × String) :=
  workloads.filterMap fun workload =>
    ((meshes.find? (detector.takes workload)).map Mesh.key).map (Prod.mk workload.key)

section Distinct

variable (distinct : (meshes.map Mesh.key).Nodup)
include distinct

/-- A detector that has looked up the configuration of one of the meshes answers as before. -/
theorem answersLike_configFor (detector : Detector) (member : mesh ∈ meshes) :
    AnswersLike meshes (detector.configFor mesh).2 detector := by
  obtain ⟨configs, anomalies, after, held⟩ := configFor_snd detector mesh
  rw [after]
  refine ⟨rfl, rfl, fun other otherMember => ?_⟩
  rw [configFor_fst, held]
  split
  · next same =>
    obtain rfl := List.inj_on_of_nodup_map distinct otherMember member same
    rfl
  · exact (configFor_fst detector other).symm

/-- A workload is given to the first mesh that takes it, and what is learned meanwhile does not change what the
detector answers about any of the meshes. -/
theorem AnswersLike.detect (like : AnswersLike meshes later detector) (workload : Workload)
    {searched : List Mesh} (among : searched ⊆ meshes) :
    (later.detect workload searched).1 = searched.find? (detector.takes workload) ∧
      AnswersLike meshes (later.detect workload searched).2 detector := by
  induction searched generalizing later with
  | nil => exact ⟨rfl, like⟩
  | cons mesh searched inductionHypothesis =>
    rw [List.cons_subset] at among
    have decided := like.injects workload among.1
    have after := (answersLike_configFor distinct later among.1).trans like
    have here : detector.takes workload mesh =
      (isCandidate workload mesh && (runsProxy workload || (later.injects workload mesh).1)) := by
      rw [decided, takes]
    change AnswersLike meshes (later.injects workload mesh).2 detector at after
    rw [List.find?_cons, here, detect_cons]
    cases isCandidate workload mesh with
    | false => exact inductionHypothesis like among.2
    | true =>
      cases runsProxy workload with
      | true => exact ⟨rfl, like⟩
      | false =>
        cases (later.injects workload mesh).1 with
        | true => exact ⟨rfl, after⟩
        | false => exact inductionHypothesis after among.2

/-- One more workload is given to the first mesh that takes it. -/
theorem AnswersLike.attributeOne {state : Membership × Detector} (like : AnswersLike meshes state.2 detector)
    (workload : Workload) :
    (Detector.attributeOne meshes state workload).1.byWorkload =
        state.1.byWorkload.insertAll (detector.entries meshes [workload]) ∧
      AnswersLike meshes (Detector.attributeOne meshes state workload).2 detector := by
  obtain ⟨detected, after⟩ := like.detect distinct workload (List.Subset.refl meshes)
  rw [attributeOne_eq, entries, List.filterMap_cons, ← detected]
  refine ⟨?_, after⟩
  cases (state.2.detect workload meshes).1 with
  | none => rfl
  | some mesh => rfl

/-- Attributing workloads stores what each of them is given. -/
theorem AnswersLike.foldl {state : Membership × Detector} (like : AnswersLike meshes state.2 detector)
    (workloads : List Workload) :
    let final := workloads.foldl (Detector.attributeOne meshes) state
    final.1.byWorkload = state.1.byWorkload.insertAll (detector.entries meshes workloads) ∧
      AnswersLike meshes final.2 detector := by
  induction workloads generalizing state with
  | nil => exact ⟨rfl, like⟩
  | cons workload workloads inductionHypothesis =>
    obtain ⟨stored, after⟩ := like.attributeOne distinct workload
    obtain ⟨rest, last⟩ := inductionHypothesis after
    refine ⟨?_, last⟩
    rw [List.foldl_cons, rest, stored, ← SortedMap.insertAll_append, entries, entries, ← List.filterMap_append]
    rfl

/-- A call stores what the detector that is asked first gives to each workload. -/
theorem AnswersLike.attributeAll (like : AnswersLike meshes later detector) (workloads : List Workload) :
    (later.attributeAll workloads meshes).1 = ⟨.ofList (detector.entries meshes workloads)⟩ ∧
      AnswersLike meshes (later.attributeAll workloads meshes).2 detector := by
  have start : AnswersLike meshes (({}, later) : Membership × Detector).2 detector := like
  obtain ⟨stored, after⟩ := start.foldl distinct workloads
  exact ⟨congrArg Membership.mk stored, after⟩

/-- With keys of their own, each workload finds in the membership the mesh that it was given. -/
theorem meshFor?_attributeAll (detector : Detector) {workloads : List Workload}
    (distinctKeys : (workloads.map Workload.key).Nodup) (member : workload ∈ workloads) :
    (detector.attributeAll workloads meshes).1.meshFor? workload =
      (detector.detect workload meshes).1.map Mesh.key := by
  have like : AnswersLike meshes detector detector := .refl meshes detector
  rw [(like.attributeAll distinct workloads).1, Membership.meshFor?, SortedMap.get?_ofList, entries,
    SortedMap.lookupLast_filterMap_of_mem _ _ distinctKeys member,
    (like.detect distinct workload (List.Subset.refl meshes)).1]

/-- After a call a detector answers as before. -/
theorem answersLike_attributeAll (detector : Detector) (workloads : List Workload) :
    AnswersLike meshes (detector.attributeAll workloads meshes).2 detector :=
  ((AnswersLike.refl meshes detector).attributeAll distinct workloads).2

end Distinct

/-- A membership says of a workload what a detector says when it is asked about the workload itself. -/
def Tells (membership : Membership) (asked : Detector) (meshes : List Mesh) (workload : Workload) : Prop :=
  (∀ mesh ∈ meshes, membership.meshFor? workload = some mesh.key ↔
      (asked.detect workload meshes).1 = some mesh) ∧
    (membership.meshFor? workload = none ↔ (asked.detect workload meshes).1 = none)

/-- In one call about meshes with different keys, workloads with different keys are told apart: whatever the
detector knows before, the membership says of each workload what the detector says about it alone, be it asked
before the call, when the workload has its turn, or after the call. Workloads of different names, namespaces or
clusters have different keys if no namespace has a dot and there are no two of which one has a dot in its name
and the other one in its cluster. -/
theorem membership_per_workload (detector : Detector) (meshes : List Mesh) (workloads : List Workload)
    (meshKeys : (meshes.map Mesh.key).Nodup) :
    ((workloads.map Workload.key).Nodup →
      ∀ earlier rest workload, workloads = earlier ++ workload :: rest →
        ∀ asked ∈ [detector, (detector.attributeAll earlier meshes).2,
            (detector.attributeAll workloads meshes).2],
          Tells (detector.attributeAll workloads meshes).1 asked meshes workload) ∧
    ((workloads.map fun workload => workload.metadata.clusterRef).Nodup →
      (∀ workload ∈ workloads, '.' ∉ workload.ns.toList) →
      (∀ workload ∈ workloads, ∀ other ∈ workloads, workload ≠ other →
        '.' ∉ workload.metadata.name.toList ∨ '.' ∉ other.cluster.toList) →
      (workloads.map Workload.key).Nodup) := by
  constructor
  · intro distinctKeys earlier rest workload split asked among
    have member : workload ∈ workloads := split ▸ List.mem_append_right earlier List.mem_cons_self
    have like : ∀ asked ∈ [detector, (detector.attributeAll earlier meshes).2,
        (detector.attributeAll workloads meshes).2], AnswersLike meshes asked detector := by
      simp only [List.forall_mem_cons]
      exact ⟨.refl meshes detector, answersLike_attributeAll meshKeys detector earlier,
        answersLike_attributeAll meshKeys detector workloads, by simp⟩
    have detected (state : Detector) (alike : AnswersLike meshes state detector) :=
      (alike.detect meshKeys workload (List.Subset.refl meshes)).1
    rw [Tells, meshFor?_attributeAll meshKeys detector distinctKeys member, detected asked (like asked among),
      detected detector (.refl meshes detector), Option.map_eq_none_iff]
    refine ⟨fun mesh inside => ⟨fun told => ?_, fun found => by rw [found]; rfl⟩, Iff.rfl⟩
    obtain ⟨found, first, same⟩ := Option.map_eq_some_iff.1 told
    rw [first, List.inj_on_of_nodup_map meshKeys (List.mem_of_find?_eq_some first) inside same]
  · intro refs namespaces apart
    refine List.pairwise_map.2 ((List.pairwise_map.1 refs).imp_of_mem fun {first second} inside otherInside
      differ same => differ ?_)
    have distinct : first ≠ second := fun equal => differ (by rw [equal])
    exact ClusterRef.eq_of_key_eq_of_apart (namespaces first inside) (namespaces second otherInside)
      (apart first inside second otherInside distinct) (apart second otherInside first inside distinct.symm)
      same

section DottedNames

/-- A mesh on the cluster of the second kind of pods below. -/
private def eastMesh : Mesh where
  metadata := { name := "istiod", ns := "orbit" }
  provider := .istio { installation := { ns := "istio-system", cluster := "east" } }

/-- Pods without a proxy on some cluster. -/
private def barePods (cluster : String) : Workload where
  metadata := { name := "cart", ns := "shop", cluster }

/-- Pods with a proxy, whose name has a dot. -/
private def proxyPods : Workload where
  metadata := { name := "cart.shop", ns := "eu", cluster := "east" }
  podTemplate := { containers := ["cart", proxyContainer] }

private def plainDetector : Detector := .new builtinIgnored [] {}

/-- With no dot in the name of a cluster, the pods without a proxy are not taken for those with one. -/
theorem membership_per_workload_dotted_name :
    let workloads := [barePods "eu", proxyPods]
    ([eastMesh].map Mesh.key).Nodup ∧ (workloads.map fun workload => workload.metadata.clusterRef).Nodup ∧
      (∀ workload ∈ workloads, '.' ∉ workload.ns.toList) ∧
      (∀ workload ∈ workloads, ∀ other ∈ workloads, workload ≠ other →
        '.' ∉ workload.metadata.name.toList ∨ '.' ∉ other.cluster.toList) ∧
      let membership := (plainDetector.attributeAll workloads [eastMesh]).1
      membership.meshFor? (barePods "eu") = none ∧ membership.meshFor? proxyPods = some "istiod.orbit" := by
  intro workloads
  have meshKeys : ([eastMesh].map Mesh.key).Nodup := by decide
  have refs : (workloads.map fun workload => workload.metadata.clusterRef).Nodup := by decide
  have namespaces : ∀ workload ∈ workloads, '.' ∉ workload.ns.toList := by decide
  have apart : ∀ workload ∈ workloads, ∀ other ∈ workloads, workload ≠ other →
      '.' ∉ workload.metadata.name.toList ∨ '.' ∉ other.cluster.toList := by decide
  obtain ⟨told, keys⟩ := membership_per_workload plainDetector [eastMesh] workloads meshKeys
  have told := told (keys refs namespaces apart)
  have bare := told [] [proxyPods] (barePods "eu") rfl plainDetector List.mem_cons_self
  have proxied := told [barePods "eu"] [] proxyPods rfl plainDetector List.mem_cons_self
  refine ⟨meshKeys, refs, namespaces, apart, bare.2.2 (by decide), ?_⟩
  exact (proxied.1 eastMesh List.mem_cons_self).2 (by decide)

/-- With a dot in the name of a cluster, pods without a proxy, which the detector gives to no mesh, have the mesh
of others in the membership: both have the key `cart.shop.eu.east`. -/
theorem membership_of_another_workload :
    let workloads := [barePods "eu.east", proxyPods]
    let membership := (plainDetector.attributeAll workloads [eastMesh]).1
    (workloads.map fun workload => workload.metadata.clusterRef).Nodup ∧
      (∀ workload ∈ workloads, '.' ∉ workload.ns.toList) ∧ ([eastMesh].map Mesh.key).Nodup ∧
      (plainDetector.detect (barePods "eu.east") [eastMesh]).1 = none ∧
      membership.meshFor? (barePods "eu.east") = some "istiod.orbit" ∧
      ¬ Tells membership plainDetector [eastMesh] (barePods "eu.east") := by
  intro workloads membership
  have unattributed : (plainDetector.detect (barePods "eu.east") [eastMesh]).1 = none := by decide
  have inherited : membership.meshFor? (barePods "eu.east") = some "istiod.orbit" := by decide
  refine ⟨by decide, by decide, by decide, unattributed, inherited, fun told => ?_⟩
  rw [told.2.2 unattributed] at inherited
  cases inherited

end DottedNames

end MeshControl.Injection.Detector
