import MeshControl.Proofs.Access.Findings
import MeshControl.Proofs.Injection.Membership

/-!
# The mesh behind a service

Where discovery has not named the mesh of a destination, the mesh is found through the workloads behind its
service. The detector stores the key of a mesh under the key of each workload, and the destination's mesh is looked
up by both keys again. With keys of their own nothing is lost on this way (`owner_is_first_attributed`): the
destination belongs to the mesh of the first attributed workload behind its service, which is an Istio mesh on the
cluster of the service, because a detector gives workloads only to such meshes.
-/

namespace MeshControl.Access

open Injection (Membership Detector)

variable {input : Input} {membership : Membership} {destination : Destination} {service : Service}
  {workload : Workload} {mesh : Mesh}

/-- A mesh is the one to which the first attributed workload behind a service is attributed. -/
structure OwnsFirst (input : Input) (membership : Membership) (service : Service) (mesh : Mesh) : Prop where
  listed : mesh ∈ input.meshes
  first : FirstAttributed input membership service mesh.key

/-- The first attributed workload behind a service is one of the input's. -/
theorem FirstAttributed.exists_workload {key : String} (first : FirstAttributed input membership service key) :
    ∃ workload ∈ input.workloads, RunsBehind service workload ∧ membership.meshFor? workload = some key := by
  obtain ⟨earlier, workload, later, split, behind, told, _⟩ := first
  have inside : workload ∈ input.workloads := split ▸ List.mem_append_right earlier List.mem_cons_self
  exact ⟨workload, inside, behind, told⟩

/-- Without a named mesh a destination belongs to the mesh of the first attributed workload behind it. -/
theorem ownerOf_eq_mesh_iff (undiscovered : destination.spec.mesh = none)
    (meshKeys : (input.meshes.map Mesh.key).Nodup) :
    ownerOf input membership destination = .mesh mesh ↔
      destination.service.selector ≠ ∅ ∧ OwnsFirst input membership destination.service mesh := by
  have keyed (key : String) : IsFirstMesh input (·.key = key) mesh ↔ mesh ∈ input.meshes ∧ mesh.key = key := by
    rw [← find?_meshes_eq_some_iff]
    exact find?_eq_some_iff_of_apart fun _ member _ otherMember => List.inj_on_of_nodup_map meshKeys member otherMember
  rw [ownerOf_eq_mesh_iff_resolvesTo]
  constructor
  · intro resolves
    cases resolves with
    | named given => cases given.symm.trans undiscovered
    | inferred _ selective attributed first =>
      obtain ⟨listed, rfl⟩ := (keyed _).1 first
      exact ⟨selective, listed, attributed⟩
  · rintro ⟨selective, listed, attributed⟩
    exact .inferred undiscovered selective attributed ((keyed _).2 ⟨listed, rfl⟩)

/-- Without a named mesh nothing is reported on a destination but service accounts of its access policies. -/
theorem of_mem_reports_of_undiscovered (undiscovered : destination.spec.mesh = none) {report : Report}
    (member : report ∈ (compileDestination input membership destination).reports) :
    ∃ applied ∈ destination.policies, ∃ account ∈ requestedAccounts applied.spec,
      report = .onDestination destination.ref applied.ref (.noMeshForCluster account) := by
  rw [compileDestination_reports, owedOnDestination, undiscovered, Option.filter_none] at member
  dsimp only at member
  split at member
  · simp only [List.mem_flatMap, List.mem_map, List.mem_filter] at member
    obtain ⟨applied, inside, account, ⟨listed, _⟩, rfl⟩ := member
    exact ⟨applied, inside, account, List.mem_flatMap.2 listed, rfl⟩
  · cases member

section Distinct

variable (detector : Detector) (meshKeys : (input.meshes.map Mesh.key).Nodup)
  (workloadKeys : (input.workloads.map Workload.key).Nodup)
include meshKeys workloadKeys

/-- A workload is attributed to a listed Istio mesh on its own cluster. -/
theorem exists_mesh_of_meshFor? (member : workload ∈ input.workloads) {key : String}
    (told : (detector.membershipOver input).meshFor? workload = some key) :
    ∃ mesh ∈ input.meshes, mesh.key = key ∧
      ∃ istio, mesh.istio = some istio ∧ istio.installation.cluster = workload.cluster := by
  have like : detector.AnswersLike input.meshes detector := .refl input.meshes detector
  rw [Detector.membershipOver, Detector.meshFor?_attributeAll meshKeys detector workloadKeys member,
    (like.detect meshKeys workload (List.Subset.refl input.meshes)).1, Option.map_eq_some_iff] at told
  obtain ⟨mesh, found, named⟩ := told
  have takes := List.find?_some found
  rw [Detector.takes, Bool.and_eq_true] at takes
  exact ⟨mesh, List.mem_of_find?_eq_some found, named, (Detector.isCandidate_iff workload mesh).1 takes.1⟩

/-- Some workload behind a service is attributed exactly if some mesh is that of the first one. -/
theorem exists_ownsFirst_iff (service : Service) :
    (∃ mesh, OwnsFirst input (detector.membershipOver input) service mesh) ↔
      ∃ workload ∈ input.workloads, RunsBehind service workload ∧
        (detector.membershipOver input).meshFor? workload ≠ none := by
  constructor
  · rintro ⟨mesh, owns⟩
    obtain ⟨workload, inside, behind, told⟩ := owns.first.exists_workload
    exact ⟨workload, inside, behind, by simp [told]⟩
  · rintro ⟨workload, inside, behind, attributed⟩
    have answered : ((input.workloads.filter (runsBehind service)).findSome?
        (detector.membershipOver input).meshFor?).isSome := by
      rw [List.findSome?_isSome_iff]
      exact ⟨workload, List.mem_filter.2 ⟨inside, runsBehind_iff.2 behind⟩, Option.isSome_iff_ne_none.2 attributed⟩
    obtain ⟨key, first⟩ := Option.isSome_iff_exists.1 answered
    rw [findSome?_meshFor?_eq_some_iff] at first
    -- The first attributed workload need not be the given one.
    obtain ⟨workload, inside, _, told⟩ := first.exists_workload
    obtain ⟨mesh, listed, rfl, _⟩ := exists_mesh_of_meshFor? detector meshKeys workloadKeys inside told
    exact ⟨mesh, listed, first⟩

/-- The mesh of the first attributed workload behind a service is an Istio mesh on the cluster of the service. -/
theorem OwnsFirst.installed (owns : OwnsFirst input (detector.membershipOver input) service mesh) :
    ∃ istio, mesh.istio = some istio ∧ istio.installation.cluster = service.ref.cluster := by
  obtain ⟨workload, inside, behind, told⟩ := owns.first.exists_workload
  obtain ⟨other, listed, same, istio, isIstio, here⟩ :=
    exists_mesh_of_meshFor? detector meshKeys workloadKeys inside told
  -- The membership holds only the key, and no other mesh has it.
  rw [List.inj_on_of_nodup_map meshKeys listed owns.listed same] at isIstio
  exact ⟨istio, isIstio, here.trans behind.cluster⟩

end Distinct

/-- In an input whose meshes and workloads have keys of their own, a destination without a named mesh has a mesh
exactly if its service has a selector and some workload behind the service is attributed to a mesh by the detector's
membership. Then it is the mesh of the first of these workloads, an Istio mesh on the cluster of the service. No
mesh is ever reported on such a destination, only service accounts of its access policies are. -/
theorem owner_is_first_attributed (detector : Detector) (input : Input) (destination : Destination)
    (undiscovered : destination.spec.mesh = none) (meshKeys : (input.meshes.map Mesh.key).Nodup)
    (workloadKeys : (input.workloads.map Workload.key).Nodup) :
    ((∃ mesh, ownerOf input (detector.membershipOver input) destination = .mesh mesh) ↔
        destination.service.selector ≠ ∅ ∧ ∃ workload ∈ input.workloads,
          RunsBehind destination.service workload ∧
            (detector.membershipOver input).meshFor? workload ≠ none) ∧
      (∀ mesh, ownerOf input (detector.membershipOver input) destination = .mesh mesh ↔
        destination.service.selector ≠ ∅ ∧
          OwnsFirst input (detector.membershipOver input) destination.service mesh) ∧
      (∀ mesh, ownerOf input (detector.membershipOver input) destination = .mesh mesh →
        ∃ istio, mesh.istio = some istio ∧
          istio.installation.cluster = destination.service.ref.cluster) ∧
      (∀ report ∈ (compileDestination input (detector.membershipOver input) destination).reports,
        ∃ applied ∈ destination.policies, ∃ account ∈ requestedAccounts applied.spec,
          report = .onDestination destination.ref applied.ref (.noMeshForCluster account)) := by
  have owned (mesh : Mesh) : ownerOf input (detector.membershipOver input) destination = .mesh mesh ↔
      destination.service.selector ≠ ∅ ∧
        OwnsFirst input (detector.membershipOver input) destination.service mesh :=
    ownerOf_eq_mesh_iff undiscovered meshKeys
  refine ⟨?_, owned, fun mesh owner => ?_, fun report => of_mem_reports_of_undiscovered undiscovered⟩
  · simp only [owned, exists_and_left, exists_ownsFirst_iff detector meshKeys workloadKeys]
  · exact ((owned mesh).1 owner).2.installed detector meshKeys workloadKeys

section Ratings

private def controlPlane (cluster : String) : Mesh where
  metadata := { name := "istiod-" ++ cluster, ns := "orbit" }
  provider := .istio { installation := { ns := "istio-system", cluster } }

private def ratingsPods (version : String) (containers : List String) : Workload where
  metadata :=
    { name := "ratings-" ++ version, ns := "bookinfo", cluster := "east",
      labels := .ofList [("app", "ratings"), ("version", version)] }
  podTemplate := { containers }

/-- Of the two workloads behind the service only the second one runs a proxy. -/
private def bookinfo : Input where
  meshes := [controlPlane "west", controlPlane "east"]
  workloads := [ratingsPods "v1" ["ratings"], ratingsPods "v2" ["ratings", Injection.proxyContainer]]

private def ratings : Destination where
  metadata := { name := "ratings", ns := "orbit" }
  spec := { service := { ref := ⟨"ratings", "bookinfo", "east"⟩, selector := .ofList [("app", "ratings")] } }

private def unlabelledDetector : Detector := .new Injection.builtinIgnored [] {}

/-- The workload that is not attributed is passed over, and the destination belongs to the mesh of the other one,
which is installed on the cluster of the service. -/
theorem owner_is_first_attributed_ratings :
    ratings.spec.mesh = none ∧ (bookinfo.meshes.map Mesh.key).Nodup ∧
      (bookinfo.workloads.map Workload.key).Nodup ∧
      ownerOf bookinfo (unlabelledDetector.membershipOver bookinfo) ratings = .mesh (controlPlane "east") ∧
      ∃ istio, (controlPlane "east").istio = some istio ∧ istio.installation.cluster = "east" := by
  have meshKeys : (bookinfo.meshes.map Mesh.key).Nodup := by decide
  have workloadKeys : (bookinfo.workloads.map Workload.key).Nodup := by decide
  obtain ⟨_, owned, installed, _⟩ :=
    owner_is_first_attributed unlabelledDetector bookinfo ratings rfl meshKeys workloadKeys
  have told (workload : Workload) (member : workload ∈ bookinfo.workloads) :
      (unlabelledDetector.membershipOver bookinfo).meshFor? workload =
        (unlabelledDetector.detect workload bookinfo.meshes).1.map Mesh.key :=
    Detector.meshFor?_attributeAll meshKeys unlabelledDetector workloadKeys member
  have first : FirstAttributed bookinfo (unlabelledDetector.membershipOver bookinfo) ratings.service
      (controlPlane "east").key := by
    refine ⟨[ratingsPods "v1" ["ratings"]], ratingsPods "v2" ["ratings", Injection.proxyContainer], [], rfl,
      runsBehind_iff.1 (by decide), ?_, List.forall_mem_singleton.2 fun _ => ?_⟩
    · rw [told _ (by decide)]
      decide
    · rw [told _ (by decide)]
      decide +kernel
  have owner := (owned (controlPlane "east")).2 ⟨by decide, by decide, first⟩
  exact ⟨rfl, meshKeys, workloadKeys, owner, installed _ owner⟩

end Ratings

end MeshControl.Access
