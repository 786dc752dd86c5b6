import MeshControl.Proofs.SortedMap
import MeshControl.Publisher

/-!
# Look-ups among meshes in any order

Several parts of a pass search the meshes of its input for the first match. Where at most one mesh can match,
the order of the meshes does not matter (`find?_eq_of_perm`). `MeshesApart` says when this is so for every
search of a pass: for the attribution of workloads, for trust domains, and for references and keys of meshes.
-/

namespace MeshControl

/-- Meshes differ in their keys, and those of Istio in the clusters on which they are installed. -/
structure MeshesApart (meshes : List Mesh) : Prop where
  keys : (meshes.map Mesh.key).Nodup
  clusters : ((meshes.filterMap Mesh.istio).map (·.installation.cluster)).Nodup

namespace MeshesApart

variable {meshes reordered : List Mesh}

/-- At most one mesh has a key. -/
theorem sole_key (apart : MeshesApart meshes) (key : String) :
    meshes.Pairwise fun first second => ¬ (first.key = key ∧ second.key = key) :=
  (List.pairwise_map.1 apart.keys).imp fun differ ⟨same, otherSame⟩ => differ (same.trans otherSame.symm)

/-- At most one Istio mesh is installed on a cluster. -/
theorem sole_istio (apart : MeshesApart meshes) (cluster : String) :
    meshes.Pairwise fun first second =>
      ¬ ((∃ istio, first.istio = some istio ∧ istio.installation.cluster = cluster) ∧
        ∃ istio, second.istio = some istio ∧ istio.installation.cluster = cluster) := by
  refine (List.pairwise_filterMap.1 (List.pairwise_map.1 apart.clusters)).imp ?_
  rintro first second differ ⟨⟨istio, isIstio, here⟩, otherIstio, otherIsIstio, otherHere⟩
  exact differ istio isIstio otherIstio otherIsIstio (here.trans otherHere.symm)

end MeshesApart

namespace Injection.Detector

/-- Only candidates decide which mesh a workload belongs to, and what is loaded meanwhile. -/
theorem detect_filter (detector : Detector) (workload : Workload) (meshes : List Mesh) :
    detector.detect workload (meshes.filter (isCandidate workload)) = detector.detect workload meshes := by
  induction meshes generalizing detector with
  | nil => rfl
  | cons mesh meshes inductionHypothesis =>
    cases candidate : isCandidate workload mesh with
    | false =>
      rw [List.filter_cons_of_neg (by simp [candidate]), inductionHypothesis]
      conv_rhs => unfold detect
      simp [candidate]
    | true =>
      rw [List.filter_cons_of_pos candidate]
      unfold detect
      simp only [candidate, inductionHypothesis]

variable {meshes reordered : List Mesh}

/-- A workload has at most one candidate, so that the order of the meshes does not matter. -/
theorem detect_eq_of_perm (perm : reordered.Perm meshes) (apart : MeshesApart meshes) (detector : Detector)
    (workload : Workload) : detector.detect workload reordered = detector.detect workload meshes := by
  have sole : meshes.Pairwise fun first second =>
      ¬ (isCandidate workload first = true ∧ isCandidate workload second = true) := by
    simpa [isCandidate, Option.any_eq_true] using apart.sole_istio workload.cluster
  rw [← detect_filter, filter_eq_of_perm perm sole, detect_filter]

/-- The attribution of workloads, and all that the detector learns from it, is the same in every order. -/
theorem attributeAll_eq_of_perm (perm : reordered.Perm meshes) (apart : MeshesApart meshes)
    (detector : Detector) (workloads : List Workload) :
    detector.attributeAll workloads reordered = detector.attributeAll workloads meshes := by
  have each : attributeOne reordered = attributeOne meshes := by
    funext state workload
    unfold attributeOne
    rw [detect_eq_of_perm perm apart]
  unfold attributeAll
  rw [each]

end Injection.Detector

namespace Input

/-- The input with other meshes. -/
def withMeshes (input : Input) (meshes : List Mesh) : Input := { input with meshes }

variable {input : Input} {reordered : List Mesh}

theorem findMesh?_of_perm (perm : reordered.Perm input.meshes) (apart : MeshesApart input.meshes)
    (ref : ObjectRef) : (input.withMeshes reordered).findMesh? ref = input.findMesh? ref := by
  refine find?_eq_of_perm perm ((apart.sole_key ref.key).imp fun {first second} differ both => differ ?_)
  simp only [Bool.and_eq_true, decide_eq_true_eq] at both
  obtain ⟨⟨name, ns⟩, otherName, otherNs⟩ := both
  exact ⟨congrArg₂ (· ++ "." ++ ·) name ns, congrArg₂ (· ++ "." ++ ·) otherName otherNs⟩

end Input

namespace Access

variable {input : Input} {reordered : List Mesh}

theorem trustDomain?_of_perm (perm : reordered.Perm input.meshes) (apart : MeshesApart input.meshes)
    (cluster : String) :
    trustDomain? (input.withMeshes reordered) cluster = trustDomain? input cluster := by
  unfold trustDomain? Input.withMeshes
  congr 1
  refine find?_eq_of_perm (perm.filterMap Mesh.istio)
    ((List.pairwise_map.1 apart.clusters).imp fun {first second} differ both => ?_)
  simp only [decide_eq_true_eq] at both
  exact differ (both.1.trans both.2.symm)

/-- The mesh to which a destination belongs is the same in every order. -/
theorem ownerOf_of_perm (perm : reordered.Perm input.meshes) (apart : MeshesApart input.meshes)
    (membership : Injection.Membership) (destination : Destination) :
    ownerOf (input.withMeshes reordered) membership destination =
      ownerOf input membership destination := by
  have named := Input.findMesh?_of_perm perm apart
  have keyed (key : String) : reordered.find? (fun mesh => mesh.key = key) =
      input.meshes.find? fun mesh => mesh.key = key :=
    find?_eq_of_perm perm (by simpa using apart.sole_key key)
  unfold ownerOf
  simp only [named]
  simp only [Input.withMeshes, keyed]

/-- What is made for a destination is the same in every order. -/
theorem compileDestination_of_perm (perm : reordered.Perm input.meshes) (apart : MeshesApart input.meshes)
    (membership : Injection.Membership) (destination : Destination) :
    compileDestination (input.withMeshes reordered) membership destination =
      compileDestination input membership destination := by
  have domain := trustDomain?_of_perm perm apart
  have named : principals (input.withMeshes reordered) = principals input := by
    funext accounts
    simp only [principals, domain]
  have policies : compilePolicy (input.withMeshes reordered) destination =
      compilePolicy input destination := by
    funext applied
    unfold compilePolicy
    rw [named]
  have reports : policyReports (input.withMeshes reordered) destination =
      policyReports input destination := by
    funext applied
    simp only [policyReports, domain]
  unfold compileDestination
  rw [ownerOf_of_perm perm apart, policies, reports]

end Access

namespace Publisher

variable {input : Input} {reordered : List Mesh}

/-- A pass attributes the workloads of its input alike in every order of the meshes. -/
theorem membershipOf_of_perm (perm : reordered.Perm input.meshes) (apart : MeshesApart input.meshes)
    (ignored : List String) :
    membershipOf ignored (input.withMeshes reordered) = membershipOf ignored input :=
  congrArg Prod.fst (Injection.Detector.attributeAll_eq_of_perm perm apart _ _)

end Publisher

end MeshControl
