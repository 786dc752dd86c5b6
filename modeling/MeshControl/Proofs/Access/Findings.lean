import Mathlib.Data.List.Induction
import MeshControl.Proofs.Access.MeshPolicies
import MeshControl.Proofs.Access.Resolution

/-!
# What there is to report

`owedOnDestination` and `owedOnMesh` say, without the compiler, which reports a pass owes on a destination
and on a mesh, and in which order: which group of findings suppresses which, what is said once for each
policy, once for each mention of a service account, and once for each distinct gateway. Which mesh a destination
belongs to is said by `ResolvesTo`. The compiler makes exactly these reports (`compileDestination_reports`,
`compileMesh_reports`).
-/

namespace MeshControl.Access

variable {input : Input} {membership : Injection.Membership} {destination : Destination} {mesh : Mesh}

/-- No destination of an input has the name and the namespace of a reference. -/
def LacksDestination (input : Input) (ref : ObjectRef) : Prop :=
  ∀ destination ∈ input.destinations, destination.ref ≠ ref

/-- Some Istio mesh of an input is installed on a cluster. -/
def Hosts (input : Input) (cluster : String) : Prop :=
  ∃ mesh ∈ input.meshes, ∃ istio, mesh.istio = some istio ∧ istio.installation.cluster = cluster

instance (input : Input) (ref : ObjectRef) : Decidable (LacksDestination input ref) :=
  inferInstanceAs (Decidable (∀ destination ∈ input.destinations, destination.ref ≠ ref))

instance (input : Input) (cluster : String) : Decidable (Hosts input cluster) :=
  inferInstanceAs (Decidable (∃ mesh ∈ input.meshes, ∃ istio ∈ mesh.istio,
    istio.installation.cluster = cluster))

/-- The reports that a pass owes on a destination. If discovery has named a mesh that does not exist, this
is reported once for each access policy and nothing else is. Otherwise, on a destination of an Istio mesh,
each mention of a service account on a cluster without an Istio mesh is reported. -/
def owedOnDestination (input : Input) (membership : Injection.Membership) (destination : Destination) :
    List Report :=
  match destination.spec.mesh.filter (LacksMesh input ·) with
  | some ref => destination.policies.map fun applied =>
      .onDestination destination.ref applied.ref (.meshNotFound ref)
  | none =>
    if InIstioMesh input membership destination then
      destination.policies.flatMap fun applied =>
        ((applied.spec.sources.flatMap (·.serviceAccounts)).filter fun account =>
          ¬ Hosts input account.cluster).map fun account =>
            .onDestination destination.ref applied.ref (.noMeshForCluster account)
    else []

/-- The gateways of a mesh that name no destination, each at the first of its places. -/
def lostGateways (input : Input) (mesh : Mesh) : List ObjectRef :=
  let gateways := mesh.status.ingressGateways
  (gateways.zipIdx.filter fun entry =>
    LacksDestination input entry.1 ∧ entry.1 ∉ gateways.take entry.2).map (·.1)

/-- The reports that a pass owes on a mesh: under a virtual mesh with enforced access each distinct gateway
of an Istio mesh that names no destination is reported once. -/
def owedOnMesh (input : Input) (mesh : Mesh) : List Report :=
  match mesh.istio, mesh.status.virtualMesh with
  | some _, some applied =>
    if applied.spec.globalAccess = .enabled then
      (lostGateways input mesh).map fun gateway => .onMesh mesh.ref applied.ref (.destinationNotFound gateway)
    else []
  | _, _ => []

/-- The members of a list with a property, without repetitions, are those at a place that no equal member
precedes. -/
theorem eraseDups_filter {α : Type} [DecidableEq α] (holds : α → Bool) (list : List α) :
    (list.filter holds).eraseDups =
      (list.zipIdx.filter fun entry => holds entry.1 ∧ entry.1 ∉ list.take entry.2).map (·.1) := by
  induction list using List.reverseRecOn with
  | nil => rfl
  | append_singleton list last inductionHypothesis =>
    have earlier : list.zipIdx.filter (fun entry =>
          holds entry.1 ∧ entry.1 ∉ (list ++ [last]).take entry.2) =
        list.zipIdx.filter fun entry => holds entry.1 ∧ entry.1 ∉ list.take entry.2 := by
      refine List.filter_congr fun entry member => ?_
      obtain ⟨_, below, _⟩ := List.mem_zipIdx member
      rw [List.take_append_of_le_length (by omega)]
    rw [List.filter_append, List.eraseDups_append, inductionHypothesis, List.zipIdx_append,
      List.filter_append, List.map_append, earlier]
    congr 1
    by_cases kept : holds last = true
    · by_cases repeated : last ∈ list
      · simp [kept, repeated, List.removeAll]
      · simp [kept, repeated, List.removeAll, List.eraseDups_cons]
    · simp [kept, List.removeAll]

theorem findDestination?_eq_none_iff {ref : ObjectRef} :
    input.findDestination? ref = none ↔ LacksDestination input ref := by
  simp [Input.findDestination?, LacksDestination, Destination.ref, Metadata.ref_eq_iff]

theorem trustDomain?_eq_none_iff {cluster : String} :
    trustDomain? input cluster = none ↔ ¬ Hosts input cluster := by
  rw [trustDomain?, Option.map_eq_none_iff, List.find?_eq_none]
  simp only [List.mem_filterMap, decide_eq_true_eq, forall_exists_index, and_imp, Hosts, not_exists, not_and]
  exact ⟨fun elsewhere mesh member istio isIstio => elsewhere istio mesh member isIstio,
    fun elsewhere istio mesh member isIstio => elsewhere mesh member istio isIstio⟩

/-- The reports on an access policy are the mentions of service accounts without an Istio mesh. -/
theorem policyReports_eq (applied : AppliedAccessPolicy) :
    policyReports input destination applied =
      ((applied.spec.sources.flatMap (·.serviceAccounts)).filter fun account =>
        ¬ Hosts input account.cluster).map fun account =>
          .onDestination destination.ref applied.ref (.noMeshForCluster account) := by
  have unhosted : ∀ account : ClusterRef,
      (trustDomain? input account.cluster).isNone = decide (¬ Hosts input account.cluster) := by
    intro account
    rw [Bool.eq_iff_iff, Option.isNone_iff_eq_none, trustDomain?_eq_none_iff, decide_eq_true_eq]
  unfold policyReports requestedAccounts
  simp only [unhosted]
  rfl

/-- On a destination of an Istio mesh every access policy is compiled and reported on. -/
theorem InIstioMesh.compileDestination_eq (inIstio : InIstioMesh input membership destination) :
    compileDestination input membership destination =
      { policies := destination.policies.filterMap (compilePolicy input destination)
        reports := destination.policies.flatMap (policyReports input destination) } := by
  obtain ⟨mesh, owner, isIstio⟩ := inIstioMesh_iff.1 inIstio
  unfold compileDestination
  split
  · next empty =>
    rw [List.isEmpty_iff] at empty
    rw [empty]
    rfl
  · simp [owner, isIstio]

/-- On any other destination no access policy becomes a policy. -/
theorem compileDestination_policies_eq_nil (elsewhere : ¬ InIstioMesh input membership destination) :
    (compileDestination input membership destination).policies = [] := by
  unfold compileDestination
  split
  · rfl
  · cases owner : ownerOf input membership destination with
    | missing ref => rfl
    | unknown => rfl
    | mesh mesh =>
      have other : mesh.istio = none := by_contra fun isIstio =>
        elsewhere (inIstioMesh_iff.2 ⟨mesh, owner, isIstio⟩)
      simp [other]

/-- The reports on a destination are those that the pass owes. -/
theorem compileDestination_reports (input : Input) (membership : Injection.Membership)
    (destination : Destination) :
    (compileDestination input membership destination).reports =
      owedOnDestination input membership destination := by
  by_cases inIstio : InIstioMesh input membership destination
  · obtain ⟨mesh, owner, _⟩ := inIstioMesh_iff.1 inIstio
    rw [inIstio.compileDestination_eq, owedOnDestination, filter_lacksMesh_eq_none owner (by simp)]
    simp only [if_pos inIstio]
    exact congrArg destination.policies.flatMap (funext policyReports_eq)
  · unfold compileDestination owedOnDestination
    split
    · next empty =>
      rw [List.isEmpty_iff] at empty
      rw [empty]
      split <;> rfl
    · cases owner : ownerOf input membership destination with
      | missing ref =>
        rw [ownerOf_eq_missing_iff.1 owner]
        rfl
      | unknown => rw [filter_lacksMesh_eq_none owner (by simp)]
      | mesh mesh =>
        have other : mesh.istio = none := by_contra fun isIstio =>
          inIstio (inIstioMesh_iff.2 ⟨mesh, owner, isIstio⟩)
        rw [filter_lacksMesh_eq_none owner (by simp)]
        simp [other]

/-- The gateways that are missing are the ones that are lost. -/
theorem missingGateways_eq (input : Input) (mesh : Mesh) :
    missingGateways input mesh = lostGateways input mesh := by
  unfold missingGateways lostGateways
  rw [eraseDups_filter]
  simp only [Option.isNone_iff_eq_none, findDestination?_eq_none_iff]

/-- The reports on a mesh are those that the pass owes. -/
theorem compileMesh_reports (input : Input) (mesh : Mesh) :
    (compileMesh input mesh).reports = owedOnMesh input mesh := by
  by_cases enforced : ∃ istio applied, Enforces mesh istio applied
  · obtain ⟨istio, applied, enforces⟩ := enforced
    rw [enforces.compileMesh_eq, missingGateways_eq]
    simp [owedOnMesh, enforces.isIstio, enforces.isApplied, enforces.isEnabled, Report.forMesh]
  · have not : ∀ istio applied, ¬ Enforces mesh istio applied := fun istio applied enforces =>
      enforced ⟨istio, applied, enforces⟩
    rw [compileMesh_of_not_enforces not, owedOnMesh]
    split
    · next istio applied isIstio isApplied =>
      rw [if_neg fun isEnabled => not istio applied ⟨isIstio, isApplied, isEnabled⟩]
    · rfl

/-- All that is owed on a destination is about references. -/
theorem isReference_of_mem_owedOnDestination {report : Report}
    (member : report ∈ owedOnDestination input membership destination) :
    report.finding.isReference = true := by
  unfold owedOnDestination at member
  split at member
  · obtain ⟨applied, _, rfl⟩ := List.mem_map.1 member
    rfl
  · split at member
    · obtain ⟨applied, _, mentioned⟩ := List.mem_flatMap.1 member
      obtain ⟨account, _, rfl⟩ := List.mem_map.1 mentioned
      rfl
    · cases member

/-- All that is owed on a mesh is about references. -/
theorem isReference_of_mem_owedOnMesh {report : Report} (member : report ∈ owedOnMesh input mesh) :
    report.finding.isReference = true := by
  unfold owedOnMesh at member
  split at member
  · split at member
    · obtain ⟨gateway, _, rfl⟩ := List.mem_map.1 member
      rfl
    · cases member
  · cases member

end MeshControl.Access
