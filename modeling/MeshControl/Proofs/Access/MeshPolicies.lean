import Mathlib.Data.List.Basic
import MeshControl.Proofs.Access.Names
import MeshControl.Proofs.OutputSnapshot
import MeshControl.Proofs.Provenance

/-!
# What is made for a mesh

`Enforces` says when anything is made for a mesh at all. Then it is the policy that denies everything
and one policy for each gateway that exists, all in the namespace of the control plane
(`mem_compileMesh_remote`). It depends on the input only through the destinations of the gateways
(`compileMesh_congr`).
-/

namespace MeshControl.Access

variable {input : Input} {mesh : Mesh} {istio : IstioMesh} {applied : AppliedVirtualMesh}

/-- An Istio mesh under a virtual mesh with enforced access. -/
structure Enforces (mesh : Mesh) (istio : IstioMesh) (applied : AppliedVirtualMesh) : Prop where
  isIstio : mesh.istio = some istio
  isApplied : mesh.status.virtualMesh = some applied
  isEnabled : applied.spec.globalAccess = .enabled

theorem Enforces.provider (enforces : Enforces mesh istio applied) : mesh.provider = .istio istio := by
  have found := enforces.isIstio
  unfold Mesh.istio at found
  split at found <;> simp_all

/-- The identity of a policy made for a mesh. -/
@[simp] theorem meshPolicy_id (installation : Installation) (parent : ObjectRef) (name : String)
    (spec : AuthorizationSpec) :
    (OutputObject.authorizationPolicy (meshPolicy installation parent name spec)).id =
      ⟨.authorizationPolicy, installation.cluster, installation.ns, name⟩ := rfl

/-- A policy made for a mesh is stamped with its virtual mesh. -/
theorem stamped_meshPolicy (installation : Installation) (parent : ObjectRef) (name : String)
    (spec : AuthorizationSpec) :
    Provenance.Stamped (meshPolicy installation parent name spec).metadata meshMaker Provenance.virtualMeshKind
      parent :=
  Provenance.stamped_of_new meshMaker Provenance.virtualMeshKind parent rfl rfl

/-- What is made for an Istio mesh under a given virtual mesh with enforced access. -/
theorem compileVirtualMesh_eq (isIstio : mesh.istio = some istio)
    (isEnabled : applied.spec.globalAccess = .enabled) (input : Input) :
    compileVirtualMesh input mesh applied =
      { remote := .authorizationPolicy (globalPolicy istio.installation applied.ref) ::
          (mesh.status.ingressGateways.filterMap fun gateway =>
            (input.findDestination? gateway).map
              (gatewayPolicy istio.installation applied.ref gateway)).map .authorizationPolicy
        reports := (missingGateways input mesh).map fun gateway =>
          .forMesh mesh applied.ref (.destinationNotFound gateway) } := by
  simp [compileVirtualMesh, meshPolicies, meshReports, isIstio, isEnabled]

/-- Nothing is made for a mesh that is not one of Istio, or under a virtual mesh that does not enforce access. -/
theorem compileVirtualMesh_eq_empty (not : mesh.istio = none ∨ applied.spec.globalAccess ≠ .enabled)
    (input : Input) : compileVirtualMesh input mesh applied = {} := by
  rcases not with foreign | lax
  · simp [compileVirtualMesh, meshPolicies, meshReports, foreign]
  · cases access : applied.spec.globalAccess <;>
      simp_all [compileVirtualMesh, meshPolicies, meshReports]

/-- The objects made for a mesh under a virtual mesh with enforced access are the policy that denies everything
and one for each gateway whose destination exists. -/
theorem mem_compileVirtualMesh_remote_iff (isIstio : mesh.istio = some istio)
    (isEnabled : applied.spec.globalAccess = .enabled) {object : OutputObject} :
    object ∈ (compileVirtualMesh input mesh applied).remote ↔
      object = .authorizationPolicy (globalPolicy istio.installation applied.ref) ∨
        ∃ gateway ∈ mesh.status.ingressGateways, ∃ destination,
          input.findDestination? gateway = some destination ∧
            object = .authorizationPolicy
              (gatewayPolicy istio.installation applied.ref gateway destination) := by
  rw [compileVirtualMesh_eq isIstio isEnabled]
  simp only [List.mem_cons, List.mem_map, List.mem_filterMap, Option.map_eq_some_iff]
  refine or_congr_right ⟨?_, ?_⟩
  · rintro ⟨_, ⟨gateway, listed, destination, found, rfl⟩, rfl⟩
    exact ⟨gateway, listed, destination, found, rfl⟩
  · rintro ⟨gateway, listed, destination, found, rfl⟩
    exact ⟨_, ⟨gateway, listed, destination, found, rfl⟩, rfl⟩

/-- Under the fixed name nothing is made but the policy that denies everything. -/
theorem eq_globalPolicy_of_name (isIstio : mesh.istio = some istio)
    (isEnabled : applied.spec.globalAccess = .enabled) {object : OutputObject}
    (member : object ∈ (compileVirtualMesh input mesh applied).remote) (named : object.id.name = globalName) :
    object = .authorizationPolicy (globalPolicy istio.installation applied.ref) := by
  rcases (mem_compileVirtualMesh_remote_iff isIstio isEnabled).1 member with
    global | ⟨gateway, _, destination, _, rfl⟩
  · exact global
  · simp only [gatewayPolicy, meshPolicy_id] at named
    exact absurd named (gatewayName_ne_globalName gateway)

/-- Under enforced access a mesh is compiled under the virtual mesh that is applied to it. -/
theorem Enforces.compileMesh_eq_compileVirtualMesh (enforces : Enforces mesh istio applied) (input : Input) :
    compileMesh input mesh = compileVirtualMesh input mesh applied := by
  simp [compileMesh, enforces.provider, enforces.isApplied]

/-- What is made for an Istio mesh under a virtual mesh with enforced access. -/
theorem Enforces.compileMesh_eq (enforces : Enforces mesh istio applied) (input : Input) :
    compileMesh input mesh =
      { remote := .authorizationPolicy (globalPolicy istio.installation applied.ref) ::
          (mesh.status.ingressGateways.filterMap fun gateway =>
            (input.findDestination? gateway).map
              (gatewayPolicy istio.installation applied.ref gateway)).map .authorizationPolicy
        reports := (missingGateways input mesh).map fun gateway =>
          .forMesh mesh applied.ref (.destinationNotFound gateway) } := by
  rw [enforces.compileMesh_eq_compileVirtualMesh, compileVirtualMesh_eq enforces.isIstio enforces.isEnabled]

/-- Nothing is made for a mesh without enforced access. -/
theorem compileMesh_of_not_enforces (not : ∀ istio applied, ¬ Enforces mesh istio applied) (input : Input) :
    compileMesh input mesh = {} := by
  unfold compileMesh
  split
  next istio applied provider status =>
    have found : mesh.istio = some istio := by simp [Mesh.istio, provider]
    have notEnabled : applied.spec.globalAccess ≠ .enabled := fun enabled =>
      not istio applied ⟨found, status, enabled⟩
    exact compileVirtualMesh_eq_empty (.inr notEnabled) input
  next => rfl

/-- Everything made for a mesh is the policy that denies everything or opens one of its gateways. -/
theorem mem_compileMesh_remote {object : OutputObject} (member : object ∈ (compileMesh input mesh).remote) :
    ∃ istio applied, Enforces mesh istio applied ∧
      (object = .authorizationPolicy (globalPolicy istio.installation applied.ref) ∨
        ∃ gateway destination, input.findDestination? gateway = some destination ∧
          object = .authorizationPolicy
            (gatewayPolicy istio.installation applied.ref gateway destination)) := by
  by_cases enforced : ∃ istio applied, Enforces mesh istio applied
  · obtain ⟨istio, applied, enforces⟩ := enforced
    refine ⟨istio, applied, enforces, ?_⟩
    rw [enforces.compileMesh_eq_compileVirtualMesh input] at member
    rcases (mem_compileVirtualMesh_remote_iff enforces.isIstio enforces.isEnabled).1 member with
      global | ⟨gateway, _, destination, present, opened⟩
    · exact .inl global
    · exact .inr ⟨gateway, destination, present, opened⟩
  · rw [compileMesh_of_not_enforces (fun istio applied enforces => enforced ⟨istio, applied, enforces⟩)]
      at member
    cases member

/-- Everything made for a mesh is a policy where its control plane is installed, stamped with its virtual
mesh. -/
theorem stamped_of_mem_compileMesh_remote {object : OutputObject}
    (member : object ∈ (compileMesh input mesh).remote) :
    ∃ istio applied policy, Enforces mesh istio applied ∧ object = .authorizationPolicy policy ∧
      policy.metadata.cluster = istio.installation.cluster ∧ policy.metadata.ns = istio.installation.ns ∧
      Provenance.Stamped policy.metadata meshMaker Provenance.virtualMeshKind applied.ref := by
  obtain ⟨istio, applied, enforces, rfl | ⟨gateway, destination, _, rfl⟩⟩ := mem_compileMesh_remote member
  · exact ⟨istio, applied, _, enforces, rfl, rfl, rfl, stamped_meshPolicy ..⟩
  · exact ⟨istio, applied, _, enforces, rfl, rfl, rfl, stamped_meshPolicy ..⟩

/-- Everything made for a mesh has a name of its own kind. -/
theorem isMeshPolicyName_of_mem_compileMesh_remote {object : OutputObject}
    (member : object ∈ (compileMesh input mesh).remote) : IsMeshPolicyName object.id.name := by
  obtain ⟨istio, applied, _, rfl | ⟨gateway, destination, _, rfl⟩⟩ := mem_compileMesh_remote member
  · exact .inl rfl
  · simp only [gatewayPolicy, meshPolicy_id]
    exact isMeshPolicyName_gatewayName gateway

/-- Nothing is made for a mesh on the management plane. -/
theorem compileMesh_home (input : Input) (mesh : Mesh) : (compileMesh input mesh).home = [] := by
  unfold compileMesh
  split <;> rfl

/-- What is made for a mesh depends on the input only through the destinations of its gateways. -/
theorem compileMesh_congr {first second : Input}
    (same : ∀ gateway ∈ mesh.status.ingressGateways,
      first.findDestination? gateway = second.findDestination? gateway) :
    compileMesh first mesh = compileMesh second mesh := by
  by_cases enforced : ∃ istio applied, Enforces mesh istio applied
  · obtain ⟨istio, applied, enforces⟩ := enforced
    have missing : missingGateways first mesh = missingGateways second mesh := by
      unfold missingGateways
      rw [List.filter_congr fun gateway member => by rw [same gateway member]]
    have policies : ∀ gateway ∈ mesh.status.ingressGateways,
        (first.findDestination? gateway).map (gatewayPolicy istio.installation applied.ref gateway) =
          (second.findDestination? gateway).map (gatewayPolicy istio.installation applied.ref gateway) := by
      intro gateway member
      rw [same gateway member]
    rw [enforces.compileMesh_eq, enforces.compileMesh_eq, missing, List.filterMap_congr policies]
  · have not : ∀ istio applied, ¬ Enforces mesh istio applied := fun istio applied enforces =>
      enforced ⟨istio, applied, enforces⟩
    rw [compileMesh_of_not_enforces not, compileMesh_of_not_enforces not]

end MeshControl.Access
