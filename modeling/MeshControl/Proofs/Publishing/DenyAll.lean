import MeshControl.Proofs.Access.MeshPolicies
import MeshControl.Proofs.Publishing.Rollback

/-!
# The policy that denies everything is never lost

Later publications of a pass may replace the policy that closes the namespace of a control plane. They
can do so only by another policy of that kind: whatever is made for a mesh under the fixed name denies
everything (`Access.denies_of_globalName`), because the names of all other policies start differently.
-/

namespace MeshControl

open Access (Enforces compileMesh globalName)

namespace Access

/-- The identity of the policy that closes the namespace of a control plane. -/
def globalId (installation : Installation) : ObjectId :=
  ⟨.authorizationPolicy, installation.cluster, installation.ns, globalName⟩

variable {input : Input} {mesh : Mesh}

/-- What is made for a mesh under the fixed name denies everything. -/
theorem denies_of_globalName {object : OutputObject} (member : object ∈ (compileMesh input mesh).remote)
    (named : object.id.name = globalName) :
    ∃ policy, object = .authorizationPolicy policy ∧ policy.spec = {} := by
  obtain ⟨istio, applied, enforces, _⟩ := mem_compileMesh_remote member
  rw [enforces.compileMesh_eq_compileVirtualMesh input] at member
  exact ⟨globalPolicy istio.installation applied.ref,
    eq_globalPolicy_of_name enforces.isIstio enforces.isEnabled member named, rfl⟩

/-- With enforced access some object made for the mesh closes the namespace of its control plane. -/
theorem latest?_globalId_isSome {istio : IstioMesh} {applied : AppliedVirtualMesh}
    (enforces : Enforces mesh istio applied) (input : Input) :
    (OutputObject.latest? (globalId istio.installation) (compileMesh input mesh).remote).isSome := by
  have made : .authorizationPolicy (globalPolicy istio.installation applied.ref) ∈
      (compileMesh input mesh).remote := by
    rw [enforces.compileMesh_eq]
    exact List.mem_cons_self
  by_contra missing
  rw [Option.not_isSome_iff_eq_none, OutputObject.latest?_eq_none_iff] at missing
  exact missing _ made rfl

end Access

namespace Publisher

open Access (globalId)

/-- After any passes, a pass that publishes for some mesh the outputs of a translation with enforced
access, fresh or restored, publishes the policy that denies everything in the namespace of that
translation's control plane, whatever else it publishes. -/
theorem served_denies_all (ignored : List String) (earlier : List PassRequest) (request : PassRequest)
    {publication : Publication} {source : Translation} {istio : IstioMesh} {applied : AppliedVirtualMesh}
    (member : publication ∈
      Publication.after compileMesh (Translation.history earlier) request.input.translations)
    (published : publication.source? = some source) (enforces : Enforces source.mesh istio applied) :
    let settings : PassSettings := { ignored, compile := compileMesh }
    ∃ policy,
      ((after settings earlier).serve settings request).outputs.remote.get?
          (globalId istio.installation) = some (.authorizationPolicy policy) ∧
        policy.spec = {} := by
  intro settings
  have closed : ((publication.outputs compileMesh).remote.get? (globalId istio.installation)).isSome := by
    rw [Publication.get?_outputs_remote, published]
    exact Access.latest?_globalId_isSome enforces source.input
  -- The last publication with an object at this identity decides, and it need not be this one.
  obtain ⟨object, decides⟩ : ∃ object,
      ((Publication.after compileMesh (Translation.history earlier)
        request.input.translations).reverse.findSome? fun publication =>
          (publication.outputs compileMesh).remote.get? (globalId istio.installation)) = some object := by
    rw [← Option.isSome_iff_exists, List.findSome?_isSome_iff]
    exact ⟨publication, List.mem_reverse.2 member, closed⟩
  obtain ⟨last, _, held⟩ := List.exists_of_findSome?_eq_some decides
  obtain ⟨maker, _, made, identity⟩ := Publication.of_get?_outputs_remote held
  obtain ⟨policy, rfl, denies⟩ := Access.denies_of_globalName made (by rw [identity]; rfl)
  refine ⟨policy, ?_, denies⟩
  rw [get?_served_remote, decides, Option.some_or]

section Restored

/-- A mesh with enforced access and one gateway. -/
private def guarded : Mesh where
  metadata := { name := "istiod", ns := "orbit" }
  provider := .istio { installation := { ns := "istio-system", cluster := "east" } }
  status :=
    { virtualMesh := some { ref := ⟨"vm", "orbit"⟩, spec := { globalAccess := .enabled } }
      ingressGateways := [⟨"gateway", "istio-system"⟩] }

/-- The destination of its gateway. -/
private def gateway : Destination where
  metadata := { name := "gateway", ns := "istio-system" }
  spec := { service := { ref := ⟨"gateway", "istio-system", "east"⟩ } }

/-- A pass over the mesh and some destinations, into outputs of its own. -/
private def passWith (destinations : List Destination) : PassRequest :=
  ⟨{ meshes := [guarded], destinations }, .named "remote" "local", .fresh⟩

/-- The gateway's destination is gone in the second pass, which restores the outputs of the first. -/
theorem served_denies_all_restored :
    let restoring := passWith []
    let source : Translation := ⟨(passWith [gateway]).input, guarded⟩
    ⟨⟨restoring.input, guarded⟩, some source⟩ ∈
        Publication.after compileMesh (Translation.history [passWith [gateway]])
          restoring.input.translations ∧
      ∃ policy,
        ((after { compile := compileMesh } [passWith [gateway]]).serve { compile := compileMesh }
            restoring).outputs.remote.get? ⟨.authorizationPolicy, "east", "istio-system", globalName⟩ =
          some (.authorizationPolicy policy) ∧ policy.spec = {} :=
  have member : ⟨⟨(passWith []).input, guarded⟩, some ⟨(passWith [gateway]).input, guarded⟩⟩ ∈
      Publication.after compileMesh (Translation.history [passWith [gateway]])
        (passWith []).input.translations := by decide
  ⟨member, served_denies_all Injection.builtinIgnored [passWith [gateway]] (passWith []) member rfl
    ⟨rfl, rfl, rfl⟩⟩

end Restored

end Publisher

end MeshControl
