import MeshControl.Proofs.Publishing.Emissions
import MeshControl.Proofs.Publishing.Isolation

/-!
# What policies that allow requests select

A policy that allows requests is published for a destination (`Publisher.Opens`), and selects workloads by the
labels of the destination's service. Only where the mesh of a destination is looked for by its workloads a service
without labels is left out. The policy for a gateway, and one for a destination whose mesh discovery has named,
are published without labels too, and then apply to all workloads of their namespace. They select some exactly if
the destination has labels (`Publisher.served_allow_policies_select`).
-/

namespace MeshControl

open Access (Enforces compileMesh compilePolicy gatewayPolicy)

namespace Access

variable {input : Input} {membership : Injection.Membership} {destination : Destination}

/-- A destination that belongs to a mesh which discovery has not named has labels to find workloads by. -/
theorem ResolvesTo.selector_ne_empty {mesh : Mesh} (resolves : ResolvesTo input membership destination mesh)
    (undiscovered : destination.spec.mesh = none) : destination.service.selector ≠ ∅ := by
  cases resolves with
  | named given => cases given.symm.trans undiscovered
  | inferred _ selective => exact selective

/-- A policy is made for a destination only if discovery has named its mesh or its service has labels. -/
theorem selector_ne_empty_of_mem_policies {policy : AuthorizationPolicy}
    (undiscovered : destination.spec.mesh = none)
    (member : policy ∈ (compileDestination input membership destination).policies) :
    destination.service.selector ≠ ∅ := by
  by_cases inIstio : InIstioMesh input membership destination
  · obtain ⟨mesh, resolves, _⟩ := inIstio
    exact resolves.selector_ne_empty undiscovered
  · rw [compileDestination_policies_eq_nil inIstio] at member
    cases member

end Access

namespace Input

/-- The destinations that are opened whether or not their services have labels do have labels: the destinations
of gateways under enforced access, and those with access policies whose mesh discovery has named. -/
structure Selective (input : Input) : Prop where
  gateways : ∀ mesh ∈ input.meshes, ∀ istio applied, Enforces mesh istio applied →
    ∀ gateway ∈ mesh.status.ingressGateways, ∀ destination, input.findDestination? gateway = some destination →
      destination.service.selector ≠ ∅
  discovered : ∀ destination ∈ input.destinations, destination.spec.mesh ≠ none → destination.policies ≠ [] →
    destination.service.selector ≠ ∅

end Input

/-- The translations of some passes are those of the meshes of their inputs. -/
theorem Translation.mem_history_iff {translation : Translation} {requests : List PassRequest} :
    translation ∈ history requests ↔
      ∃ request ∈ requests, translation.input = request.input ∧ translation.mesh ∈ request.input.meshes := by
  simp only [history, Input.translations, List.mem_flatMap, List.mem_map]
  refine exists_congr fun request => and_congr_right fun _ => ?_
  constructor
  · rintro ⟨mesh, member, rfl⟩
    exact ⟨rfl, member⟩
  · rintro ⟨input, member⟩
    exact ⟨translation.mesh, member, by rw [← input]⟩

namespace Publisher

/-- The destination for which a pass after some others publishes a policy that allows requests. -/
inductive Opens (earlier : List PassRequest) (request : PassRequest) (policy : AuthorizationPolicy)
    (destination : Destination) : Prop
  /-- That of a gateway, as it was found when the published translation was made. -/
  | gateway {publication : Publication} {source : Translation} {istio : IstioMesh} {applied : AppliedVirtualMesh}
      {gateway : ObjectRef}
      (member : publication ∈
        Publication.after compileMesh (Translation.history earlier) request.input.translations)
      (published : publication.source? = some source) (enforces : Enforces source.mesh istio applied)
      (listed : gateway ∈ source.mesh.status.ingressGateways)
      (found : source.input.findDestination? gateway = some destination)
      (made : policy = gatewayPolicy istio.installation applied.ref gateway destination)
  /-- One of the input to which an access policy is applied. It has labels unless discovery has named its mesh. -/
  | service {applied : AppliedAccessPolicy} (member : destination ∈ request.input.destinations)
      (isApplied : applied ∈ destination.policies)
      (made : compilePolicy request.input destination applied = some policy)
      (selective : destination.spec.mesh = none → destination.service.selector ≠ ∅)

variable {earlier : List PassRequest} {request : PassRequest} {policy : AuthorizationPolicy}
  {destination : Destination}

/-- A policy selects by the labels of the destination for which it is published. -/
theorem Opens.selector (opens : Opens earlier request policy destination) :
    policy.spec.selector = some destination.service.selector := by
  cases opens with
  | gateway _ _ _ _ _ made =>
    rw [made]
    rfl
  | service _ _ made _ =>
    rw [Access.of_compilePolicy_eq_some made]
    rfl

/-- Where all inputs of a run give labels to what is opened without looking at them, every opened destination has
labels. -/
theorem Opens.selector_ne_empty (opens : Opens earlier request policy destination)
    (selective : ∀ pass ∈ earlier ++ [request], pass.input.Selective) : destination.service.selector ≠ ∅ := by
  cases opens with
  | gateway member published enforces listed found _ =>
    obtain ⟨_, sources⟩ := Publication.of_mem_after member
    have inRun := (sources _ published).1
    rw [← Translation.history_append_singleton] at inRun
    obtain ⟨pass, among, input, isMesh⟩ := Translation.mem_history_iff.1 inRun
    exact (selective pass among).gateways _ isMesh _ _ enforces _ listed _ (input ▸ found)
  | service member isApplied _ labelled =>
    by_cases undiscovered : destination.spec.mesh = none
    · exact labelled undiscovered
    · exact (selective request (by simp)).discovered _ member undiscovered (List.ne_nil_of_mem isApplied)

/-- What a translation makes allows requests only for the destinations of gateways. -/
theorem opens_of_mem_compileMesh {publication : Publication} {source : Translation}
    (member : publication ∈ Publication.after compileMesh (Translation.history earlier) request.input.translations)
    (published : publication.source? = some source)
    (made : .authorizationPolicy policy ∈ (compileMesh source.input source.mesh).remote)
    (allows : policy.spec.action = some .allow) : ∃ destination, Opens earlier request policy destination := by
  obtain ⟨istio, applied, enforces, _⟩ := Access.mem_compileMesh_remote made
  rw [enforces.compileMesh_eq_compileVirtualMesh] at made
  rcases (Access.mem_compileVirtualMesh_remote_iff enforces.isIstio enforces.isEnabled).1 made with
    same | ⟨gateway, listed, destination, found, same⟩
  · rw [OutputObject.authorizationPolicy.inj same] at allows
    cases allows
  · exact ⟨destination, .gateway member published enforces listed found (OutputObject.authorizationPolicy.inj same)⟩

/-- What a pass makes for destinations allows requests to them. -/
theorem opens_of_mem_destinationObjects {ignored : List String}
    (made : .authorizationPolicy policy ∈ destinationObjects ignored request.input) :
    ∃ destination, Opens earlier request policy destination := by
  obtain ⟨destination, member, compiled⟩ := List.mem_flatMap.1 made
  obtain ⟨_, inside, same⟩ := List.mem_map.1 compiled
  obtain rfl := OutputObject.authorizationPolicy.inj same
  obtain ⟨applied, isApplied, becomes⟩ := Access.exists_compilePolicy_of_mem inside
  exact ⟨destination, .service member isApplied becomes fun undiscovered =>
    Access.selector_ne_empty_of_mem_policies undiscovered inside⟩

/-- Every policy that allows requests, in what a pass publishes that begins with nothing after any passes, is
published for a destination and selects by the labels of its service. It selects by at least one label if all
inputs so far give labels to the destinations that are opened without looking at them. -/
theorem served_allow_policies_select (ignored : List String) (earlier : List PassRequest) (request : PassRequest)
    (empty : request.outputs.remote.byId = ∅) :
    let settings : PassSettings := { ignored, compile := compileMesh }
    let result := (after settings earlier).serve settings request
    ∀ policy, .authorizationPolicy policy ∈ result.outputs.remote.objects → policy.spec.action = some .allow →
      (∃ destination, Opens earlier request policy destination ∧
        policy.spec.selector = some destination.service.selector) ∧
      ((∀ pass ∈ earlier ++ [request], pass.input.Selective) →
        ∃ labels, policy.spec.selector = some labels ∧ labels ≠ ∅) := by
  intro settings result policy held allows
  obtain ⟨destination, opens⟩ : ∃ destination, Opens earlier request policy destination := by
    rcases of_mem_objects_served_remote ignored earlier request empty held with
      ⟨publication, member, source, published, made⟩ | made
    · exact opens_of_mem_compileMesh member published made allows
    · exact opens_of_mem_destinationObjects made
  exact ⟨⟨destination, opens, opens.selector⟩, fun selective =>
    ⟨destination.service.selector, opens.selector, opens.selector_ne_empty selective⟩⟩

section Harbour

private def harbourMesh : Mesh where
  metadata := { name := "istiod", ns := "orbit" }
  provider := .istio { installation := { ns := "istio-system", cluster := "east" } }
  status :=
    { virtualMesh := some { ref := ⟨"vm", "orbit"⟩, spec := { globalAccess := .enabled } }
      ingressGateways := [⟨"gateway", "istio-system"⟩] }

/-- A destination of the mesh with some labels. -/
private def berth (name ns : String) (labels : List (String × String)) (policies : List AppliedAccessPolicy) :
    Destination where
  metadata := { name, ns }
  spec :=
    { service := { ref := ⟨name, ns, "east"⟩, selector := .ofList labels }, mesh := some ⟨"istiod", "orbit"⟩ }
  status := { accessPolicies := policies }

/-- A pass over the mesh and some destinations, into outputs of its own. -/
private def harbourPass (destinations : List Destination) : PassRequest :=
  ⟨{ meshes := [harbourMesh], destinations }, .named "remote" "local", .fresh⟩

/-- The second pass restores the policy for the gateway and makes one for a service. Both select by a label. -/
theorem served_allow_policies_select_restored :
    let earlier := [harbourPass [berth "gateway" "istio-system" [("istio", "gateway")] []]]
    let request := harbourPass [berth "ferry" "harbour" [("app", "ferry")] [{ ref := ⟨"all", "orbit"⟩ }]]
    let objects := ((after {} earlier).serve {} request).outputs.remote.objects
    request.outputs.remote.byId = ∅ ∧ (∀ pass ∈ earlier ++ [request], pass.input.Selective) ∧
      objects.length = 3 ∧
      ∀ policy, .authorizationPolicy policy ∈ objects → policy.spec.action = some .allow →
        ∃ labels, policy.spec.selector = some labels ∧ labels ≠ ∅ := by
  intro earlier request objects
  have labelled : ∀ pass ∈ earlier ++ [request], ∀ destination ∈ pass.input.destinations,
      destination.service.selector ≠ ∅ := by decide
  have selective : ∀ pass ∈ earlier ++ [request], pass.input.Selective := fun pass among =>
    { gateways := fun _ _ _ _ _ _ _ destination found =>
        labelled pass among destination (List.mem_of_find?_eq_some found)
      discovered := fun destination member _ _ => labelled pass among destination member }
  have three : objects.length = 3 := by decide +kernel
  refine ⟨rfl, selective, three, fun policy held allows => ?_⟩
  exact (served_allow_policies_select Injection.builtinIgnored earlier request rfl policy held allows).2 selective

/-- Without labels the policies for the gateway and for the service allow requests to all workloads of their
namespaces: that for the gateway to those that the other policy there has just closed. -/
theorem open_to_all_workloads :
    let request := harbourPass
      [berth "gateway" "istio-system" [] [], berth "ferry" "harbour" [] [{ ref := ⟨"all", "orbit"⟩ }]]
    let outputs := (({} : Publisher).serve {} request).outputs
    outputs.remote.objects.map (fun object => (object.metadata.ns, object.metadata.name)) =
        [("harbour", "access-policy-all.orbit.ferry"), ("istio-system", "allow-ingress-gateway-gateway.istio-system"),
          ("istio-system", "global-access-control")] ∧
      (outputs.remote.authorizationPolicies.map fun policy => (policy.spec.action, policy.spec.selector)) =
        [(some .allow, some ∅), (some .allow, some ∅), (none, none)] := by
  decide +kernel

end Harbour

end Publisher

end MeshControl
