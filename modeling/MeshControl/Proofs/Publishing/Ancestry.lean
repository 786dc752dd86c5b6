import MeshControl.Proofs.Publishing.Emissions

/-!
# Every published object names its parent

A pass that begins with nothing publishes authorization policies only, and each of them bears a stamp that
leads back to one resource: `Descends` says to which. A policy for a service descends from an access policy on
a destination of the input. A policy in the namespace of a control plane descends from the virtual mesh of a
mesh for which the pass publishes (`PublishedFor`), which can be a mesh of an earlier pass.
-/

namespace MeshControl

open Access (compileMesh)

namespace Publication

variable {compile : Access.MeshCompiler} {publications : List Publication} {publication : Publication}

/-- The key of a valid mesh is listed as such. -/
theorem key_mem_valid (pass : Nat) (member : publication ∈ publications)
    (valid : publication.translation.isValid compile = true) :
    publication.translation.mesh.key ∈ (summary compile pass publications).valid :=
  List.mem_map_of_mem (List.mem_filter.2 ⟨member, valid⟩)

/-- The key of an invalid mesh for which something is published is listed as restored. -/
theorem key_mem_rolledBack (pass : Nat) (member : publication ∈ publications)
    (invalid : publication.translation.isValid compile = false) (restored : publication.source?.isSome = true) :
    publication.translation.mesh.key ∈ (summary compile pass publications).rolledBack := by
  have failed : publication ∈ publications.filter fun publication =>
      !publication.translation.isValid compile := List.mem_filter.2 ⟨member, by rw [invalid, Bool.not_false]⟩
  exact List.mem_map_of_mem (List.mem_filter.2 ⟨failed, restored⟩)

end Publication

namespace Publisher

open Provenance (Stamped)

variable {earlier : List PassRequest} {request : PassRequest} {summary : PassSummary}

/-- The meshes for which a pass after some others publishes objects. -/
inductive PublishedFor (earlier : List PassRequest) (request : PassRequest) (summary : PassSummary) :
    Mesh → Prop
  /-- A valid mesh of the input. -/
  | fresh {mesh : Mesh} (member : mesh ∈ request.input.meshes)
      (valid : Translation.isValid compileMesh ⟨request.input, mesh⟩ = true)
      (listed : mesh.key ∈ summary.valid) : PublishedFor earlier request summary mesh
  /-- The last valid mesh with the key of an invalid one, in the passes before or in front of this one. -/
  | restored {invalid : Mesh} {place : Nat} {source : Translation}
      (entry : (invalid, place) ∈ request.input.meshes.zipIdx)
      (isInvalid : Translation.isValid compileMesh ⟨request.input, invalid⟩ = false)
      (listed : invalid.key ∈ summary.rolledBack)
      (last : Translation.lastValid? compileMesh (Translation.history earlier ++
        (request.input.meshes.take place).map (Translation.mk request.input)) invalid.key = some source) :
      PublishedFor earlier request summary source.mesh

/-- The only parent that the stamp of an object names, and why the pass has published the object. -/
inductive Descends (earlier : List PassRequest) (request : PassRequest) (summary : PassSummary)
    (metadata : Metadata) : Prop
  /-- An access policy that is applied to a destination, next to its service. -/
  | fromAccessPolicy {destination : Destination} {applied : AppliedAccessPolicy}
      (member : destination ∈ request.input.destinations) (isApplied : applied ∈ destination.policies)
      (cluster : destination.service.ref.cluster = metadata.cluster)
      (ns : destination.service.ref.ns = metadata.ns)
      (stamped : Stamped metadata "access-policy" "networking.orbit.dev/v1, Kind=AccessPolicy" applied.ref)
  /-- A virtual mesh that enforces access to a mesh, where its control plane is installed. -/
  | fromVirtualMesh {mesh : Mesh} {istio : IstioMesh} {applied : AppliedVirtualMesh}
      (published : PublishedFor earlier request summary mesh) (enforces : Access.Enforces mesh istio applied)
      (cluster : istio.installation.cluster = metadata.cluster) (ns : istio.installation.ns = metadata.ns)
      (stamped : Stamped metadata "access" "networking.orbit.dev/v1, Kind=VirtualMesh" applied.ref)

/-- A mesh for which a pass publishes was translated in this pass or before. -/
theorem PublishedFor.exists_translation {mesh : Mesh} (published : PublishedFor earlier request summary mesh) :
    ∃ translation ∈ Translation.history (earlier ++ [request]), translation.mesh = mesh := by
  rw [Translation.history_append_singleton]
  cases published with
  | fresh member =>
    exact ⟨⟨request.input, mesh⟩, List.mem_append_right _ (List.mem_map_of_mem member), rfl⟩
  | @restored _ place source _ _ _ last =>
    refine ⟨source, ?_, rfl⟩
    rcases List.mem_append.1 (Translation.of_lastValid?_eq_some last).1 with before | beside
    · exact List.mem_append_left _ before
    · exact List.mem_append_right _ (List.map_subset _ (List.take_subset place request.input.meshes) beside)

/-- Every translation that a pass publishes is that of a mesh for which it publishes. -/
theorem publishedFor_of_mem {pass : Nat} {publication : Publication} {source : Translation}
    (member : publication ∈
      Publication.after compileMesh (Translation.history earlier) request.input.translations)
    (found : publication.source? = some source) :
    PublishedFor earlier request (Publication.summary compileMesh pass
      (Publication.after compileMesh (Translation.history earlier) request.input.translations))
      source.mesh := by
  have listed := member
  -- By its place a publication tells which meshes of its own pass came earlier.
  rw [Publication.after_translations_zipIdx] at member
  obtain ⟨⟨mesh, place⟩, entry, rfl⟩ := List.mem_map.1 member
  cases validity : Translation.isValid compileMesh ⟨request.input, mesh⟩ with
  | true =>
    have key := Publication.key_mem_valid pass listed validity
    rw [Translation.source?, if_pos validity] at found
    obtain rfl := Option.some.inj found
    exact .fresh (List.fst_mem_of_mem_zipIdx entry) validity key
  | false =>
    have key := Publication.key_mem_rolledBack pass listed validity (Option.isSome_of_eq_some found)
    rw [Translation.source?, if_neg (by simp [validity])] at found
    exact .restored entry validity key found

/-- Every object that a pass makes for a destination is a policy that descends from an access policy. -/
theorem descends_of_mem_destinationObjects {ignored : List String} {object : OutputObject}
    (member : object ∈ destinationObjects ignored request.input) :
    ∃ policy, object = .authorizationPolicy policy ∧ Descends earlier request summary policy.metadata := by
  obtain ⟨destination, inside, made⟩ := List.mem_flatMap.1 member
  obtain ⟨policy, compiled, rfl⟩ := List.mem_map.1 made
  obtain ⟨applied, isApplied, rfl⟩ := Access.of_mem_compileDestination_policies compiled
  exact ⟨_, rfl, .fromAccessPolicy inside isApplied rfl rfl (Access.stamped_servicePolicy ..)⟩

/-- A pass that begins with nothing, after any passes, publishes only policies that name the parent from which
they descend, and nothing for the management plane. -/
theorem served_descends (ignored : List String) (earlier : List PassRequest) (request : PassRequest)
    (emptyRemote : request.outputs.remote.byId = ∅) (emptyHome : request.outputs.home.byId = ∅) :
    let settings : PassSettings := { ignored, compile := compileMesh }
    let result := (after settings earlier).serve settings request
    (∀ object ∈ result.outputs.remote.objects, ∃ policy, object = .authorizationPolicy policy ∧
      Descends earlier request result.summary policy.metadata) ∧
      result.outputs.home.objects = [] := by
  intro settings result
  refine ⟨fun object member => ?_, objects_served_home ignored earlier request emptyHome⟩
  rcases of_mem_objects_served_remote ignored earlier request emptyRemote member with
    ⟨publication, among, source, found, made⟩ | made
  · obtain ⟨istio, applied, policy, enforces, rfl, cluster, ns, stamped⟩ :=
      Access.stamped_of_mem_compileMesh_remote made
    have summarized : result.summary = _ := summary_served ignored compileMesh earlier request
    rw [summarized]
    exact ⟨policy, rfl, .fromVirtualMesh (publishedFor_of_mem among found) enforces cluster.symm ns.symm stamped⟩
  · exact descends_of_mem_destinationObjects made

section Library

/-- A mesh with enforced access and one gateway. -/
private def libraryMesh : Mesh where
  metadata := { name := "istiod", ns := "orbit" }
  provider := .istio { installation := { ns := "istio-system", cluster := "east" } }
  status :=
    { virtualMesh := some { ref := ⟨"reading \"room\"", "orbit"⟩, spec := { globalAccess := .enabled } }
      ingressGateways := [⟨"gateway", "istio-system"⟩] }

/-- A pass over the mesh and some destinations of it. -/
private def libraryPass (destinations : List (String × List AppliedAccessPolicy)) : PassRequest where
  input :=
    { meshes := [libraryMesh]
      destinations := destinations.map fun destination =>
        { metadata := { name := destination.1, ns := "istio-system" }
          spec :=
            { service := { ref := ⟨destination.1, "istio-system", "east"⟩ }, mesh := some ⟨"istiod", "orbit"⟩ }
          status := { accessPolicies := destination.2 } } }
  outputs := .named "remote" "local"
  reporter := .fresh

private def readers : AppliedAccessPolicy where
  ref := ⟨"readers", "orbit"⟩

/-- The second pass restores two policies of the first, since the gateway's destination is gone, and makes one
of its own. The labels of each name its maker, and its annotation names the virtual mesh or the access policy. -/
theorem served_descends_restored :
    let earlier := [libraryPass [("gateway", [])]]
    let request := libraryPass [("shelf", [readers])]
    let result := (after {} earlier).serve {} request
    request.outputs.remote.byId = ∅ ∧ request.outputs.home.byId = ∅ ∧
      result.summary.rolledBack = ["istiod.orbit"] ∧
      result.outputs.remote.objects.map (·.metadata.labels.get? "translator.orbit.dev") =
        [some "access-policy", some "access", some "access"] ∧
      ∀ object ∈ result.outputs.remote.objects,
        object.metadata.labels.entries =
            [("agent.orbit.dev", "orbit"), ("translator.orbit.dev", "access-policy")] ∧
          (Provenance.parents object.metadata).entries =
            [("networking.orbit.dev/v1, Kind=AccessPolicy", [⟨"readers", "orbit"⟩])] ∨
        object.metadata.labels.entries =
            [("agent.orbit.dev", "orbit"), ("translator.orbit.dev", "access")] ∧
          (Provenance.parents object.metadata).entries =
            [("networking.orbit.dev/v1, Kind=VirtualMesh", [⟨"reading \"room\"", "orbit"⟩])] := by
  intro earlier request result
  have restored : result.summary.rolledBack = ["istiod.orbit"] := by decide +kernel
  have makers : result.outputs.remote.objects.map (·.metadata.labels.get? "translator.orbit.dev") =
      [some "access-policy", some "access", some "access"] := by decide +kernel
  have policies : ∀ destination ∈ request.input.destinations, destination.policies = [readers] := by decide
  have meshes : ∀ translation ∈ Translation.history (earlier ++ [request]), translation.mesh = libraryMesh := by
    decide
  refine ⟨rfl, rfl, restored, makers, fun object member => ?_⟩
  obtain ⟨descends, _⟩ := served_descends Injection.builtinIgnored earlier request rfl rfl
  obtain ⟨policy, rfl, ancestry⟩ := descends object member
  cases ancestry with
  | fromAccessPolicy inside isApplied _ _ stamped =>
    obtain rfl := List.mem_singleton.1 (policies _ inside ▸ isApplied)
    exact .inl ⟨stamped.labels, stamped.parents⟩
  | fromVirtualMesh published enforces _ _ stamped =>
    obtain ⟨translation, among, rfl⟩ := published.exists_translation
    have isApplied := enforces.isApplied
    rw [meshes translation among] at isApplied
    obtain rfl := Option.some.inj isApplied
    exact .inr ⟨stamped.labels, stamped.parents⟩

end Library

end Publisher

end MeshControl
