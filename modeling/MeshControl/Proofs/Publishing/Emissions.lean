import Mathlib.Data.List.Nodup
import MeshControl.Proofs.Access.Findings
import MeshControl.Proofs.Access.ServicePolicies
import MeshControl.Proofs.Publishing.Rollback

/-!
# No policy for a service is lost

Objects are published under generated names, so two policies with one name would leave one of them. An
`Access.Emission` is a policy together with the destination and the access policy that it is made for. Where
an input has `Input.SeparateNames`, the identities of its emissions differ
(`Publisher.nodup_emissions_ids`), and what is published for meshes has other names
(`Publisher.not_isServiceName_of_published`). Both together keep every emission of a pass.
-/

namespace MeshControl

open Access (IsServiceName compileMesh serviceKey serviceStem)

namespace Access

/-- A policy that is made for an access policy on a destination. -/
structure Emission where
  destination : Destination
  applied : AppliedAccessPolicy
  policy : AuthorizationPolicy
  deriving DecidableEq, Inhabited

/-- The emissions for a destination of an Istio mesh: one for each access policy that becomes a policy. -/
def emissionsFor (input : Input) (membership : Injection.Membership) (destination : Destination) :
    List Emission :=
  if InIstioMesh input membership destination then
    destination.policies.filterMap fun applied =>
      (compilePolicy input destination applied).map (Emission.mk destination applied)
  else []

/-- The policies that are made for a destination are those of its emissions. -/
theorem compileDestination_policies (input : Input) (membership : Injection.Membership)
    (destination : Destination) :
    (compileDestination input membership destination).policies =
      (emissionsFor input membership destination).map (·.policy) := by
  have made : (destination.policies.filterMap fun applied =>
        (compilePolicy input destination applied).map (Emission.mk destination applied)).map (·.policy) =
      destination.policies.filterMap (compilePolicy input destination) := by
    rw [List.map_filterMap]
    refine List.filterMap_congr fun applied _ => ?_
    rw [Option.map_map]
    exact Option.map_id'
  by_cases inIstio : InIstioMesh input membership destination
  · rw [inIstio.compileDestination_eq, emissionsFor, if_pos inIstio]
    exact made.symm
  · rw [compileDestination_policies_eq_nil inIstio, emissionsFor, if_neg inIstio]
    rfl

/-- An emission is made for one of the access policies on its destination. -/
theorem of_mem_emissionsFor {input : Input} {membership : Injection.Membership} {destination : Destination}
    {emission : Emission} (member : emission ∈ emissionsFor input membership destination) :
    emission.destination = destination ∧ emission.applied ∈ destination.policies ∧
      compilePolicy input destination emission.applied = some emission.policy := by
  unfold emissionsFor at member
  split at member
  · obtain ⟨applied, inside, made⟩ := List.mem_filterMap.1 member
    obtain ⟨policy, compiled, rfl⟩ := Option.map_eq_some_iff.1 made
    exact ⟨rfl, inside, compiled⟩
  · cases member

namespace Emission

/-- The object that is published for an emission. -/
def object (emission : Emission) : OutputObject := .authorizationPolicy emission.policy

/-- Where the object of an emission belongs: on the cluster and in the namespace of the service, under the
name that is generated from the access policy and the service. -/
def id (emission : Emission) : ObjectId :=
  let service := emission.destination.service.ref
  ⟨.authorizationPolicy, service.cluster, service.ns, servicePolicyName emission.applied.ref service⟩

theorem isServiceName_id (emission : Emission) : IsServiceName emission.id.name := by
  simp only [id, isServiceName_servicePolicyName]

end Emission

end Access

namespace Input

/-- The keys that name the policies for the services of an input. -/
def serviceKeys (input : Input) : List String :=
  input.destinations.flatMap fun destination =>
    destination.policies.map fun applied => serviceKey applied.ref destination.service.ref

/-- The names in an input lead to different names of policies: services and access policies are told apart
by their references, have names as Kubernetes admits them, and no hash stands for two long keys. -/
structure SeparateNames (input : Input) : Prop where
  services : ((input.destinations.filter fun destination => destination.policies ≠ []).map
    (·.service.ref)).Nodup
  policies : ∀ destination ∈ input.destinations, (destination.policies.map (·.ref)).Nodup
  admitted : ∀ destination ∈ input.destinations, ∀ applied ∈ destination.policies,
    Access.Admitted applied.ref destination.service.ref
  hashes : ∀ key ∈ input.serviceKeys, ∀ other ∈ input.serviceKeys,
    Naming.Exceeds serviceStem key → Naming.Exceeds serviceStem other →
      Naming.hash key = Naming.hash other → key = other

end Input

namespace Publication

/-- What is published for a mesh is held at its identities. -/
theorem filed_outputs_remote (publication : Publication) :
    (publication.outputs compileMesh).remote.Filed := by
  intro id object held
  obtain ⟨_, _, _, identity⟩ := of_get?_outputs_remote held
  exact identity

/-- Nothing is published for a mesh on the management plane. -/
theorem get?_outputs_home_compileMesh (publication : Publication) (id : ObjectId) :
    (publication.outputs compileMesh).home.get? id = none := by
  cases found : publication.source? <;> simp [get?_outputs_home, found, Access.compileMesh_home]

end Publication

namespace Publisher

open Access (Emission emissionsFor)

/-- The emissions of a pass, in order. -/
def emissions (ignored : List String) (input : Input) : List Emission :=
  input.destinations.flatMap (emissionsFor input (membershipOf ignored input))

variable {ignored : List String} {input : Input} {emission other : Emission}

/-- The policies that a pass makes for destinations are the objects of its emissions. -/
theorem destinationObjects_eq (ignored : List String) (input : Input) :
    destinationObjects ignored input = (emissions ignored input).map Emission.object := by
  rw [emissions, List.map_flatMap]
  refine List.flatMap_congr fun destination _ => ?_
  rw [Access.compileDestination_policies, List.map_map]
  rfl

/-- An emission of a pass is made for an access policy on a destination of its input. -/
theorem of_mem_emissions (member : emission ∈ emissions ignored input) :
    emission.destination ∈ input.destinations ∧ emission.applied ∈ emission.destination.policies ∧
      Access.compilePolicy input emission.destination emission.applied = some emission.policy := by
  obtain ⟨destination, inside, emitted⟩ := List.mem_flatMap.1 member
  obtain ⟨rfl, applied, compiled⟩ := Access.of_mem_emissionsFor emitted
  exact ⟨inside, applied, compiled⟩

/-- The object of an emission has the identity of the emission. -/
theorem object_id_of_mem_emissions (member : emission ∈ emissions ignored input) :
    emission.object.id = emission.id := by
  obtain ⟨_, _, compiled⟩ := of_mem_emissions member
  rw [Emission.object, Access.of_compilePolicy_eq_some compiled, Access.servicePolicy_id]
  rfl

theorem serviceKey_mem_serviceKeys (member : emission ∈ emissions ignored input) :
    serviceKey emission.applied.ref emission.destination.service.ref ∈ input.serviceKeys := by
  obtain ⟨destination, applied, _⟩ := of_mem_emissions member
  exact List.mem_flatMap.2 ⟨_, destination, List.mem_map.2 ⟨_, applied, rfl⟩⟩

/-- Emissions with one identity are for the same service and the same access policy. -/
theorem refs_eq_of_id_eq (separate : input.SeparateNames) (member : emission ∈ emissions ignored input)
    (otherMember : other ∈ emissions ignored input) (same : emission.id = other.id) :
    emission.destination.service.ref = other.destination.service.ref ∧
      emission.applied.ref = other.applied.ref := by
  obtain ⟨destination, applied, _⟩ := of_mem_emissions member
  obtain ⟨otherDestination, otherApplied, _⟩ := of_mem_emissions otherMember
  simp only [Emission.id, ObjectId.mk.injEq, true_and] at same
  obtain ⟨clusters, namespaces, names⟩ := same
  obtain ⟨policies, services⟩ := Access.eq_of_servicePolicyName_eq
    (separate.admitted _ destination _ applied) (separate.admitted _ otherDestination _ otherApplied)
    (separate.hashes _ (serviceKey_mem_serviceKeys member) _ (serviceKey_mem_serviceKeys otherMember)) names
  refine ⟨?_, policies⟩
  cases ref : emission.destination.service.ref
  cases otherRef : other.destination.service.ref
  simp only [ref, otherRef] at clusters namespaces services
  rw [clusters, namespaces, services]

/-- No two emissions of a pass are for the same service and the same access policy. -/
theorem pairwise_emissions (separate : input.SeparateNames) :
    (emissions ignored input).Pairwise fun emission other =>
      ¬ (emission.destination.service.ref = other.destination.service.ref ∧
        emission.applied.ref = other.applied.ref) := by
  refine List.pairwise_flatMap.2 ⟨fun destination member => ?_, ?_⟩
  · -- On one destination the access policies differ.
    unfold emissionsFor
    split
    · refine List.pairwise_filterMap.2 ((List.pairwise_map.1 (separate.policies destination member)).imp ?_)
      intro applied otherApplied differ emission made other otherMade same
      obtain ⟨_, _, rfl⟩ := Option.map_eq_some_iff.1 made
      obtain ⟨_, _, rfl⟩ := Option.map_eq_some_iff.1 otherMade
      exact differ same.2
    · exact List.Pairwise.nil
  · -- Two destinations with emissions have access policies, so that their services differ.
    refine (List.pairwise_filter.1 (List.pairwise_map.1 separate.services)).imp ?_
    intro destination otherDestination differ emission member other otherMember same
    obtain ⟨rfl, applied, _⟩ := Access.of_mem_emissionsFor member
    obtain ⟨rfl, otherApplied, _⟩ := Access.of_mem_emissionsFor otherMember
    exact differ (decide_eq_true (List.ne_nil_of_mem applied)) (decide_eq_true (List.ne_nil_of_mem otherApplied))
      same.1

/-- No two emissions of a pass have the same identity. -/
theorem nodup_emissions_ids (separate : input.SeparateNames) :
    ((emissions ignored input).map Emission.id).Nodup :=
  List.pairwise_map.2 ((pairwise_emissions separate).imp_of_mem fun member otherMember differ same =>
    differ (refs_eq_of_id_eq separate member otherMember same))

/-- The policies that a pass makes for destinations have different identities. -/
theorem nodup_destinationObjects_ids (separate : input.SeparateNames) :
    ((destinationObjects ignored input).map OutputObject.id).Nodup := by
  have identities : (emissions ignored input).map (OutputObject.id ∘ Emission.object) =
      (emissions ignored input).map Emission.id :=
    List.map_congr_left fun emission member => object_id_of_mem_emissions member
  rw [destinationObjects_eq, List.map_map, identities]
  exact nodup_emissions_ids separate

/-- Nothing that is published for a mesh, fresh or restored, has a name like the policies for services. -/
theorem not_isServiceName_of_published {publication : Publication} {id : ObjectId} {object : OutputObject}
    (held : (publication.outputs compileMesh).remote.get? id = some object) : ¬ IsServiceName id.name := by
  obtain ⟨source, _, made, rfl⟩ := Publication.of_get?_outputs_remote held
  exact Access.not_isServiceName_of_isMeshPolicyName (Access.isMeshPolicyName_of_mem_compileMesh_remote made)

section Served

variable (ignored : List String) (earlier : List PassRequest) (request : PassRequest)

/-- Under a name like those for services a pass holds what it made for destinations, or what it began with. -/
theorem get?_served_remote_of_isServiceName {id : ObjectId} (named : IsServiceName id.name) :
    ((after { ignored, compile := compileMesh } earlier).serve { ignored, compile := compileMesh }
        request).outputs.remote.get? id =
      (OutputObject.latest? id (destinationObjects ignored request.input)).or
        (request.outputs.remote.get? id) := by
  have unpublished : (Publication.after compileMesh (Translation.history earlier)
      request.input.translations).reverse.findSome? (fun publication =>
        (publication.outputs compileMesh).remote.get? id) = none := by
    rw [List.findSome?_eq_none_iff]
    intro publication _
    rw [Option.eq_none_iff_forall_ne_some]
    intro object held
    exact not_isServiceName_of_published held named
  rw [get?_served_remote, unpublished, Option.none_or]

/-- Every emission is held at its identity at the end of the pass. -/
theorem get?_served_remote_of_mem_emissions (separate : request.input.SeparateNames) {emission : Emission}
    (member : emission ∈ emissions ignored request.input) :
    ((after { ignored, compile := compileMesh } earlier).serve { ignored, compile := compileMesh }
        request).outputs.remote.get? emission.id = some emission.object := by
  have made : emission.object ∈ destinationObjects ignored request.input := by
    rw [destinationObjects_eq]
    exact List.mem_map_of_mem member
  have latest := OutputObject.latest?_of_nodup (nodup_destinationObjects_ids separate) made
  rw [object_id_of_mem_emissions member] at latest
  rw [get?_served_remote_of_isServiceName _ _ _ emission.isServiceName_id, latest, Option.some_or]

/-- A pass that begins with nothing holds each of its objects at the identity of the object. -/
theorem filed_served_remote (empty : request.outputs.remote.byId = ∅) :
    ((after { ignored, compile := compileMesh } earlier).serve { ignored, compile := compileMesh }
      request).outputs.remote.Filed := by
  intro id object held
  rw [get?_served_remote, OutputSnapshot.get?_of_byId_eq_empty empty, Option.or_none,
    Option.or_eq_some_iff] at held
  rcases held with published | ⟨_, latest⟩
  · obtain ⟨publication, _, held⟩ := List.exists_of_findSome?_eq_some published
    exact publication.filed_outputs_remote id object held
  · exact (OutputObject.of_latest?_eq_some latest).2

/-- Every object of a pass that begins with nothing was made by a published translation or for a
destination. -/
theorem of_mem_objects_served_remote (empty : request.outputs.remote.byId = ∅) {object : OutputObject}
    (member : object ∈ ((after { ignored, compile := compileMesh } earlier).serve
      { ignored, compile := compileMesh } request).outputs.remote.objects) :
    (∃ publication ∈ Publication.after compileMesh (Translation.history earlier) request.input.translations,
      ∃ source, publication.source? = some source ∧ object ∈ (compileMesh source.input source.mesh).remote) ∨
      object ∈ destinationObjects ignored request.input := by
  have held := (filed_served_remote ignored earlier request empty).mem_objects_iff.1 member
  rw [get?_served_remote, OutputSnapshot.get?_of_byId_eq_empty empty, Option.or_none,
    Option.or_eq_some_iff] at held
  rcases held with published | ⟨_, latest⟩
  · obtain ⟨publication, among, holds⟩ := List.exists_of_findSome?_eq_some published
    obtain ⟨source, found, made, _⟩ := Publication.of_get?_outputs_remote holds
    exact .inl ⟨publication, List.mem_reverse.1 among, source, found, made⟩
  · exact .inr (OutputObject.of_latest?_eq_some latest).1

/-- The objects with names like those for services, at the end of a pass that begins with nothing, are the
emissions. -/
theorem perm_emissions (empty : request.outputs.remote.byId = ∅) (separate : request.input.SeparateNames) :
    (((after { ignored, compile := compileMesh } earlier).serve { ignored, compile := compileMesh }
        request).outputs.remote.objects.filter fun object => IsServiceName object.metadata.name).Perm
      ((emissions ignored request.input).map Emission.object) := by
  have filed := filed_served_remote ignored earlier request empty
  have distinct : ((emissions ignored request.input).map Emission.object).Nodup := by
    rw [← destinationObjects_eq]
    exact List.Nodup.of_map _ (nodup_destinationObjects_ids separate)
  rw [List.perm_ext_iff_of_nodup (filed.nodup_objects.filter _) distinct]
  intro object
  rw [List.mem_filter, decide_eq_true_eq, filed.mem_objects_iff]
  constructor
  · rintro ⟨held, named⟩
    rw [get?_served_remote_of_isServiceName _ _ _ named, OutputSnapshot.get?_of_byId_eq_empty empty,
      Option.or_none] at held
    rw [← destinationObjects_eq]
    exact (OutputObject.of_latest?_eq_some held).1
  · intro emitted
    obtain ⟨emission, member, rfl⟩ := List.mem_map.1 emitted
    have identity := object_id_of_mem_emissions member
    rw [identity]
    refine ⟨get?_served_remote_of_mem_emissions ignored earlier request separate member, ?_⟩
    have named := emission.isServiceName_id
    rwa [← identity] at named

/-- A pass adds nothing for the management plane. -/
theorem home_served :
    ((after { ignored, compile := compileMesh } earlier).serve { ignored, compile := compileMesh }
      request).outputs.home = request.outputs.home := by
  refine OutputSnapshot.ext_get? (names_served ignored compileMesh earlier request).2 fun id => ?_
  have unpublished : (Publication.after compileMesh (Translation.history earlier)
      request.input.translations).reverse.findSome? (fun publication =>
        (publication.outputs compileMesh).home.get? id) = none := by
    rw [List.findSome?_eq_none_iff]
    intro publication _
    exact publication.get?_outputs_home_compileMesh id
  rw [get?_served_home, unpublished, Option.none_or]

/-- A pass that begins with nothing ends with nothing for the management plane. -/
theorem objects_served_home (empty : request.outputs.home.byId = ∅) :
    ((after { ignored, compile := compileMesh } earlier).serve { ignored, compile := compileMesh }
      request).outputs.home.objects = [] := by
  rw [home_served]
  exact OutputSnapshot.objects_eq_nil (OutputSnapshot.get?_of_byId_eq_empty empty)

/-- A pass that begins with nothing, after any passes, loses no policy for a service. What it makes for
destinations are its emissions, and each is held at its identity in the end. They are as many as there are
objects with names like theirs, and nothing that is published for a mesh has such a name. -/
theorem served_keeps_emissions (emptyRemote : request.outputs.remote.byId = ∅)
    (emptyHome : request.outputs.home.byId = ∅) (separate : request.input.SeparateNames) :
    let settings : PassSettings := { ignored, compile := compileMesh }
    let outputs := ((after settings earlier).serve settings request).outputs
    let emitted := emissions ignored request.input
    emitted.map Emission.object = destinationObjects ignored request.input ∧
      (∀ emission ∈ emitted, outputs.remote.get? emission.id = some emission.object) ∧
      ((outputs.remote.objects ++ outputs.home.objects).filter fun object =>
        IsServiceName object.metadata.name).length = emitted.length ∧
      ∀ publication ∈
          Publication.after compileMesh (Translation.history earlier) request.input.translations,
        ∀ object ∈ (publication.outputs compileMesh).remote.objects ++
            (publication.outputs compileMesh).home.objects,
          ¬ IsServiceName object.metadata.name := by
  intro settings outputs emitted
  refine ⟨(destinationObjects_eq ignored request.input).symm, ?_, ?_, ?_⟩
  · intro emission member
    exact get?_served_remote_of_mem_emissions ignored earlier request separate member
  · have kept := (perm_emissions ignored earlier request emptyRemote separate).length_eq
    rw [List.length_map] at kept
    rw [objects_served_home ignored earlier request emptyHome, List.append_nil]
    exact kept
  · intro publication _ object member
    rw [OutputSnapshot.objects_eq_nil publication.get?_outputs_home_compileMesh, List.append_nil,
      publication.filed_outputs_remote.mem_objects_iff] at member
    exact not_isServiceName_of_published member

end Served

section Shop

/-- A mesh with enforced access and one gateway. -/
private def storeMesh : Mesh where
  metadata := { name := "istiod", ns := "orbit" }
  provider := .istio { installation := { ns := "istio-system", cluster := "east" } }
  status :=
    { virtualMesh := some { ref := ⟨"vm", "orbit"⟩, spec := { globalAccess := .enabled } }
      ingressGateways := [⟨"gateway", "istio-system"⟩] }

/-- A destination of the mesh with some access policies. -/
private def storeDestination (name ns : String) (policies : List AppliedAccessPolicy) : Destination where
  metadata := { name, ns }
  spec := { service := { ref := ⟨name, ns, "east"⟩ }, mesh := some ⟨"istiod", "orbit"⟩ }
  status := { accessPolicies := policies }

/-- An access policy that allows every caller. -/
private def openTo (name : String) : AppliedAccessPolicy where
  ref := ⟨name, "storefront"⟩

/-- An access policy for a caller without a mesh, which becomes nothing. -/
private def strangers : AppliedAccessPolicy where
  ref := ⟨"strangers", "storefront"⟩
  spec := { sources := [{ serviceAccounts := [⟨"crawler", "web", "west"⟩] }] }

/-- A pass over the mesh and some destinations, into outputs of its own. -/
private def storePass (destinations : List Destination) : PassRequest :=
  ⟨{ meshes := [storeMesh], destinations }, .named "remote" "local", .fresh⟩

/-- The second pass restores what the first has published for the mesh, since the gateway's destination is
gone. It keeps three policies, two of them for one access policy and one under the hash of its key. -/
theorem served_keeps_emissions_restored :
    let earlier := [storePass [storeDestination "gateway" "istio-system" []]]
    let request := storePass
      [storeDestination "recommendations" "shop"
        [strangers, openTo "readers.v2", openTo "callers-from-europe.v12"],
        storeDestination "cart" "shop" [openTo "readers.v2"]]
    request.outputs.remote.byId = ∅ ∧ request.outputs.home.byId = ∅ ∧ request.input.SeparateNames ∧
      ((((after {} earlier).serve {} request).outputs.remote.objects ++
        ((after {} earlier).serve {} request).outputs.home.objects).filter fun object =>
          IsServiceName object.metadata.name).length = 3 := by
  intro earlier request
  have long : ∀ key ∈ request.input.serviceKeys, Naming.Exceeds serviceStem key →
      key = "callers-from-europe.v12.storefront.recommendations" := by decide +kernel
  have separate : request.input.SeparateNames :=
    { services := by decide
      policies := by decide
      admitted := by decide +kernel
      hashes := fun key member other otherMember isLong otherLong _ =>
        (long key member isLong).trans (long other otherMember otherLong).symm }
  have three : (emissions Injection.builtinIgnored request.input).length = 3 := by decide +kernel
  obtain ⟨_, _, count, _⟩ :=
    served_keeps_emissions Injection.builtinIgnored earlier request rfl rfl separate
  exact ⟨rfl, rfl, separate, count.trans three⟩

end Shop

end Publisher

end MeshControl
