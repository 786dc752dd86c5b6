import MeshControl.Access.ServiceAccess
import MeshControl.Proofs.Keys
import MeshControl.Proofs.Naming

/-!
# Names of generated policies

Every bounded name starts with its stem, whether the rest is readable or a hash. So the three kinds of
policies never share a name: the one that denies everything, those that open gateways, and those for
services. No property of the keys or of the hash is needed.

Two policies for services share a name only if both come from one access policy and the services have one
name (`Access.eq_of_servicePolicyName_eq`), and two policies for gateways only if they open one gateway
(`Access.eq_of_gatewayName_eq`). This needs names as Kubernetes admits them, and keys that the hash tells apart
where they are too long. Dots in the name of an access policy or a gateway do no harm: the key is parsed from its
end.
-/

namespace MeshControl

theorem Naming.exists_bounded_eq (stem key : String) :
    ∃ rest, Naming.bounded stem key = stem ++ "-" ++ rest := by
  unfold Naming.bounded
  dsimp only
  split
  · exact ⟨Naming.sanitize key, rfl⟩
  · exact ⟨Naming.hash key, rfl⟩

namespace Access

/-- The names of the policies made for a mesh: the fixed one, and all that start like a gateway's. -/
def IsMeshPolicyName (name : String) : Prop :=
  name = globalName ∨ ∃ rest, name = gatewayStem ++ "-" ++ rest

/-- No gateway has the name of the policy that denies everything. -/
theorem gatewayName_ne_globalName (gateway : ObjectRef) : gatewayName gateway ≠ globalName := by
  intro same
  obtain ⟨rest, starts⟩ := Naming.exists_bounded_eq gatewayStem gateway.key
  rw [gatewayName, starts] at same
  have chars := congrArg String.toList same
  simp [gatewayStem, globalName] at chars

/-- The names of the policies for services, which have their stem in front. -/
def IsServiceName (name : String) : Prop := (serviceStem ++ "-").toList <+: name.toList

instance (name : String) : Decidable (IsServiceName name) :=
  inferInstanceAs (Decidable ((serviceStem ++ "-").toList <+: name.toList))

theorem isServiceName_servicePolicyName (policy : ObjectRef) (service : ClusterRef) :
    IsServiceName (servicePolicyName policy service) := by
  obtain ⟨rest, starts⟩ := Naming.exists_bounded_eq serviceStem (policy.key ++ "." ++ service.name)
  rw [servicePolicyName, starts]
  exact ⟨rest.toList, by rw [← String.toList_append]⟩

/-- A policy for a mesh never has a name like those for services. -/
theorem not_isServiceName_of_isMeshPolicyName {name : String} (forMesh : IsMeshPolicyName name) :
    ¬ IsServiceName name := by
  rintro ⟨rest, chars⟩
  rcases forMesh with rfl | ⟨gatewayRest, rfl⟩
  · simp [serviceStem, globalName] at chars
  · simp [serviceStem, gatewayStem] at chars

/-- A policy for a service never has the name of a policy for a mesh. -/
theorem not_isMeshPolicyName_servicePolicyName (policy : ObjectRef) (service : ClusterRef) :
    ¬ IsMeshPolicyName (servicePolicyName policy service) := fun forMesh =>
  not_isServiceName_of_isMeshPolicyName forMesh (isServiceName_servicePolicyName policy service)

theorem isMeshPolicyName_gatewayName (gateway : ObjectRef) : IsMeshPolicyName (gatewayName gateway) :=
  .inr (Naming.exists_bounded_eq gatewayStem gateway.key)

/-- The key that names the policy for a service. -/
def serviceKey (policy : ObjectRef) (service : ClusterRef) : String := policy.key ++ "." ++ service.name

/-- An access policy and a service have names as Kubernetes admits them, without dots in the namespace and
in the name of the service. -/
structure Admitted (policy : ObjectRef) (service : ClusterRef) : Prop where
  name : Naming.IsValid policy.name
  ns : Naming.IsLabel policy.ns
  service : Naming.IsLabel service.name

instance (policy : ObjectRef) (service : ClusterRef) : Decidable (Admitted policy service) :=
  decidable_of_iff
    (Naming.IsValid policy.name ∧ Naming.IsLabel policy.ns ∧ Naming.IsLabel service.name)
    ⟨fun ⟨name, ns, service⟩ => ⟨name, ns, service⟩,
      fun admitted => ⟨admitted.name, admitted.ns, admitted.service⟩⟩

section Admitted

variable {policy other : ObjectRef} {service otherService : ClusterRef}

theorem Admitted.isValid_serviceKey (admitted : Admitted policy service) :
    Naming.IsValid (serviceKey policy service) :=
  (admitted.name.dotted admitted.ns.toIsValid).dotted admitted.service.toIsValid

theorem dot_mem_serviceKey (policy : ObjectRef) (service : ClusterRef) :
    '.' ∈ (serviceKey policy service).toList := by
  simp [serviceKey]

/-- The name of a policy for a service determines the access policy and the name of the service, unless
two long keys have one hash. -/
theorem eq_of_servicePolicyName_eq (admitted : Admitted policy service)
    (otherAdmitted : Admitted other otherService)
    (hashes : Naming.Exceeds serviceStem (serviceKey policy service) →
      Naming.Exceeds serviceStem (serviceKey other otherService) →
        Naming.hash (serviceKey policy service) = Naming.hash (serviceKey other otherService) →
          serviceKey policy service = serviceKey other otherService)
    (same : servicePolicyName policy service = servicePolicyName other otherService) :
    policy = other ∧ service.name = otherService.name := by
  have keys : serviceKey policy service = serviceKey other otherService :=
    Naming.eq_of_bounded_eq admitted.isValid_serviceKey otherAdmitted.isValid_serviceKey
      (dot_mem_serviceKey policy service) (dot_mem_serviceKey other otherService) hashes same
  obtain ⟨policies, services⟩ :=
    Text.eq_of_dotted_eq admitted.service.noDot otherAdmitted.service.noDot keys
  exact ⟨ObjectRef.eq_of_key_eq admitted.ns.noDot otherAdmitted.ns.noDot policies, services⟩

end Admitted

/-- A gateway has names as Kubernetes admits them, without dots in the namespace. -/
structure AdmittedGateway (gateway : ObjectRef) : Prop where
  name : Naming.IsValid gateway.name
  ns : Naming.IsLabel gateway.ns

instance (gateway : ObjectRef) : Decidable (AdmittedGateway gateway) :=
  decidable_of_iff (Naming.IsValid gateway.name ∧ Naming.IsLabel gateway.ns)
    ⟨fun ⟨name, ns⟩ => ⟨name, ns⟩, fun admitted => ⟨admitted.name, admitted.ns⟩⟩

/-- The name of the policy for a gateway determines the gateway, unless two long keys have one hash. -/
theorem eq_of_gatewayName_eq {gateway other : ObjectRef} (admitted : AdmittedGateway gateway)
    (otherAdmitted : AdmittedGateway other)
    (hashes : Naming.Exceeds gatewayStem gateway.key → Naming.Exceeds gatewayStem other.key →
      Naming.hash gateway.key = Naming.hash other.key → gateway.key = other.key)
    (same : gatewayName gateway = gatewayName other) : gateway = other := by
  have dotted (ref : ObjectRef) : '.' ∈ ref.key.toList := by simp [ObjectRef.key]
  have keys : gateway.key = other.key :=
    Naming.eq_of_bounded_eq (admitted.name.dotted admitted.ns.toIsValid)
      (otherAdmitted.name.dotted otherAdmitted.ns.toIsValid) (dotted gateway) (dotted other) hashes same
  exact ObjectRef.eq_of_key_eq admitted.ns.noDot otherAdmitted.ns.noDot keys

end Access

end MeshControl
