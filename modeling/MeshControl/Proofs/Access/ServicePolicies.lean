import MeshControl.Access.ServiceAccess
import MeshControl.Proofs.Provenance

/-!
# What is made for a destination

Every policy for a destination is made from one of the access policies on it.
-/

namespace MeshControl.Access

variable {input : Input} {membership : Injection.Membership} {destination : Destination}

/-- The identity of a policy for a service. -/
@[simp] theorem servicePolicy_id (service : Service) (applied : AppliedAccessPolicy)
    (principals : List String) :
    (OutputObject.authorizationPolicy (servicePolicy service applied principals)).id =
      ⟨.authorizationPolicy, service.ref.cluster, service.ref.ns,
        servicePolicyName applied.ref service.ref⟩ := by
  simp [OutputObject.id, OutputObject.type, OutputObject.metadata, servicePolicy]

/-- A policy for a service is stamped with its access policy. -/
theorem stamped_servicePolicy (service : Service) (applied : AppliedAccessPolicy) (principals : List String) :
    Provenance.Stamped (servicePolicy service applied principals).metadata serviceMaker
      Provenance.accessPolicyKind applied.ref :=
  Provenance.stamped_of_new serviceMaker Provenance.accessPolicyKind applied.ref rfl rfl

/-- An access policy becomes a policy exactly if it requests no account at all or some requested account has a
principal, and then the policy with its principals. -/
theorem compilePolicy_eq_some_iff {applied : AppliedAccessPolicy} {policy : AuthorizationPolicy} :
    compilePolicy input destination applied = some policy ↔
      (requestedAccounts applied.spec = [] ∨ principals input (requestedAccounts applied.spec) ≠ []) ∧
        policy = servicePolicy destination.service applied
          (principals input (requestedAccounts applied.spec)) := by
  unfold compilePolicy
  dsimp only
  split
  · next unresolved =>
    obtain ⟨requested, none⟩ : requestedAccounts applied.spec ≠ [] ∧
        principals input (requestedAccounts applied.spec) = [] := by
      simpa using unresolved
    constructor
    · intro made
      cases made
    · rintro ⟨unrequested | resolved, _⟩
      · exact absurd unrequested requested
      · exact absurd none resolved
  · next resolved =>
    rw [Option.some.injEq, eq_comm]
    refine (and_iff_right ?_).symm
    rw [Bool.and_eq_true, not_and_or] at resolved
    simpa using resolved

/-- An access policy becomes nothing exactly if none of its requested accounts has a principal. -/
theorem exists_compilePolicy_iff {applied : AppliedAccessPolicy} :
    (∃ policy, compilePolicy input destination applied = some policy) ↔
      requestedAccounts applied.spec = [] ∨ principals input (requestedAccounts applied.spec) ≠ [] := by
  simp only [compilePolicy_eq_some_iff, exists_and_left, exists_eq, and_true]

/-- An access policy becomes the policy with its resolved principals, or nothing. -/
theorem of_compilePolicy_eq_some {applied : AppliedAccessPolicy} {policy : AuthorizationPolicy}
    (made : compilePolicy input destination applied = some policy) :
    policy = servicePolicy destination.service applied
      (principals input (requestedAccounts applied.spec)) :=
  (compilePolicy_eq_some_iff.1 made).2

/-- Every policy for a destination is what one of its access policies becomes. -/
theorem exists_compilePolicy_of_mem {policy : AuthorizationPolicy}
    (member : policy ∈ (compileDestination input membership destination).policies) :
    ∃ applied ∈ destination.policies, compilePolicy input destination applied = some policy := by
  unfold compileDestination at member
  split at member
  · cases member
  · split at member
    · cases member
    · cases member
    · split at member
      · cases member
      · exact List.mem_filterMap.1 member

/-- The policies for a destination come from its access policies. -/
theorem of_mem_compileDestination_policies {policy : AuthorizationPolicy}
    (member : policy ∈ (compileDestination input membership destination).policies) :
    ∃ applied ∈ destination.policies, policy = servicePolicy destination.service applied
      (principals input (requestedAccounts applied.spec)) := by
  obtain ⟨applied, inside, made⟩ := exists_compilePolicy_of_mem member
  exact ⟨applied, inside, of_compilePolicy_eq_some made⟩

end MeshControl.Access
