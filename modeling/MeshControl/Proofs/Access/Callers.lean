import MeshControl.Proofs.Access.Findings
import MeshControl.Proofs.Access.ServicePolicies
import MeshControl.Proofs.Text.Bytes

/-!
# Who may call a service

An access policy lists service accounts, and the policy that it becomes names principals. `IsCaller` says which
texts these are: those of the listed accounts on clusters with an Istio mesh. Nobody else is admitted
(`admits_listed_callers`), since a principal determines its parts where namespaces and names have no slash
(`principal_inj`). A policy admits everyone exactly if no source selector lists an account
(`admits_everyone_iff_unlisted`). So a list of source selectors may be there and still restrict nobody, if all of
them are empty (`admits_everyone_despite_selector`).
-/

namespace MeshControl

/-- A source selector of an access policy lists a service account. -/
def AccessPolicySpec.Lists (spec : AccessPolicySpec) (account : ClusterRef) : Prop :=
  ∃ selector ∈ spec.sources, account ∈ selector.serviceAccounts

instance (spec : AccessPolicySpec) (account : ClusterRef) : Decidable (spec.Lists account) :=
  inferInstanceAs (Decidable (∃ selector ∈ spec.sources, account ∈ selector.serviceAccounts))

/-- The same access policy with other source selectors. -/
def AppliedAccessPolicy.withSources (applied : AppliedAccessPolicy) (sources : List IdentitySelector) :
    AppliedAccessPolicy :=
  { applied with spec := { applied.spec with sources } }

/-- A policy admits everyone if one of its rules has no source. -/
def AuthorizationPolicy.AdmitsEveryone (policy : AuthorizationPolicy) : Prop :=
  ∃ rule ∈ policy.spec.rules, rule.sources = []

namespace Access

variable {input : Input} {membership : Injection.Membership} {destination : Destination}
  {applied : AppliedAccessPolicy} {policy : AuthorizationPolicy}

/-- The first Istio mesh of an input on a cluster. -/
def IsFirstOn (input : Input) (cluster : String) (istio : IstioMesh) : Prop :=
  istio.installation.cluster = cluster ∧ ∃ earlier later,
    input.meshes.filterMap Mesh.istio = earlier ++ istio :: later ∧
      ∀ other ∈ earlier, other.installation.cluster ≠ cluster

/-- A text is the principal of a listed account: the trust domain of the first Istio mesh on the cluster of the
account, its namespace and its name. -/
def IsCaller (input : Input) (spec : AccessPolicySpec) (text : String) : Prop :=
  ∃ account istio, spec.Lists account ∧ IsFirstOn input account.cluster istio ∧
    text = istio.trustDomain ++ "/ns/" ++ account.ns ++ "/sa/" ++ account.name

/-- A policy admits the callers of an access policy and nobody else: its only rule has one source, which holds
their principals in byte order, each once. -/
def AdmitsCallers (input : Input) (spec : AccessPolicySpec) (policy : AuthorizationPolicy) : Prop :=
  ∃ principals operations, policy.spec.rules = [{ sources := [principals], operations }] ∧
    (principals.map Text.bytes).Pairwise (· < ·) ∧ ∀ text, text ∈ principals ↔ IsCaller input spec text

/-- The parts of an account that stand in its principal have no slash. -/
def SlashFree (account : ClusterRef) : Prop := '/' ∉ account.ns.toList ∧ '/' ∉ account.name.toList

instance (account : ClusterRef) : Decidable (SlashFree account) :=
  inferInstanceAs (Decidable ('/' ∉ account.ns.toList ∧ '/' ∉ account.name.toList))

theorem mem_requestedAccounts {spec : AccessPolicySpec} {account : ClusterRef} :
    account ∈ requestedAccounts spec ↔ spec.Lists account :=
  List.mem_flatMap

theorem requestedAccounts_eq_nil_iff {spec : AccessPolicySpec} :
    requestedAccounts spec = [] ↔ ∀ selector ∈ spec.sources, selector.serviceAccounts = [] :=
  List.flatMap_eq_nil_iff

theorem trustDomain?_eq_some_iff {cluster domain : String} :
    trustDomain? input cluster = some domain ↔
      ∃ istio, IsFirstOn input cluster istio ∧ istio.trustDomain = domain := by
  simp only [trustDomain?, Option.map_eq_some_iff, List.find?_eq_some_iff_append, decide_eq_true_eq,
    Bool.not_eq_true', decide_eq_false_iff_not, IsFirstOn, ne_eq]

/-- A cluster that hosts an Istio mesh has a trust domain. -/
theorem hosts_iff {cluster : String} :
    Hosts input cluster ↔ ∃ domain, trustDomain? input cluster = some domain := by
  rw [← not_iff_not, ← trustDomain?_eq_none_iff, Option.eq_none_iff_forall_ne_some, not_exists]

/-- The principals of an access policy are those of its callers. -/
theorem mem_principals {spec : AccessPolicySpec} {text : String} :
    text ∈ principals input (requestedAccounts spec) ↔ IsCaller input spec text := by
  simp only [principals, SortedMap.mem_distinct, List.mem_filterMap, mem_requestedAccounts,
    Option.map_eq_some_iff, trustDomain?_eq_some_iff]
  constructor
  · rintro ⟨account, listed, _, ⟨istio, first, rfl⟩, rfl⟩
    exact ⟨account, istio, listed, first, rfl⟩
  · rintro ⟨account, istio, listed, first, rfl⟩
    exact ⟨account, listed, istio.trustDomain, ⟨istio, first, rfl⟩, rfl⟩

theorem requestedAccounts_ne_nil_of_listed {spec : AccessPolicySpec} (listed : ∃ account, spec.Lists account) :
    requestedAccounts spec ≠ [] := by
  obtain ⟨account, lists⟩ := listed
  exact List.ne_nil_of_mem (mem_requestedAccounts.2 lists)

/-- Some listed account has a principal exactly if the cluster of one hosts an Istio mesh. -/
theorem principals_ne_nil_iff {spec : AccessPolicySpec} :
    principals input (requestedAccounts spec) ≠ [] ↔
      ∃ account, spec.Lists account ∧ Hosts input account.cluster := by
  rw [ne_eq, List.eq_nil_iff_forall_not_mem, not_forall_not]
  simp only [mem_principals, hosts_iff, trustDomain?_eq_some_iff]
  constructor
  · rintro ⟨_, account, istio, listed, first, _⟩
    exact ⟨account, listed, istio.trustDomain, istio, first, rfl⟩
  · rintro ⟨account, listed, _, istio, first, _⟩
    exact ⟨_, account, istio, listed, first, rfl⟩

/-- Principals are strictly ascending by their bytes. -/
theorem ascending_principals (input : Input) (accounts : List ClusterRef) :
    ((principals input accounts).map Text.bytes).Pairwise (· < ·) :=
  List.pairwise_map.2 ((SortedMap.ascending_distinct _).imp Text.bytes_lt_iff.2)

/-- Principals depend only on the set of the accounts. -/
theorem principals_congr {accounts others : List ClusterRef}
    (same : ∀ account, account ∈ accounts ↔ account ∈ others) :
    principals input accounts = principals input others := by
  refine SortedMap.distinct_congr fun text => ?_
  simp only [List.mem_filterMap, same]

/-- A principal determines its parts, if namespaces and names have no slash. The trust domain may have some:
the text is parsed from its end. -/
theorem principal_inj {first second : ClusterRef} (firstFree : SlashFree first) (secondFree : SlashFree second)
    {domain other : String} :
    principal domain first = principal other second ↔
      domain = other ∧ first.ns = second.ns ∧ first.name = second.name := by
  constructor
  · intro same
    have chars : (domain.toList ++ ['/', 'n', 's', '/'] ++ first.ns.toList ++ ['/', 's', 'a']) ++
          '/' :: first.name.toList =
        (other.toList ++ ['/', 'n', 's', '/'] ++ second.ns.toList ++ ['/', 's', 'a']) ++
          '/' :: second.name.toList := by
      simpa [principal] using congrArg String.toList same
    obtain ⟨starts, names⟩ := Text.parts_eq_of_append_cons_last firstFree.2 secondFree.2 chars
    have marked : (domain.toList ++ ['/', 'n', 's']) ++ '/' :: first.ns.toList =
        (other.toList ++ ['/', 'n', 's']) ++ '/' :: second.ns.toList := by
      simpa using List.append_cancel_right starts
    obtain ⟨domains, namespaces⟩ := Text.parts_eq_of_append_cons_last firstFree.1 secondFree.1 marked
    exact ⟨String.toList_inj.1 (List.append_cancel_right domains), String.toList_inj.1 namespaces,
      String.toList_inj.1 names⟩
  · rintro ⟨rfl, namespaces, names⟩
    rw [principal, principal, namespaces, names]

/-- A policy admits everyone exactly if its access policy lists no account in any selector. -/
theorem admitsEveryone_iff (made : compilePolicy input destination applied = some policy) :
    policy.AdmitsEveryone ↔ ∀ selector ∈ applied.spec.sources, selector.serviceAccounts = [] := by
  obtain ⟨resolved, rfl⟩ := compilePolicy_eq_some_iff.1 made
  have sources : (servicePolicy destination.service applied
      (principals input (requestedAccounts applied.spec))).AdmitsEveryone ↔
        principals input (requestedAccounts applied.spec) = [] := by
    simp [AuthorizationPolicy.AdmitsEveryone, servicePolicy, ruleOf]
  rw [sources, ← requestedAccounts_eq_nil_iff]
  constructor
  · intro none
    exact resolved.resolve_right (not_not_intro none)
  · intro unlisted
    rw [unlisted]
    rfl

/-- A policy made for listed accounts admits their principals. -/
theorem admitsCallers_of_listed (made : compilePolicy input destination applied = some policy)
    (listed : ∃ account, applied.spec.Lists account) : AdmitsCallers input applied.spec policy := by
  obtain ⟨resolved, rfl⟩ := compilePolicy_eq_some_iff.1 made
  have restricted := resolved.resolve_left (requestedAccounts_ne_nil_of_listed listed)
  refine ⟨principals input (requestedAccounts applied.spec),
    if (operationOf applied.spec).isEmpty then [] else [operationOf applied.spec], ?_,
    ascending_principals _ _, fun _ => mem_principals⟩
  rw [servicePolicy, ruleOf, if_neg (by simpa using restricted)]

/-- The policy that an access policy becomes depends on the listed accounts only as a set. -/
theorem compilePolicy_withSources {sources : List IdentitySelector}
    (same : ∀ account, (applied.withSources sources).spec.Lists account ↔ applied.spec.Lists account) :
    compilePolicy input destination (applied.withSources sources) =
      compilePolicy input destination applied := by
  have accounts (account : ClusterRef) :
      account ∈ requestedAccounts (applied.withSources sources).spec ↔
        account ∈ requestedAccounts applied.spec := by
    rw [mem_requestedAccounts, mem_requestedAccounts, same account]
  have unrequested : requestedAccounts (applied.withSources sources).spec = [] ↔
      requestedAccounts applied.spec = [] := by
    rw [List.eq_nil_iff_forall_not_mem, List.eq_nil_iff_forall_not_mem]
    simp only [accounts]
  refine Option.ext fun policy => ?_
  rw [compilePolicy_eq_some_iff, compilePolicy_eq_some_iff, principals_congr accounts, unrequested]
  exact Iff.rfl

/-- What an access policy becomes is among the policies for a destination of an Istio mesh. -/
theorem mem_compileDestination_policies (inIstio : InIstioMesh input membership destination)
    (inside : applied ∈ destination.policies) (made : compilePolicy input destination applied = some policy) :
    policy ∈ (compileDestination input membership destination).policies := by
  rw [inIstio.compileDestination_eq]
  exact List.mem_filterMap.2 ⟨applied, inside, made⟩

/-- An access policy that lists accounts becomes a policy exactly if the cluster of one of them hosts an Istio
mesh, and then the policy admits its callers and nobody else. The policy depends on the accounts only as a set,
however the selectors list them. Where namespaces and names have no slash, accounts with one principal agree in
trust domain, namespace and name, so that only accounts that agree with a listed one are admitted. -/
theorem admits_listed_callers (input : Input) (destination : Destination) (applied : AppliedAccessPolicy)
    (listed : ∃ account, applied.spec.Lists account) :
    ((∃ policy, compilePolicy input destination applied = some policy) ↔
        ∃ account, applied.spec.Lists account ∧ Hosts input account.cluster) ∧
      (∀ policy, compilePolicy input destination applied = some policy →
        AdmitsCallers input applied.spec policy) ∧
      (∀ sources, (∀ account, (applied.withSources sources).spec.Lists account ↔ applied.spec.Lists account) →
        compilePolicy input destination (applied.withSources sources) =
          compilePolicy input destination applied) ∧
      (∀ first second, SlashFree first → SlashFree second → ∀ domain other,
        principal domain first = principal other second →
          domain = other ∧ first.ns = second.ns ∧ first.name = second.name) ∧
      ((∀ account, applied.spec.Lists account → SlashFree account) →
        ∀ account domain, SlashFree account → IsCaller input applied.spec (principal domain account) →
          ∃ agreeing istio, applied.spec.Lists agreeing ∧ IsFirstOn input agreeing.cluster istio ∧
            istio.trustDomain = domain ∧ agreeing.ns = account.ns ∧ agreeing.name = account.name) := by
  refine ⟨?_, fun policy made => admitsCallers_of_listed made listed, fun sources same =>
    compilePolicy_withSources same, fun first second firstFree secondFree domain other same =>
    (principal_inj firstFree secondFree).1 same, ?_⟩
  · rw [exists_compilePolicy_iff, or_iff_right (requestedAccounts_ne_nil_of_listed listed),
      principals_ne_nil_iff]
  · rintro free account domain accountFree ⟨agreeing, istio, lists, first, same⟩
    obtain ⟨domains, namespaces, names⟩ := (principal_inj accountFree (free agreeing lists)).1 same
    exact ⟨agreeing, istio, lists, first, domains.symm, namespaces.symm, names.symm⟩

section Reviews

private def meshOnEast (trustDomain : String) : Mesh where
  metadata := { name := "istiod-" ++ trustDomain, ns := "orbit" }
  provider := .istio { installation := { ns := "istio-system", cluster := "east" }, trustDomain }

/-- Two Istio meshes on the east, of which the first one names the callers from there, and none on the west. -/
private def twoDomains : Input where
  meshes := [meshOnEast "east.local", meshOnEast "other.local"]

private def web : ClusterRef := ⟨"web", "frontend", "east"⟩

private def batch : ClusterRef := ⟨"batch", "jobs", "west"⟩

/-- Two of three selectors list an account with a principal, and one of them also an account without one. -/
private def listing : AppliedAccessPolicy where
  ref := ⟨"allow-web", "orbit"⟩
  spec := { sources := [{ serviceAccounts := [batch, web] }, {}, { serviceAccounts := [web] }] }

/-- The only source selector lists no account. -/
private def unlisting : AppliedAccessPolicy where
  ref := ⟨"allow-nobody", "orbit"⟩
  spec := { sources := [{}] }

private def reviews : Destination where
  metadata := { name := "reviews", ns := "orbit" }
  spec :=
    { service := { ref := ⟨"reviews", "bookinfo", "east"⟩, selector := .ofList [("app", "reviews")] }
      mesh := some ⟨"istiod-east.local", "orbit"⟩ }
  status := { accessPolicies := [listing, unlisting] }

/-- One of two listed accounts has a principal, so that a policy is made and admits it; the policy is the same
where one selector lists both. Nobody of another trust domain is admitted. -/
theorem admits_listed_callers_web :
    (∃ account, listing.spec.Lists account) ∧
      (∃ policy, compilePolicy twoDomains reviews listing = some policy ∧
        AdmitsCallers twoDomains listing.spec policy) ∧
      compilePolicy twoDomains reviews (listing.withSources [{ serviceAccounts := [web, batch] }]) =
        compilePolicy twoDomains reviews listing ∧
      principal "east.local" web ≠ principal "other.local" web ∧
      ¬ IsCaller twoDomains listing.spec (principal "other.local" web) := by
  have listed : ∃ account, listing.spec.Lists account := ⟨web, by decide⟩
  obtain ⟨made, admits, regroup, apart, nobodyElse⟩ := admits_listed_callers twoDomains reviews listing listed
  obtain ⟨policy, becomes⟩ := made.2 ⟨web, by decide, by decide⟩
  refine ⟨listed, ⟨policy, becomes, admits policy becomes⟩, regroup _ fun account => ?_, fun same => ?_,
    fun caller => ?_⟩
  · rw [← mem_requestedAccounts, ← mem_requestedAccounts]
    have forth : ∀ account ∈ requestedAccounts (listing.withSources [{ serviceAccounts := [web, batch] }]).spec,
        account ∈ requestedAccounts listing.spec := by decide
    have back : ∀ account ∈ requestedAccounts listing.spec,
        account ∈ requestedAccounts (listing.withSources [{ serviceAccounts := [web, batch] }]).spec := by decide
    exact ⟨forth account, back account⟩
  · exact absurd (apart web web (by decide) (by decide) _ _ same).1 (by decide)
  · have free : ∀ account ∈ requestedAccounts listing.spec, SlashFree account := by decide
    obtain ⟨agreeing, istio, lists, first, domain, _, _⟩ :=
      nobodyElse (fun account lists => free account (mem_requestedAccounts.2 lists)) web _ (by decide) caller
    have elsewhere : ∀ account ∈ requestedAccounts listing.spec,
        trustDomain? twoDomains account.cluster ≠ some "other.local" := by decide
    exact elsewhere agreeing (mem_requestedAccounts.2 lists) (trustDomain?_eq_some_iff.2 ⟨istio, first, domain⟩)

/-- Of the policies for a destination, those and only those admit everyone whose access policies list no account
in any source selector: an access policy that lists some is never widened, whether or not they have principals. -/
theorem admits_everyone_iff_unlisted (input : Input) (membership : Injection.Membership)
    (destination : Destination) :
    ∀ policy ∈ (compileDestination input membership destination).policies,
      (∃ applied ∈ destination.policies, compilePolicy input destination applied = some policy) ∧
        ∀ applied, compilePolicy input destination applied = some policy →
          (policy.AdmitsEveryone ↔ ∀ selector ∈ applied.spec.sources, selector.serviceAccounts = []) :=
  fun _ member => ⟨exists_compilePolicy_of_mem member, fun _ made => admitsEveryone_iff made⟩

/-- The access policy that lists an account is not widened. -/
theorem admits_everyone_iff_unlisted_web :
    ∃ policy ∈ (compileDestination twoDomains {} reviews).policies,
      compilePolicy twoDomains reviews listing = some policy ∧ ¬ policy.AdmitsEveryone := by
  have resolved : principals twoDomains (requestedAccounts listing.spec) ≠ [] := by decide
  obtain ⟨policy, made⟩ : ∃ policy, compilePolicy twoDomains reviews listing = some policy :=
    exists_compilePolicy_iff.2 (.inr resolved)
  have member : policy ∈ (compileDestination twoDomains {} reviews).policies :=
    mem_compileDestination_policies (by decide) List.mem_cons_self made
  obtain ⟨_, exactly⟩ := admits_everyone_iff_unlisted twoDomains {} reviews policy member
  exact ⟨policy, member, made, (exactly listing made).not.2 (by decide)⟩

/-- The access policy with an empty source selector becomes a policy that admits everyone. -/
theorem admits_everyone_despite_selector :
    ∃ policy ∈ (compileDestination twoDomains {} reviews).policies,
      compilePolicy twoDomains reviews unlisting = some policy ∧ policy.AdmitsEveryone ∧
        unlisting.spec.sources ≠ [] := by
  obtain ⟨policy, made⟩ : ∃ policy, compilePolicy twoDomains reviews unlisting = some policy :=
    exists_compilePolicy_iff.2 (.inl rfl)
  have member : policy ∈ (compileDestination twoDomains {} reviews).policies :=
    mem_compileDestination_policies (by decide) (List.mem_cons_of_mem _ List.mem_cons_self) made
  exact ⟨policy, member, made, (admitsEveryone_iff made).2 (by decide), by decide⟩

end Reviews

end Access

end MeshControl
