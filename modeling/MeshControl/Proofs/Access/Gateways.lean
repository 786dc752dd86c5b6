import Mathlib.Data.Finset.Card
import MeshControl.Proofs.Access.Findings

/-!
# What a mesh writes

Under a virtual mesh with enforced access a mesh writes the policy that denies everything, and one policy for each
of its gateways that names a destination. `MeshResult.written` holds the identities of these objects; everything
else of a snapshot stays as it was. With names as Kubernetes admits them no two gateways write at one identity
(`SeparateGateways`), so that each existing gateway has a policy of its own, for the workloads of its own
destination (`access_written_once_per_gateway`).
-/

namespace MeshControl

namespace Access

variable {input : Input} {mesh : Mesh} {istio : IstioMesh} {applied : AppliedVirtualMesh}

/-- The identities at which the objects for workload clusters are added. -/
def MeshResult.written (result : MeshResult) : Finset ObjectId := (result.remote.map OutputObject.id).toFinset

/-- The identity of an authorization policy next to a control plane. -/
def besideControlPlane (istio : IstioMesh) (name : String) : ObjectId :=
  ⟨.authorizationPolicy, istio.installation.cluster, istio.installation.ns, name⟩

/-- The first destination with the name and the namespace of a reference. -/
def IsFirstNamed (input : Input) (ref : ObjectRef) (destination : Destination) : Prop :=
  destination.ref = ref ∧ ∃ earlier later, input.destinations = earlier ++ destination :: later ∧
    ∀ other ∈ earlier, other.ref ≠ ref

/-- The gateways of a mesh that name a destination, each once. -/
def openGateways (input : Input) (mesh : Mesh) : Finset ObjectRef :=
  (mesh.status.ingressGateways.filter fun gateway => ¬ LacksDestination input gateway).toFinset

/-- The names of some gateways lead to different names of policies: they are as Kubernetes admits them, and no hash
stands for two long keys. -/
structure SeparateGateways (gateways : List ObjectRef) : Prop where
  admitted : ∀ gateway ∈ gateways, AdmittedGateway gateway
  hashes : ∀ gateway ∈ gateways, ∀ other ∈ gateways, Naming.Exceeds gatewayStem gateway.key →
    Naming.Exceeds gatewayStem other.key → Naming.hash gateway.key = Naming.hash other.key →
      gateway.key = other.key

theorem mem_openGateways {gateway : ObjectRef} :
    gateway ∈ openGateways input mesh ↔
      gateway ∈ mesh.status.ingressGateways ∧ ¬ LacksDestination input gateway := by
  simp [openGateways]

theorem besideControlPlane_inj {name other : String} :
    besideControlPlane istio name = besideControlPlane istio other ↔ name = other := by
  simp [besideControlPlane]

theorem globalPolicy_id (istio : IstioMesh) (parent : ObjectRef) :
    (OutputObject.authorizationPolicy (globalPolicy istio.installation parent)).id =
      besideControlPlane istio globalName :=
  meshPolicy_id ..

theorem gatewayPolicy_id (istio : IstioMesh) (parent gateway : ObjectRef) (destination : Destination) :
    (OutputObject.authorizationPolicy (gatewayPolicy istio.installation parent gateway destination)).id =
      besideControlPlane istio (gatewayName gateway) :=
  meshPolicy_id ..

theorem findDestination?_eq_some_iff {ref : ObjectRef} {destination : Destination} :
    input.findDestination? ref = some destination ↔ IsFirstNamed input ref destination := by
  have named (destination : Destination) :
      (destination.metadata.name = ref.name && destination.metadata.ns = ref.ns) = true ↔
        destination.ref = ref := by
    simp [Destination.ref, Metadata.ref_eq_iff]
  rw [Input.findDestination?, List.find?_eq_some_iff_append]
  simp only [named, Bool.not_eq_true', ← Bool.not_eq_true, IsFirstNamed, ne_eq]

/-- A gateway with the policy of another one is this gateway. -/
theorem SeparateGateways.eq_of_name_eq {gateways : List ObjectRef} (separate : SeparateGateways gateways)
    {gateway other : ObjectRef} (listed : gateway ∈ gateways) (otherListed : other ∈ gateways)
    (same : gatewayName gateway = gatewayName other) : gateway = other :=
  eq_of_gatewayName_eq (separate.admitted gateway listed) (separate.admitted other otherListed)
    (separate.hashes gateway listed other otherListed) same

/-- What a mesh writes into a snapshot under enforced access: the policy that denies everything and the policies
for its gateways with a destination, all of them next to its control plane. -/
structure AccessWritten (input : Input) (mesh : Mesh) (istio : IstioMesh) (before after : OutputSnapshot)
    (written : Finset ObjectId) : Prop where
  unchanged : ∀ id, id ∉ written → after.get? id = before.get? id
  identities : ∀ id, id ∈ written ↔ id = besideControlPlane istio "global-access-control" ∨
    ∃ gateway ∈ mesh.status.ingressGateways, ¬ LacksDestination input gateway ∧
      id = besideControlPlane istio (Naming.bounded "allow-ingress-gateway" gateway.key)
  policies : ∀ id ∈ written, ∃ policy, after.get? id = some (.authorizationPolicy policy) ∧
    (OutputObject.authorizationPolicy policy).id = id
  deniesAll : ∃ policy, after.get? (besideControlPlane istio "global-access-control") =
    some (.authorizationPolicy policy) ∧ policy.spec = {}

/-- Each gateway with a destination has a policy of its own, which allows everything at the workloads of the first
destination that it names. -/
structure OpenedOneByOne (input : Input) (mesh : Mesh) (istio : IstioMesh) (after : OutputSnapshot)
    (written : Finset ObjectId) : Prop where
  count : written.card = 1 + (openGateways input mesh).card
  opens : ∀ gateway ∈ mesh.status.ingressGateways, ∀ destination, IsFirstNamed input gateway destination →
    ∃ policy, after.get? (besideControlPlane istio (Naming.bounded "allow-ingress-gateway" gateway.key)) =
        some (.authorizationPolicy policy) ∧
      policy.spec = { selector := some destination.service.selector, action := some .allow, rules := [{}] }

section Enabled

variable (isIstio : mesh.istio = some istio) (isEnabled : applied.spec.globalAccess = .enabled)
include isIstio isEnabled

/-- A mesh writes at the identity of the policy that denies everything and at those of its open gateways. -/
theorem written_compileVirtualMesh (input : Input) :
    (compileVirtualMesh input mesh applied).written =
      insert (besideControlPlane istio globalName)
        ((openGateways input mesh).image fun gateway => besideControlPlane istio (gatewayName gateway)) := by
  ext id
  simp only [MeshResult.written, List.mem_toFinset, List.mem_map,
    mem_compileVirtualMesh_remote_iff isIstio isEnabled, Finset.mem_insert, Finset.mem_image, mem_openGateways,
    ← findDestination?_eq_none_iff, ← ne_eq, Option.ne_none_iff_exists']
  constructor
  · rintro ⟨_, rfl | ⟨gateway, listed, destination, found, rfl⟩, rfl⟩
    · exact .inl (globalPolicy_id istio applied.ref)
    · exact .inr ⟨gateway, ⟨listed, destination, found⟩, (gatewayPolicy_id ..).symm⟩
  · rintro (rfl | ⟨gateway, ⟨listed, destination, found⟩, rfl⟩)
    · exact ⟨_, .inl rfl, globalPolicy_id istio applied.ref⟩
    · exact ⟨_, .inr ⟨gateway, listed, destination, found, rfl⟩, gatewayPolicy_id ..⟩

/-- At a written identity a snapshot holds one of the objects that are made. -/
theorem exists_held_of_mem_written (snapshot : OutputSnapshot) {id : ObjectId}
    (member : id ∈ (compileVirtualMesh input mesh applied).written) :
    ∃ policy, OutputObject.authorizationPolicy policy ∈ (compileVirtualMesh input mesh applied).remote ∧
      (OutputObject.authorizationPolicy policy).id = id ∧
      (snapshot.addAll (compileVirtualMesh input mesh applied).remote).get? id =
        some (.authorizationPolicy policy) := by
  obtain ⟨object, made, rfl⟩ := List.mem_map.1 (List.mem_toFinset.1 member)
  -- Of several objects made at the identity the last one is held.
  obtain ⟨latest, inside, identity, held⟩ := snapshot.get?_addAll_of_mem made
  obtain rfl | ⟨gateway, _, destination, _, rfl⟩ :=
    (mem_compileVirtualMesh_remote_iff isIstio isEnabled).1 inside
  · exact ⟨_, inside, identity, held⟩
  · exact ⟨_, inside, identity, held⟩

/-- Where names are separate only a gateway itself writes at its identity, for the destination that it names. -/
theorem eq_gatewayPolicy_of_id (separate : SeparateGateways mesh.status.ingressGateways)
    {gateway : ObjectRef} (listed : gateway ∈ mesh.status.ingressGateways) {destination : Destination}
    (found : input.findDestination? gateway = some destination) {policy : AuthorizationPolicy}
    (made : .authorizationPolicy policy ∈ (compileVirtualMesh input mesh applied).remote)
    (identity : (OutputObject.authorizationPolicy policy).id = besideControlPlane istio (gatewayName gateway)) :
    policy = gatewayPolicy istio.installation applied.ref gateway destination := by
  rcases (mem_compileVirtualMesh_remote_iff isIstio isEnabled).1 made with
    global | ⟨other, otherListed, otherDestination, otherFound, opened⟩
  · rw [global, globalPolicy_id, besideControlPlane_inj] at identity
    exact absurd identity.symm (gatewayName_ne_globalName gateway)
  · rw [opened, gatewayPolicy_id, besideControlPlane_inj] at identity
    obtain rfl := separate.eq_of_name_eq otherListed listed identity
    rw [found, Option.some.injEq] at otherFound
    rw [otherFound]
    exact OutputObject.authorizationPolicy.inj opened

/-- What is made for a mesh under enforced access is written as it should be, into any snapshot. -/
theorem accessWritten (input : Input) (snapshot : OutputSnapshot) :
    AccessWritten input mesh istio snapshot
      (snapshot.addAll (compileVirtualMesh input mesh applied).remote)
      (compileVirtualMesh input mesh applied).written where
  unchanged id other := by
    refine snapshot.get?_addAll_of_ne fun object made same => other ?_
    exact List.mem_toFinset.2 (List.mem_map.2 ⟨object, made, same⟩)
  identities id := by
    rw [written_compileVirtualMesh isIstio isEnabled, Finset.mem_insert, Finset.mem_image]
    simp only [mem_openGateways]
    refine or_congr Iff.rfl ⟨?_, ?_⟩
    · rintro ⟨gateway, ⟨listed, opened⟩, rfl⟩
      exact ⟨gateway, listed, opened, rfl⟩
    · rintro ⟨gateway, listed, opened, rfl⟩
      exact ⟨gateway, ⟨listed, opened⟩, rfl⟩
  policies id member := by
    obtain ⟨policy, _, identity, held⟩ := exists_held_of_mem_written isIstio isEnabled snapshot member
    exact ⟨policy, held, identity⟩
  deniesAll := by
    have member : besideControlPlane istio globalName ∈ (compileVirtualMesh input mesh applied).written := by
      rw [written_compileVirtualMesh isIstio isEnabled]
      exact Finset.mem_insert_self ..
    obtain ⟨policy, made, identity, held⟩ := exists_held_of_mem_written isIstio isEnabled snapshot member
    have global := eq_globalPolicy_of_name isIstio isEnabled made (congrArg ObjectId.name identity)
    exact ⟨policy, held, by rw [OutputObject.authorizationPolicy.inj global]; rfl⟩

/-- Where names are separate each gateway with a destination is opened on its own. -/
theorem openedOneByOne (input : Input) (snapshot : OutputSnapshot)
    (separate : SeparateGateways mesh.status.ingressGateways) :
    OpenedOneByOne input mesh istio (snapshot.addAll (compileVirtualMesh input mesh applied).remote)
      (compileVirtualMesh input mesh applied).written where
  count := by
    rw [written_compileVirtualMesh isIstio isEnabled, Finset.card_insert_of_notMem, Finset.card_image_of_injOn,
      Nat.add_comm]
    · intro gateway member other otherMember same
      rw [Finset.mem_coe, mem_openGateways] at member otherMember
      exact separate.eq_of_name_eq member.1 otherMember.1 (besideControlPlane_inj.1 same)
    · rw [Finset.mem_image]
      rintro ⟨gateway, _, same⟩
      exact gatewayName_ne_globalName gateway (besideControlPlane_inj.1 same)
  opens gateway listed destination first := by
    have found := findDestination?_eq_some_iff.2 first
    have opened : gateway ∈ openGateways input mesh := by
      rw [mem_openGateways, ← findDestination?_eq_none_iff, found]
      exact ⟨listed, nofun⟩
    have member : besideControlPlane istio (gatewayName gateway) ∈
        (compileVirtualMesh input mesh applied).written := by
      rw [written_compileVirtualMesh isIstio isEnabled]
      exact Finset.mem_insert_of_mem (Finset.mem_image_of_mem _ opened)
    obtain ⟨policy, made, identity, held⟩ := exists_held_of_mem_written isIstio isEnabled snapshot member
    refine ⟨policy, held, ?_⟩
    rw [eq_gatewayPolicy_of_id isIstio isEnabled separate listed found made identity]
    rfl

end Enabled

/-- For an Istio mesh under a virtual mesh with enforced access the policy that denies everything is written next
to its control plane, and policies for its gateways with a destination, and nothing else changes. Where the names
of the gateways are separate each of these gateways has a policy of its own, for the workloads of the first
destination that it names, in whatever order and however often the gateways are listed. For other meshes, or
without enforced access, nothing is written or reported. -/
theorem access_written_once_per_gateway (input : Input) (mesh : Mesh) (applied : AppliedVirtualMesh)
    (snapshot : OutputSnapshot) :
    (∀ istio, mesh.istio = some istio → applied.spec.globalAccess = .enabled →
      AccessWritten input mesh istio snapshot (snapshot.addAll (compileVirtualMesh input mesh applied).remote)
          (compileVirtualMesh input mesh applied).written ∧
        (SeparateGateways mesh.status.ingressGateways →
          OpenedOneByOne input mesh istio (snapshot.addAll (compileVirtualMesh input mesh applied).remote)
            (compileVirtualMesh input mesh applied).written)) ∧
    (mesh.istio = none ∨ applied.spec.globalAccess ≠ .enabled →
      snapshot.addAll (compileVirtualMesh input mesh applied).remote = snapshot ∧
        (compileVirtualMesh input mesh applied).reports = []) := by
  refine ⟨fun istio isIstio isEnabled => ⟨accessWritten isIstio isEnabled input snapshot,
    openedOneByOne isIstio isEnabled input snapshot⟩, fun untouched => ?_⟩
  rw [compileVirtualMesh_eq_empty untouched]
  exact ⟨rfl, rfl⟩

section Ingress

private def opening (name app : String) : Destination where
  metadata := { name, ns := "orbit" }
  spec := { service := { ref := ⟨name, "istio-system", "east"⟩, selector := .ofList [("app", app)] } }

private def longName : String := "ingress-gateway-of-the-eastern-part-of-the-region"

/-- Two destinations of one name, and one with a name too long to be read in the name of a policy. -/
private def ingresses : Input where
  destinations := [opening "ingress.east" "gateway", opening longName "long", opening "ingress.east" "shadow"]

private def eastern : IstioMesh where
  installation := { ns := "istio-system", cluster := "east" }

/-- One gateway is listed twice, and one in between names no destination. -/
private def gatewayMesh : Mesh where
  metadata := { name := "istiod", ns := "orbit" }
  provider := .istio eastern
  status :=
    { ingressGateways := [⟨"ingress.east", "orbit"⟩, ⟨"lost", "orbit"⟩, ⟨longName, "orbit"⟩,
        ⟨"ingress.east", "orbit"⟩] }

private def closed : AppliedVirtualMesh where
  ref := ⟨"closed", "orbit"⟩
  spec := { globalAccess := .enabled }

private def before : OutputSnapshot where
  name := "pass"

/-- Four gateways, of which one is lost and one is listed twice, lead to three objects, and the gateway listed
twice is opened for the first of two destinations. -/
theorem access_written_once_per_gateway_east :
    SeparateGateways gatewayMesh.status.ingressGateways ∧
      (compileVirtualMesh ingresses gatewayMesh closed).written.card = 3 ∧
      (∃ policy, (before.addAll (compileVirtualMesh ingresses gatewayMesh closed).remote).get?
          (besideControlPlane eastern "allow-ingress-gateway-ingress.east.orbit") =
            some (.authorizationPolicy policy) ∧
          policy.spec.selector = some (.ofList [("app", "gateway")])) ∧
      before.addAll (compileVirtualMesh ingresses gatewayMesh { closed with spec := {} }).remote = before := by
  have separate : SeparateGateways gatewayMesh.status.ingressGateways :=
    { admitted := by decide
      hashes := by
        have single : ∀ gateway ∈ gatewayMesh.status.ingressGateways,
            Naming.Exceeds gatewayStem gateway.key → gateway = ⟨longName, "orbit"⟩ := by decide
        intro gateway listed other otherListed isLong otherLong _
        rw [single gateway listed isLong, single other otherListed otherLong] }
  obtain ⟨enforced, _⟩ := access_written_once_per_gateway ingresses gatewayMesh closed before
  obtain ⟨_, opened⟩ := enforced eastern rfl rfl
  have listed : (⟨"ingress.east", "orbit"⟩ : ObjectRef) ∈ gatewayMesh.status.ingressGateways := by decide
  have first : IsFirstNamed ingresses ⟨"ingress.east", "orbit"⟩ (opening "ingress.east" "gateway") :=
    findDestination?_eq_some_iff.1 (by decide)
  have readable : Naming.bounded "allow-ingress-gateway" (ObjectRef.key ⟨"ingress.east", "orbit"⟩) =
      "allow-ingress-gateway-ingress.east.orbit" := by decide
  obtain ⟨policy, held, spec⟩ := (opened separate).opens _ listed _ first
  rw [readable] at held
  refine ⟨separate, (opened separate).count.trans (by decide), ⟨policy, held, by rw [spec]; rfl⟩, ?_⟩
  obtain ⟨_, untouched⟩ :=
    access_written_once_per_gateway ingresses gatewayMesh { closed with spec := {} } before
  exact (untouched (.inr (by decide))).1

end Ingress

end Access

end MeshControl
