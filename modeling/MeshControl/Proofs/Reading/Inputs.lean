import MeshControl.Input
import MeshControl.Proofs.Reading.Records

/-!
# Input snapshots read back

What is written of a mesh, of a destination and of a whole snapshot is read back, in any presentation. The
pod templates of workloads are the exception: they are not written in the form in which they are read, and
come back empty.

The main result is `inputs_read_back`: whatever the order of fields, JSON holds what was written.
-/

namespace MeshControl

open Reading

variable {ν : Type} [Readable ν] (p : Presentation ν)

/-! ## Meshes -/

theorem Installation.read_toJson (installation : Installation) :
    read (p.of installation.toJson) = pure installation := by
  obtain ⟨ns, cluster, version⟩ := installation
  refine p.record (.seq (.seq (.map mk
    (.required ?_ (p.text ns)))
    (.required ?_ (p.text cluster)))
    (.text ?_)) <;> simp

theorem IstioMesh.read_toJson (mesh : IstioMesh) : read (p.of mesh.toJson) = pure mesh := by
  obtain ⟨installation, trustDomain, revision⟩ := mesh
  refine p.record (.seq (.seq (.map mk
    (.required ?_ (installation.read_toJson p)))
    (.present defaultTrustDomain ?_ (p.text trustDomain)))
    (.optional ?_ p.text fun _ => nofun)) <;> simp

theorem AppMesh.read_toJson (mesh : AppMesh) : read (p.of mesh.toJson) = pure mesh := by
  obtain ⟨awsName, region, clusters⟩ := mesh
  refine p.record (.seq (.seq (.map mk
    (.required ?_ (p.text awsName)))
    (.required ?_ (p.text region)))
    (.present [] ?_ (p.texts clusters))) <;> simp

namespace Provider

theorem readInstalled_installedToJson (installation : Installation) :
    readInstalled (p.of (installedToJson installation)) = pure installation := by
  refine p.record (.required ?_ (installation.read_toJson p))
  simp

theorem read_toJson (provider : Provider) : read (p.of provider.toJson) = pure provider := by
  cases provider with
  | istio mesh => exact p.keyedOf rfl (by rw [mesh.read_toJson p, map_pure])
  | linkerd installation => exact p.keyedOf rfl (by rw [readInstalled_installedToJson p, map_pure])
  | osm installation => exact p.keyedOf rfl (by rw [readInstalled_installedToJson p, map_pure])
  | consulConnect installation => exact p.keyedOf rfl (by rw [readInstalled_installedToJson p, map_pure])
  | appMesh mesh => exact p.keyedOf rfl (by rw [mesh.read_toJson p, map_pure])

end Provider

theorem GlobalAccess.read_toJson (access : GlobalAccess) : read (p.of access.toJson) = pure access :=
  p.constantOf (by cases access <;> rfl)

theorem VirtualMeshSpec.read_toJson (spec : VirtualMeshSpec) : read (p.of spec.toJson) = pure spec := by
  obtain ⟨meshes, globalAccess⟩ := spec
  refine p.record (.seq (.map mk
    (.present [] ?_ (p.items (ObjectRef.read_toJson p) meshes)))
    (.present .meshDefault ?_ (globalAccess.read_toJson p))) <;> simp

theorem AppliedVirtualMesh.read_toJson (applied : AppliedVirtualMesh) :
    read (p.of applied.toJson) = pure applied := by
  obtain ⟨ref, spec⟩ := applied
  refine p.record (.seq (.map mk
    (.required ?_ (ref.read_toJson p)))
    (.present {} ?_ (spec.read_toJson p))) <;> simp

namespace MeshStatus

theorem readGateway_gatewayToJson (destination : ObjectRef) :
    readGateway (p.of (gatewayToJson destination)) = pure destination := by
  refine p.record (.required ?_ (destination.read_toJson p))
  simp

theorem read_toJson (status : MeshStatus) : read (p.of status.toJson) = pure status := by
  obtain ⟨virtualMesh, ingressGateways⟩ := status
  refine p.record (.seq (.map mk
    (.optional ?_ (AppliedVirtualMesh.read_toJson p) fun _ => nofun))
    (.items ?_ (readGateway_gatewayToJson p))) <;> simp

end MeshStatus

theorem Mesh.read_toJson (mesh : Mesh) : read (p.of mesh.toJson) = pure mesh := by
  obtain ⟨metadata, provider, status⟩ := mesh
  refine p.record (.seq (.seq (.map mk
    (.required ?_ (metadata.read_toJson p)))
    (.required ?_ (provider.read_toJson p)))
    (.present {} ?_ (status.read_toJson p))) <;> simp

/-! ## Destinations -/

theorem word16_ofWord16 (number : UInt16) : word16 (p.of (.ofWord16 number)) = pure number := by
  rw [word16, Json.ofWord16, p.natural, pure_bind, if_pos number.toNat_lt, UInt16.ofNat_toNat]

theorem ServicePort.read_toJson (port : ServicePort) : read (p.of port.toJson) = pure port := by
  obtain ⟨number, name, protocol⟩ := port
  refine p.record (.seq (.seq (.map mk
    (.required ?_ (word16_ofWord16 p number)))
    (.present "" ?_ (p.text name)))
    (.present "" ?_ (p.text protocol))) <;> simp

theorem Service.read_toJson (service : Service) : read (p.of service.toJson) = pure service := by
  obtain ⟨ref, selector, ports⟩ := service
  refine p.record (.seq (.seq (.map mk
    (.required ?_ (ref.read_toJson p)))
    (.present ∅ ?_ (p.labelMap selector)))
    (.items ?_ (ServicePort.read_toJson p))) <;> simp

theorem DestinationSpec.read_toJson (spec : DestinationSpec) : read (p.of spec.toJson) = pure spec := by
  obtain ⟨service, mesh⟩ := spec
  refine p.record (.seq (.map mk
    (.required ?_ (service.read_toJson p)))
    (.optional ?_ (ObjectRef.read_toJson p) fun _ => nofun)) <;> simp

theorem IdentitySelector.read_toJson (selector : IdentitySelector) :
    read (p.of selector.toJson) = pure selector := by
  obtain ⟨serviceAccounts⟩ := selector
  refine p.record (.map mk (.present [] ?_ (p.items (ClusterRef.read_toJson p) serviceAccounts)))
  simp

theorem AccessPolicySpec.read_toJson (spec : AccessPolicySpec) : read (p.of spec.toJson) = pure spec := by
  obtain ⟨sources, ports, methods, paths⟩ := spec
  refine p.record (.seq (.seq (.seq (.map mk
    (.present [] ?_ (p.items (IdentitySelector.read_toJson p) sources)))
    (.present [] ?_ (p.items (word16_ofWord16 p) ports)))
    (.present [] ?_ (p.texts methods)))
    (.present [] ?_ (p.texts paths))) <;> simp

theorem AppliedAccessPolicy.read_toJson (applied : AppliedAccessPolicy) :
    read (p.of applied.toJson) = pure applied := by
  obtain ⟨ref, spec⟩ := applied
  refine p.record (.seq (.map mk
    (.required ?_ (ref.read_toJson p)))
    (.present {} ?_ (spec.read_toJson p))) <;> simp

theorem DestinationStatus.read_toJson (status : DestinationStatus) :
    read (p.of status.toJson) = pure status := by
  obtain ⟨accessPolicies⟩ := status
  refine p.record (.map mk (.items ?_ (AppliedAccessPolicy.read_toJson p)))
  simp

theorem Destination.read_toJson (destination : Destination) :
    read (p.of destination.toJson) = pure destination := by
  obtain ⟨metadata, spec, status⟩ := destination
  refine p.record (.seq (.seq (.map mk
    (.required ?_ (metadata.read_toJson p)))
    (.required ?_ (spec.read_toJson p)))
    (.present {} ?_ (status.read_toJson p))) <;> simp

/-! ## Workloads and snapshots -/

namespace Workload

/-- The workload apart from its pod template. -/
def withoutTemplate (workload : Workload) : Workload := { workload with podTemplate := {} }

theorem read_toJson (workload : Workload) : read (p.of workload.toJson) = pure workload.withoutTemplate := by
  obtain ⟨metadata, template⟩ := workload
  have template : PodTemplate.read (p.of template.toJson) = pure {} := by
    refine p.namedRecord (.seq (.map _ (.lenient ?_)) (.lenient ?_)) <;> simp
  refine p.record (.seq (.map mk
    (.required ?_ (metadata.read_toJson p)))
    (.present {} ?_ template)) <;> simp

end Workload

namespace Input

/-- The snapshot apart from the pod templates of its workloads. -/
def withoutTemplates (input : Input) : Input :=
  { input with workloads := input.workloads.map Workload.withoutTemplate }

theorem read_toJson (input : Input) : read (p.of input.toJson) = pure input.withoutTemplates := by
  obtain ⟨name, meshes, destinations, workloads, secrets, clusters, namespaces, configMaps⟩ := input
  refine p.record (.seq (.seq (.seq (.seq (.seq (.seq (.seq (.map mk
    (.present "" ?_ (p.text name)))
    (.present [] ?_ (p.items (Mesh.read_toJson p) meshes)))
    (.present [] ?_ (p.items (Destination.read_toJson p) destinations)))
    (.present [] ?_ (p.listOf (Workload.read_toJson p) workloads)))
    (.present [] ?_ (p.items (Secret.read_toJson p) secrets)))
    (.present [] ?_ (p.items (KubernetesCluster.read_toJson p) clusters)))
    (.present [] ?_ (p.items (NamespaceRecord.read_toJson p) namespaces)))
    (.present [] ?_ (p.items (ConfigMapRecord.read_toJson p) configMaps))) <;> simp

end Input

/-- JSON holds what was written of an input, in whatever order the fields of objects stand: each mesh,
destination, secret, cluster, namespace and config map, and each snapshot of them. Only the pod templates
of workloads are not looked at. -/
theorem inputs_read_back (order : Json.FieldOrder) :
    (∀ mesh : Mesh, Json.decode Mesh.read (order.arranged mesh.toJson) = .ok mesh) ∧
    (∀ destination : Destination,
      Json.decode Destination.read (order.arranged destination.toJson) = .ok destination) ∧
    (∀ secret : Secret, Json.decode Secret.read (order.arranged secret.toJson) = .ok secret) ∧
    (∀ cluster : KubernetesCluster,
      Json.decode KubernetesCluster.read (order.arranged cluster.toJson) = .ok cluster) ∧
    (∀ record : NamespaceRecord,
      Json.decode NamespaceRecord.read (order.arranged record.toJson) = .ok record) ∧
    (∀ record : ConfigMapRecord,
      Json.decode ConfigMapRecord.read (order.arranged record.toJson) = .ok record) ∧
    ∀ input : Input, (Json.decode Input.read (order.arranged input.toJson)).map Input.withoutTemplates =
      .ok input.withoutTemplates := by
  refine ⟨fun mesh => Json.decode_of_eq_pure (mesh.read_toJson order.plain),
    fun destination => Json.decode_of_eq_pure (destination.read_toJson order.plain),
    fun secret => Json.decode_of_eq_pure (secret.read_toJson order.plain),
    fun cluster => Json.decode_of_eq_pure (cluster.read_toJson order.plain),
    fun record => Json.decode_of_eq_pure (record.read_toJson order.plain),
    fun record => Json.decode_of_eq_pure (record.read_toJson order.plain), fun input => ?_⟩
  have read : Json.decode Input.read (order.arranged input.toJson) = .ok input.withoutTemplates :=
    Json.decode_of_eq_pure (input.read_toJson order.plain)
  have again : input.withoutTemplates.withoutTemplates = input.withoutTemplates := by
    simp [Input.withoutTemplates, Workload.withoutTemplate]
  rw [read, Except.map, again]

end MeshControl
