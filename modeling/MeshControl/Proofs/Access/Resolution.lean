import MeshControl.Access.ServiceAccess
import MeshControl.Proofs.SortedMap

/-!
# The mesh of a destination

`ResolvesTo` says, without the compiler, to which mesh a destination belongs: to the first one that has the name and
namespace which discovery has given, or else to the first one with the key to which the first attributed workload
behind the service is attributed. The compiler finds this mesh and no other (`ownerOf_eq_mesh_iff_resolvesTo`), and a
mesh is missing where discovery has named one that the input does not have (`ownerOf_eq_missing_iff`).
-/

namespace MeshControl

/-- An object is the one of a reference if both its parts agree. -/
theorem Metadata.ref_eq_iff {metadata : Metadata} {ref : ObjectRef} :
    metadata.ref = ref ↔ metadata.name = ref.name ∧ metadata.ns = ref.ns := by
  cases ref
  simp [Metadata.ref]

namespace Access

open Injection (Membership)

variable {input : Input} {membership : Membership} {destination : Destination} {service : Service}
  {workload : Workload} {mesh : Mesh}

/-- No mesh of an input has the name and the namespace of a reference. -/
def LacksMesh (input : Input) (ref : ObjectRef) : Prop := ∀ mesh ∈ input.meshes, mesh.ref ≠ ref

instance (input : Input) (ref : ObjectRef) : Decidable (LacksMesh input ref) :=
  inferInstanceAs (Decidable (∀ mesh ∈ input.meshes, mesh.ref ≠ ref))

/-- A mesh is the first one of an input with some property. -/
def IsFirstMesh (input : Input) (holds : Mesh → Prop) (mesh : Mesh) : Prop :=
  holds mesh ∧ ∃ earlier later, input.meshes = earlier ++ mesh :: later ∧ ∀ other ∈ earlier, ¬ holds other

/-- A workload runs behind a service: on its cluster, in its namespace and with all labels of its selector. -/
structure RunsBehind (service : Service) (workload : Workload) : Prop where
  cluster : workload.cluster = service.ref.cluster
  ns : workload.ns = service.ref.ns
  labels : ∀ label value, service.selector.get? label = some value → workload.labels.get? label = some value

/-- The first attributed workload behind a service is attributed to a mesh with a key. Workloads behind the service
that are not attributed are passed over. -/
def FirstAttributed (input : Input) (membership : Membership) (service : Service) (key : String) : Prop :=
  ∃ earlier workload later, input.workloads = earlier ++ workload :: later ∧
    RunsBehind service workload ∧ membership.meshFor? workload = some key ∧
      ∀ other ∈ earlier, RunsBehind service other → membership.meshFor? other = none

/-- The mesh to which a destination belongs. -/
inductive ResolvesTo (input : Input) (membership : Membership) (destination : Destination) (mesh : Mesh) : Prop
  /-- The first mesh with the name and the namespace that discovery has given. -/
  | named {ref : ObjectRef} (given : destination.spec.mesh = some ref)
      (first : IsFirstMesh input (·.ref = ref) mesh)
  /-- The first mesh with the key to which the first attributed workload behind the service is attributed. A service
  without selector has no workloads. -/
  | inferred {key : String} (undiscovered : destination.spec.mesh = none)
      (selective : destination.service.selector ≠ ∅)
      (attributed : FirstAttributed input membership destination.service key)
      (first : IsFirstMesh input (·.key = key) mesh)

/-- The mesh to which a destination belongs is an Istio mesh. -/
def InIstioMesh (input : Input) (membership : Membership) (destination : Destination) : Prop :=
  ∃ mesh, ResolvesTo input membership destination mesh ∧ mesh.istio ≠ none

theorem findMesh?_eq_none_iff {ref : ObjectRef} : input.findMesh? ref = none ↔ LacksMesh input ref := by
  simp [Input.findMesh?, LacksMesh, Mesh.ref, Metadata.ref_eq_iff]

/-- A search through the meshes of an input finds the first one with the wanted property. -/
theorem find?_meshes_eq_some_iff {holds : Mesh → Prop} [DecidablePred holds] :
    (input.meshes.find? fun mesh => holds mesh) = some mesh ↔ IsFirstMesh input holds mesh := by
  simp [List.find?_eq_some_iff_append, IsFirstMesh]

theorem findMesh?_eq_some_iff {ref : ObjectRef} :
    input.findMesh? ref = some mesh ↔ IsFirstMesh input (·.ref = ref) mesh := by
  rw [← find?_meshes_eq_some_iff]
  simp only [Input.findMesh?, Mesh.ref, Metadata.ref_eq_iff, Bool.decide_and]

theorem runsBehind_iff : runsBehind service workload = true ↔ RunsBehind service workload := by
  simp only [runsBehind, Bool.and_eq_true, decide_eq_true_eq, List.all_eq_true, Prod.forall,
    SortedMap.mem_entries_iff]
  exact ⟨fun ⟨⟨cluster, ns⟩, labels⟩ => ⟨cluster, ns, labels⟩,
    fun behind => ⟨⟨behind.cluster, behind.ns⟩, behind.labels⟩⟩

/-- The first answer about the members of a list with some property. -/
theorem findSome?_filter_eq_some_iff {α β : Type} {holds : α → Bool} {give : α → Option β} {list : List α}
    {found : β} :
    (list.filter holds).findSome? give = some found ↔
      ∃ earlier member later, list = earlier ++ member :: later ∧ holds member = true ∧
        give member = some found ∧ ∀ other ∈ earlier, holds other = true → give other = none := by
  rw [← List.head?_filterMap, List.filterMap_filter, List.head?_filterMap, List.findSome?_eq_some_iff]
  simp only [Option.ite_none_right_eq_some, ite_eq_right_iff, and_assoc]

/-- The search through the workloads behind a service gives the key of the first attributed one. -/
theorem findSome?_meshFor?_eq_some_iff {key : String} :
    (input.workloads.filter (runsBehind service)).findSome? membership.meshFor? = some key ↔
      FirstAttributed input membership service key := by
  simp only [findSome?_filter_eq_some_iff, runsBehind_iff, FirstAttributed]

/-- A destination belongs to the mesh to which it resolves. -/
theorem ownerOf_eq_mesh_iff_resolvesTo :
    ownerOf input membership destination = .mesh mesh ↔ ResolvesTo input membership destination mesh := by
  unfold ownerOf
  constructor
  · intro owned
    split at owned
    · next ref given =>
      split at owned
      · next found =>
        obtain rfl := Owner.mesh.inj owned
        exact .named given (findMesh?_eq_some_iff.1 found)
      · cases owned
    · next undiscovered =>
      split at owned
      · cases owned
      · next selective =>
        split at owned
        · cases owned
        · next key told =>
          split at owned
          · next found =>
            obtain rfl := Owner.mesh.inj owned
            exact .inferred undiscovered (SortedMap.isEmpty_iff.not.1 selective)
              (findSome?_meshFor?_eq_some_iff.1 told) (find?_meshes_eq_some_iff.1 found)
          · cases owned
  · rintro (⟨given, first⟩ | ⟨undiscovered, selective, attributed, first⟩)
    · simp only [given, findMesh?_eq_some_iff.2 first]
    · simp only [undiscovered, SortedMap.isEmpty_iff.not.2 selective, findSome?_meshFor?_eq_some_iff.2 attributed,
        find?_meshes_eq_some_iff.2 first]
      rfl

/-- The mesh of a destination is missing if discovery has named one that does not exist. -/
theorem ownerOf_eq_missing_iff {ref : ObjectRef} :
    ownerOf input membership destination = .missing ref ↔
      destination.spec.mesh.filter (LacksMesh input ·) = some ref := by
  unfold ownerOf
  cases given : destination.spec.mesh with
  | none =>
    -- What is inferred from workloads may be unknown, but it is never missing.
    dsimp only
    rw [Option.filter_none]
    split
    · simp
    · split
      · simp
      · split <;> simp
  | some named =>
    dsimp only
    rw [Option.filter_some]
    cases found : input.findMesh? named with
    | none => simp [findMesh?_eq_none_iff.1 found]
    | some mesh =>
      have present : ¬ LacksMesh input named := by simp [← findMesh?_eq_none_iff, found]
      simp [present]

/-- Where the mesh of a destination is not missing, no mesh is reported as missing. -/
theorem filter_lacksMesh_eq_none {owner : Owner} (owned : ownerOf input membership destination = owner)
    (present : ∀ ref, owner ≠ .missing ref) : destination.spec.mesh.filter (LacksMesh input ·) = none := by
  rw [Option.eq_none_iff_forall_ne_some]
  intro ref lacks
  exact present ref (owned ▸ ownerOf_eq_missing_iff.2 lacks)

theorem inIstioMesh_iff :
    InIstioMesh input membership destination ↔
      ∃ mesh, ownerOf input membership destination = .mesh mesh ∧ mesh.istio ≠ none := by
  simp only [InIstioMesh, ownerOf_eq_mesh_iff_resolvesTo]

instance (input : Input) (membership : Membership) (destination : Destination) :
    Decidable (InIstioMesh input membership destination) :=
  match owner : ownerOf input membership destination with
  | .mesh mesh => decidable_of_iff (mesh.istio ≠ none) (by simp [inIstioMesh_iff, owner])
  | .missing _ => isFalse (by simp [inIstioMesh_iff, owner])
  | .unknown => isFalse (by simp [inIstioMesh_iff, owner])

end Access

end MeshControl
