import MeshControl.Proofs.OutputSnapshot
import MeshControl.Proofs.Text.Bytes

/-!
# One snapshot for each name and list of objects

`OutputSnapshot.Built` says which snapshots can be made: from new ones, by adding objects, by merging and by
changes that keep identities. Each of these keeps every object filed under its own identity (`Built.filed`), and
so everything that a snapshot hands out is read off one list of objects in ascending order
(`OutputSnapshot.Canonical`). A snapshot is determined by its name and this list, whatever the order in which it
was filled.
-/

namespace MeshControl

namespace ObjectId

/-- The order of identities: by type, then by the UTF-8 bytes of cluster, namespace and name. -/
def Precedes (first second : ObjectId) : Prop :=
  compare first.type second.type = .lt ∨ first.type = second.type ∧
    (Text.bytes first.cluster < Text.bytes second.cluster ∨ first.cluster = second.cluster ∧
      (Text.bytes first.ns < Text.bytes second.ns ∨ first.ns = second.ns ∧
        Text.bytes first.name < Text.bytes second.name))

theorem compare_eq_lt_iff {first second : ObjectId} : compare first second = .lt ↔ first.Precedes second := by
  have parts := compare_withType first.key second.key first.type second.type
  rw [withType_key, withType_key] at parts
  simp only [parts, ObjectKey.compare_eq_lex, compareLex, compareOn, Ordering.then_eq_lt,
    Std.LawfulEqCmp.compare_eq_iff_eq, ← Text.bytes_lt_iff]
  rfl

end ObjectId

namespace OutputSnapshot

/-- The snapshots that can be made. A change of the objects in place may look at the objects before, but must
keep type and identity. -/
inductive Built : OutputSnapshot → Prop
  | new (name : String) : Built { name }
  | add {snapshot : OutputSnapshot} (built : Built snapshot) (object : OutputObject) : Built (snapshot.add object)
  | addPolicies {snapshot : OutputSnapshot} (built : Built snapshot) (policies : List AuthorizationPolicy) :
      Built (snapshot.addAll (policies.map .authorizationPolicy))
  | addSecrets {snapshot : OutputSnapshot} (built : Built snapshot) (secrets : List Secret) :
      Built (snapshot.addAll (secrets.map .secret))
  | merge {snapshot other : OutputSnapshot} (built : Built snapshot) (otherBuilt : Built other) :
      Built (snapshot.merge other)
  | visit {snapshot : OutputSnapshot} (built : Built snapshot) {σ : Type}
      (change : σ → OutputObject → OutputObject × σ)
      (keeps : ∀ state object, (change state object).1.id = object.id) (state : σ) :
      Built (snapshot.visitObjects change state).1

variable {snapshot other : OutputSnapshot}

namespace Filed

theorem new (name : String) : Filed { name } := fun _ _ held => nomatch held

theorem add (filed : Filed snapshot) (object : OutputObject) : Filed (snapshot.add object) := by
  intro id found held
  rw [get?_add] at held
  split at held
  · next same => rw [← Option.some.inj held, same]
  · exact filed id found held

theorem addAll (filed : Filed snapshot) (objects : List OutputObject) : Filed (snapshot.addAll objects) := by
  unfold OutputSnapshot.addAll
  induction objects generalizing snapshot with
  | nil => exact filed
  | cons object rest inductionHypothesis => exact inductionHypothesis (filed.add object)

theorem merge (filed : Filed snapshot) (otherFiled : Filed other) : Filed (snapshot.merge other) := by
  intro id found held
  rw [get?_merge, Option.or_eq_some_iff] at held
  rcases held with replaced | ⟨_, kept⟩
  · exact otherFiled id found replaced
  · exact filed id found kept

theorem visit (filed : Filed snapshot) {σ : Type} {change : σ → OutputObject → OutputObject × σ}
    (keeps : ∀ state object, (change state object).1.id = object.id) (state : σ) :
    Filed (snapshot.visitObjects change state).1 := by
  intro id found held
  obtain ⟨reached, object, before, rfl⟩ := ObjectMap.exists_of_get?_visit held
  rw [keeps, filed id object before]

end Filed

/-- Whatever makes a snapshot keeps all objects at their own identities. -/
theorem Built.filed (built : Built snapshot) : Filed snapshot := by
  induction built with
  | new name => exact Filed.new name
  | add _ object inductionHypothesis => exact inductionHypothesis.add object
  | addPolicies _ policies inductionHypothesis => exact inductionHypothesis.addAll _
  | addSecrets _ secrets inductionHypothesis => exact inductionHypothesis.addAll _
  | merge _ _ inductionHypothesis otherHypothesis => exact inductionHypothesis.merge otherHypothesis
  | visit _ change keeps state inductionHypothesis => exact inductionHypothesis.visit keeps state

namespace Filed

variable (filed : Filed snapshot)
include filed

/-- The objects stand in strictly ascending order of their identities. -/
theorem ascending_objects : snapshot.objects.Pairwise fun first second => first.id.Precedes second.id := by
  have keys : snapshot.byId.keys.Pairwise fun first second => compare first second = .lt :=
    List.pairwise_map.2 snapshot.byId.ascending_entries
  rw [← filed.map_id_objects, List.pairwise_map] at keys
  exact keys.imp ObjectId.compare_eq_lt_iff.1

/-- An object in a group has the type of the group and stands there under its own key. -/
theorem of_mem_group {type : ResourceType} {group : SortedMap ObjectKey OutputObject} {key : ObjectKey}
    {object : OutputObject} (inside : (type, group) ∈ snapshot.byId.groups.entries)
    (entry : (key, object) ∈ group.entries) : object.type = type ∧ object.id.key = key := by
  have held : snapshot.get? (key.withType type) = some object :=
    Option.bind_eq_some_iff.2 ⟨group, SortedMap.mem_entries_iff.1 inside, SortedMap.mem_entries_iff.1 entry⟩
  have identity := filed _ _ held
  exact ⟨congrArg ObjectId.type identity, congrArg ObjectId.key identity⟩

/-- The objects of a type are those of all objects that have the type. -/
theorem objectsOf_eq (type : ResourceType) :
    snapshot.objectsOf type = snapshot.objects.filter fun object => object.type = type := by
  have sorted (group : ResourceType × SortedMap ObjectKey OutputObject)
      (inside : group ∈ snapshot.byId.groups.entries) :
      (group.2.values.filter fun object => object.type = type) = if group.1 = type then group.2.values else [] := by
    have own : ∀ object ∈ group.2.values, object.type = group.1 := by
      intro object member
      obtain ⟨entry, among, rfl⟩ := List.mem_map.1 member
      exact (filed.of_mem_group inside among).1
    split
    · next same => exact List.filter_eq_self.2 fun object member => by simp [own object member, same]
    · next other => exact List.filter_eq_nil_iff.2 fun object member => by simp [own object member, other]
  have groups : snapshot.objects = snapshot.byId.groups.entries.flatMap fun group => group.2.values :=
    List.flatMap_map ..
  rw [groups, List.filter_flatMap, List.flatMap_congr sorted,
    SortedMap.flatMap_ite_eq snapshot.byId.groups.ascending]
  unfold objectsOf ObjectGroups.group SortedMap.get?
  cases SortedMap.lookup type snapshot.byId.groups.entries <;> rfl

/-- An object is found exactly if it is there and has the identity. -/
theorem get?_eq_some_iff {id : ObjectId} {object : OutputObject} :
    snapshot.get? id = some object ↔ object ∈ snapshot.objects ∧ object.id = id := by
  rw [filed.mem_objects_iff]
  constructor
  · intro held
    have identity := filed id object held
    exact ⟨identity.symm ▸ held, identity⟩
  · rintro ⟨held, rfl⟩
    exact held

end Filed

/-- The policies of a snapshot are its objects of that type. -/
theorem map_authorizationPolicies (filed : Filed snapshot) :
    snapshot.authorizationPolicies.map .authorizationPolicy =
      snapshot.objects.filter fun object => object.type = .authorizationPolicy := by
  rw [← filed.objectsOf_eq]
  have typed : ∀ object ∈ snapshot.objectsOf .authorizationPolicy, object.type = .authorizationPolicy := by
    intro object member
    rw [filed.objectsOf_eq] at member
    simpa using (List.mem_filter.1 member).2
  unfold authorizationPolicies
  rw [List.map_filterMap]
  refine (List.filterMap_congr fun object member => ?_).trans List.filterMap_some
  cases object with
  | authorizationPolicy policy => rfl
  | secret secret => cases typed _ member

/-- Objects that are there are filed, and handed out, in one way. -/
structure Canonical (snapshot : OutputSnapshot) : Prop where
  /-- Each object is held in the group of its type under its own cluster, namespace and name, and no group is
  empty. -/
  filed : ∀ type group, (type, group) ∈ snapshot.byId.groups.entries → group.entries ≠ [] ∧
    ∀ key object, (key, object) ∈ group.entries → object.type = type ∧
      (⟨object.metadata.cluster, object.metadata.ns, object.metadata.name⟩ : ObjectKey) = key
  /-- The list of objects has what is held. -/
  held : ∀ object, object ∈ snapshot.objects ↔ ∃ type group key,
    (type, group) ∈ snapshot.byId.groups.entries ∧ (key, object) ∈ group.entries
  ascending : snapshot.objects.Pairwise fun first second => first.id.Precedes second.id
  visited : ∀ {σ : Type} (visit : σ → OutputObject → σ) (state : σ),
    snapshot.foldObjects visit state = snapshot.objects.foldl visit state
  counted : snapshot.size = snapshot.objects.length
  ofType : ∀ type, snapshot.objectsOf type = snapshot.objects.filter fun object => object.type = type
  policies : snapshot.authorizationPolicies.map .authorizationPolicy =
    snapshot.objects.filter fun object => object.type = .authorizationPolicy
  found : ∀ id object, snapshot.get? id = some object ↔ object ∈ snapshot.objects ∧ object.id = id

theorem Filed.canonical (filed : Filed snapshot) : Canonical snapshot where
  filed type group inside :=
    ⟨fun none => snapshot.byId.occupied _ inside (SortedMap.ext_entries none), fun _ _ entry =>
      filed.of_mem_group inside entry⟩
  held object := by
    simp only [objects, ObjectMap.values, SortedMap.values, List.mem_flatMap, List.mem_map, Prod.exists]
    grind
  ascending := filed.ascending_objects
  visited visit state := snapshot.byId.fold_eq visit state
  counted := snapshot.byId.size_eq
  ofType := filed.objectsOf_eq
  policies := map_authorizationPolicies filed
  found _ _ := filed.get?_eq_some_iff

/-- Snapshots with all objects at their own identities are equal if they have one name and one list of
objects. -/
theorem eq_iff_of_filed (filed : Filed snapshot) (otherFiled : Filed other) :
    snapshot = other ↔ snapshot.name = other.name ∧ snapshot.objects = other.objects := by
  constructor
  · rintro rfl
    exact ⟨rfl, rfl⟩
  · rintro ⟨names, objects⟩
    refine ext_get? names fun id => Option.ext fun object => ?_
    rw [filed.get?_eq_some_iff, otherFiled.get?_eq_some_iff, objects]

/-- Objects with different identities may be added in any order. -/
theorem addAll_of_perm (snapshot : OutputSnapshot) {objects reordered : List OutputObject}
    (perm : reordered.Perm objects) (distinct : (objects.map OutputObject.id).Nodup) :
    snapshot.addAll reordered = snapshot.addAll objects := by
  refine ext_get? (by simp) fun id => ?_
  rw [get?_addAll, get?_addAll, OutputObject.latest?_of_perm perm distinct]

/-- Every snapshot that can be made files and hands out its objects in one way; two of them are equal exactly if
their names and their lists of objects are; and objects with different identities may be added in any order. -/
theorem built_is_canonical (built : Built snapshot) (otherBuilt : Built other) :
    Canonical snapshot ∧
      (snapshot = other ↔ snapshot.name = other.name ∧ snapshot.objects = other.objects) ∧
      ∀ objects reordered : List OutputObject, reordered.Perm objects →
        (objects.map fun object => (object.type, object.metadata.cluster, object.metadata.ns,
          object.metadata.name)).Nodup →
        snapshot.addAll reordered = snapshot.addAll objects := by
  refine ⟨built.filed.canonical, eq_iff_of_filed built.filed otherBuilt.filed, ?_⟩
  intro objects reordered perm distinct
  refine snapshot.addAll_of_perm perm ?_
  have identities : (objects.map OutputObject.id).map (fun id => (id.type, id.cluster, id.ns, id.name)) =
      objects.map fun object =>
        (object.type, object.metadata.cluster, object.metadata.ns, object.metadata.name) := by
    rw [List.map_map]
    rfl
  exact List.Nodup.of_map _ (identities ▸ distinct)

section Reordered

private def policyOn (cluster name : String) : AuthorizationPolicy where
  metadata := { name, ns := "istio-system", cluster }

private def secretOn (cluster name : String) : Secret where
  metadata := { name, ns := "orbit", cluster }

/-- Two ways to fill a snapshot with two policies and a secret: one adds them in their order and marks all of them
afterwards, the other one merges a policy that is marked already in front of unmarked ones. -/
theorem built_is_canonical_reordered :
    let mark (metadata : Metadata) : Metadata := metadata.annotate "marked" "yes"
    let marked (policy : AuthorizationPolicy) : AuthorizationPolicy :=
      { policy with metadata := mark policy.metadata }
    let policies := [policyOn "east" "a", policyOn "west" "b"]
    let inOrder := ((({ name := "objects" } : OutputSnapshot).addAll (policies.map .authorizationPolicy)).addAll
      [.secret (secretOn "east" "ca")]).mapObjects (·.mapMetadata mark)
    let merged := (((({ name := "objects" } : OutputSnapshot).add (.secret (secretOn "east" "ca"))).add
      (.authorizationPolicy (policyOn "east" "a"))).mapObjects (·.mapMetadata mark)).merge
        (({ name := "late" } : OutputSnapshot).add (.authorizationPolicy (marked (policyOn "west" "b"))))
    Built inOrder ∧ Built merged ∧ inOrder = merged ∧ inOrder.size = 3 ∧
      inOrder.objectsOf .secret =
        [.secret { secretOn "east" "ca" with metadata := mark (secretOn "east" "ca").metadata }] := by
  intro mark marked policies inOrder merged
  have keeps (state : Unit) (object : OutputObject) :
      ((fun (_ : Unit) (object : OutputObject) => (object.mapMetadata mark, ())) state object).1.id = object.id := by
    cases object <;> rfl
  have builtInOrder : Built inOrder :=
    .visit (.addSecrets (.addPolicies (.new "objects") policies) [secretOn "east" "ca"]) _ keeps ()
  have builtMerged : Built merged :=
    .merge (.visit (.add (.add (.new "objects") _) _) _ keeps ()) (.add (.new "late") _)
  obtain ⟨canonical, equal, _⟩ := built_is_canonical builtInOrder builtMerged
  refine ⟨builtInOrder, builtMerged, equal.2 ⟨rfl, by decide +kernel⟩, ?_, ?_⟩
  · rw [canonical.counted]
    decide +kernel
  · rw [canonical.ofType]
    decide +kernel

end Reordered

end OutputSnapshot

end MeshControl
