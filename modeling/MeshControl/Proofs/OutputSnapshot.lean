import Mathlib.Data.List.Nodup
import MeshControl.Output.Snapshot
import MeshControl.Proofs.ObjectMap

/-!
# What snapshots hold

A snapshot is determined by its name and by the object that it holds at each identity
(`OutputSnapshot.ext_get?`). Adding objects and merging snapshots are described by what they do to
these look-ups: the object that came last at an identity counts. Where objects are held at their own
identities (`OutputSnapshot.Filed`), the list of objects is what the look-ups find.
-/

namespace MeshControl

namespace OutputObject

/-- The last of some objects with an identity. -/
def latest? (id : ObjectId) (objects : List OutputObject) : Option OutputObject :=
  objects.reverse.find? fun object => object.id = id

@[simp] theorem latest?_nil (id : ObjectId) : latest? id [] = none := rfl

@[simp] theorem latest?_append (id : ObjectId) (first second : List OutputObject) :
    latest? id (first ++ second) = (latest? id second).or (latest? id first) := by
  simp [latest?]

theorem latest?_singleton (id : ObjectId) (object : OutputObject) :
    latest? id [object] = if object.id = id then some object else none := by
  simp [latest?]

/-- The latest object with an identity is one of the objects, and it has the identity. -/
theorem of_latest?_eq_some {id : ObjectId} {objects : List OutputObject} {object : OutputObject}
    (found : latest? id objects = some object) : object ∈ objects ∧ object.id = id := by
  have holds := List.find?_some found
  have member := List.mem_of_find?_eq_some found
  exact ⟨List.mem_reverse.1 member, by simpa using holds⟩

theorem latest?_eq_none_iff {id : ObjectId} {objects : List OutputObject} :
    latest? id objects = none ↔ ∀ object ∈ objects, object.id ≠ id := by
  simp [latest?]

/-- Where identities are distinct, each object is the latest one with its identity. -/
theorem latest?_of_nodup {objects : List OutputObject} (distinct : (objects.map id).Nodup)
    {object : OutputObject} (member : object ∈ objects) : latest? object.id objects = some object := by
  cases found : latest? object.id objects with
  | none => exact absurd rfl (latest?_eq_none_iff.1 found object member)
  | some latest =>
    obtain ⟨inside, identity⟩ := of_latest?_eq_some found
    rw [List.inj_on_of_nodup_map distinct inside member identity]

/-- Where identities are distinct, the order of the objects does not matter. -/
theorem latest?_of_perm {objects reordered : List OutputObject} (perm : reordered.Perm objects)
    (distinct : (objects.map OutputObject.id).Nodup) (id : ObjectId) :
    latest? id reordered = latest? id objects := by
  refine find?_eq_of_perm ((reordered.reverse_perm.trans perm).trans objects.reverse_perm.symm) ?_
  refine List.pairwise_reverse.2 ((List.pairwise_map.1 distinct).imp fun {first second} differ => ?_)
  rintro ⟨later, earlier⟩
  rw [decide_eq_true_eq] at later earlier
  exact differ (earlier.trans later.symm)

end OutputObject

open OutputObject (latest? latest?_append latest?_singleton)

namespace OutputSnapshot

/-- Snapshots with one name that hold the same object at every identity are equal. -/
theorem ext_get? {left right : OutputSnapshot} (names : left.name = right.name)
    (objects : ∀ id, left.get? id = right.get? id) : left = right := by
  cases left
  cases right
  cases names
  rw [mk.injEq]
  exact ⟨rfl, ObjectMap.ext_get? objects⟩

@[simp] theorem get?_nameOnly (name : String) (id : ObjectId) :
    ({ name } : OutputSnapshot).get? id = none := rfl

theorem get?_of_byId_eq_empty {snapshot : OutputSnapshot} (empty : snapshot.byId = ∅) (id : ObjectId) :
    snapshot.get? id = none := by
  rw [get?, empty]
  rfl

/-- A snapshot in which nothing is found has no objects. -/
theorem objects_eq_nil {snapshot : OutputSnapshot} (nothing : ∀ id, snapshot.get? id = none) :
    snapshot.objects = [] := by
  have empty : snapshot.byId = ∅ := ObjectMap.ext_get? nothing
  rw [objects, empty]
  rfl

theorem get?_add (snapshot : OutputSnapshot) (object : OutputObject) (id : ObjectId) :
    (snapshot.add object).get? id = if id = object.id then some object else snapshot.get? id :=
  snapshot.byId.get?_insert object id

@[simp] theorem get?_merge (snapshot other : OutputSnapshot) (id : ObjectId) :
    (snapshot.merge other).get? id = (other.get? id).or (snapshot.get? id) :=
  snapshot.byId.get?_union other.byId id

@[simp] theorem merge_name (snapshot other : OutputSnapshot) :
    (snapshot.merge other).name = snapshot.name := rfl

@[simp] theorem addAll_name (snapshot : OutputSnapshot) (objects : List OutputObject) :
    (snapshot.addAll objects).name = snapshot.name := by
  unfold addAll
  induction objects generalizing snapshot with
  | nil => rfl
  | cons object rest inductionHypothesis => exact inductionHypothesis (snapshot.add object)

theorem addAll_append (snapshot : OutputSnapshot) (first second : List OutputObject) :
    snapshot.addAll (first ++ second) = (snapshot.addAll first).addAll second :=
  List.foldl_append

@[simp] theorem get?_addAll (snapshot : OutputSnapshot) (objects : List OutputObject) (id : ObjectId) :
    (snapshot.addAll objects).get? id = (latest? id objects).or (snapshot.get? id) := by
  unfold addAll
  induction objects generalizing snapshot with
  | nil => simp
  | cons object rest inductionHypothesis =>
    rw [List.foldl_cons, inductionHypothesis, get?_add, ← List.singleton_append, latest?_append,
      latest?_singleton, Option.or_assoc]
    congr 1
    by_cases same : object.id = id
    · simp [same]
    · simp [same, Ne.symm same]

/-- Objects that are added once more replace themselves. -/
theorem addAll_addAll (snapshot : OutputSnapshot) (objects : List OutputObject) :
    (snapshot.addAll objects).addAll objects = snapshot.addAll objects := by
  refine ext_get? (by simp) fun id => ?_
  rw [get?_addAll, get?_addAll, ← Option.or_assoc, Option.or_self]

/-- Added objects leave what is held at other identities. -/
theorem get?_addAll_of_ne (snapshot : OutputSnapshot) {objects : List OutputObject} {id : ObjectId}
    (others : ∀ object ∈ objects, object.id ≠ id) : (snapshot.addAll objects).get? id = snapshot.get? id := by
  rw [get?_addAll, OutputObject.latest?_eq_none_iff.2 others, Option.none_or]

/-- At the identity of an added object one of the added objects with this identity is held. -/
theorem get?_addAll_of_mem (snapshot : OutputSnapshot) {objects : List OutputObject} {object : OutputObject}
    (member : object ∈ objects) :
    ∃ latest ∈ objects, latest.id = object.id ∧ (snapshot.addAll objects).get? object.id = some latest := by
  cases found : latest? object.id objects with
  | none => exact absurd rfl (OutputObject.latest?_eq_none_iff.1 found object member)
  | some latest =>
    obtain ⟨inside, identity⟩ := OutputObject.of_latest?_eq_some found
    exact ⟨latest, inside, identity, by rw [get?_addAll, found, Option.some_or]⟩

/-- Of many merged snapshots the last one with an object at an identity counts. -/
theorem get?_foldl_merge {β : Type} (snapshotOf : β → OutputSnapshot) (layers : List β)
    (base : OutputSnapshot) (id : ObjectId) :
    (layers.foldl (fun merged layer => merged.merge (snapshotOf layer)) base).get? id =
      (layers.reverse.findSome? fun layer => (snapshotOf layer).get? id).or (base.get? id) := by
  induction layers generalizing base with
  | nil => simp
  | cons layer rest inductionHypothesis =>
    rw [List.foldl_cons, inductionHypothesis, get?_merge, List.reverse_cons, List.findSome?_append,
      Option.or_assoc]
    simp

/-- Merging keeps the name. -/
theorem name_foldl_merge {β : Type} (snapshotOf : β → OutputSnapshot) (layers : List β)
    (base : OutputSnapshot) :
    (layers.foldl (fun merged layer => merged.merge (snapshotOf layer)) base).name = base.name := by
  induction layers generalizing base with
  | nil => rfl
  | cons layer rest inductionHypothesis => exact inductionHypothesis (base.merge (snapshotOf layer))

/-- Every object is held at its own identity. -/
def Filed (snapshot : OutputSnapshot) : Prop := ∀ id object, snapshot.get? id = some object → object.id = id

section Filed

variable {snapshot : OutputSnapshot}

/-- The objects of a snapshot are those that it holds at their identities. -/
theorem Filed.mem_objects_iff (filed : snapshot.Filed) {object : OutputObject} :
    object ∈ snapshot.objects ↔ snapshot.get? object.id = some object := by
  rw [objects, ObjectMap.values_eq, List.mem_map]
  constructor
  · rintro ⟨⟨id, found⟩, entry, rfl⟩
    have held : snapshot.get? id = some found := snapshot.byId.mem_entries_iff.1 entry
    rwa [filed id found held]
  · intro held
    exact ⟨(object.id, object), snapshot.byId.mem_entries_iff.2 held, rfl⟩

/-- The identities of the objects are those under which they are held. -/
theorem Filed.map_id_objects (filed : snapshot.Filed) :
    snapshot.objects.map OutputObject.id = snapshot.byId.keys := by
  rw [objects, ObjectMap.values_eq, List.map_map]
  exact List.map_congr_left fun entry member => filed entry.1 entry.2 (snapshot.byId.mem_entries_iff.1 member)

/-- No two objects of a snapshot have the same identity. -/
theorem Filed.nodup_objects (filed : snapshot.Filed) : snapshot.objects.Nodup :=
  List.Nodup.of_map OutputObject.id (filed.map_id_objects ▸ snapshot.byId.nodup_keys)

end Filed

end OutputSnapshot

end MeshControl
