import MeshControl.Output.Object

/-!
# Objects by type and key

Objects are held in groups, one for each type, and in a group under their keys. A group is there only if it
has an object, so that maps with the same objects are equal: every operation on groups that is defined here
keeps this, and `ObjectMap` carries it.
-/

namespace MeshControl

instance : Std.TransOrd ResourceType where
  eq_swap {left right} := by cases left <;> cases right <;> rfl
  isLE_trans {first second third} := by cases first <;> cases second <;> cases third <;> decide

instance : Std.LawfulEqOrd ResourceType where
  compare_self {type} := by cases type <;> rfl
  eq_of_compare {left right} := by cases left <;> cases right <;> decide

namespace ObjectKey

/-- Keys are compared by cluster, namespace and name, in this order. -/
theorem compare_eq_lex :
    (compare : ObjectKey → ObjectKey → Ordering) =
      compareLex (compareOn ObjectKey.cluster) (compareLex (compareOn ObjectKey.ns) (compareOn ObjectKey.name)) := by
  funext left right
  show instOrdObjectKey.ord left right = _
  cases left
  cases right
  simp [instOrdObjectKey.ord, compareLex, compareOn]

instance : Std.TransOrd ObjectKey := by
  unfold Std.TransOrd
  rw [compare_eq_lex]
  infer_instance

instance : Std.LawfulEqOrd ObjectKey where
  compare_self := by simp
  eq_of_compare {left right} same := by
    cases left
    cases right
    simp only [compare_eq_lex, compareLex, compareOn, Ordering.then_eq_eq,
      Std.LawfulEqCmp.compare_eq_iff_eq] at same
    simp [same]

end ObjectKey

/-- Objects of each type under their keys. -/
abbrev ObjectGroups := SortedMap ResourceType (SortedMap ObjectKey OutputObject)

namespace ObjectGroups

/-- No group is there without an object. -/
def Occupied (groups : ObjectGroups) : Prop := ∀ entry ∈ groups.entries, entry.2 ≠ ∅

/-- The objects of a type, of which there may be none. -/
def group (groups : ObjectGroups) (type : ResourceType) : SortedMap ObjectKey OutputObject :=
  (groups.get? type).getD ∅

/-- Puts an object into the group of its type, in place of one with the same key. -/
def put (groups : ObjectGroups) (object : OutputObject) : ObjectGroups :=
  groups.insert object.type ((group groups object.type).insert object.id.key object)

/-- Puts all objects of another group of a type into the group of that type. -/
def absorb (groups : ObjectGroups) (other : ResourceType × SortedMap ObjectKey OutputObject) : ObjectGroups :=
  groups.insert other.1 ((group groups other.1).union other.2)

/-- Changes the objects, smallest identity first, and leaves each where it stands. -/
def visit {σ : Type} (change : σ → OutputObject → OutputObject × σ) (state : σ) (groups : ObjectGroups) :
    ObjectGroups × σ :=
  groups.visitValues (fun state group => group.visitValues change state) state

theorem occupied_insert {groups : ObjectGroups} (occupied : Occupied groups) (type : ResourceType)
    {group : SortedMap ObjectKey OutputObject} (present : group ≠ ∅) : Occupied (groups.insert type group) := by
  intro entry member
  rcases SortedMap.mem_entries_insert member with rfl | before
  · exact present
  · exact occupied entry before

theorem occupied_put {groups : ObjectGroups} (occupied : Occupied groups) (object : OutputObject) :
    Occupied (put groups object) :=
  occupied_insert occupied object.type (SortedMap.insert_ne_empty _ _ _)

/-- Absorbing groups makes no empty group, since none of them is empty. -/
theorem occupied_foldl_absorb {groups : ObjectGroups} (occupied : Occupied groups)
    {others : List (ResourceType × SortedMap ObjectKey OutputObject)} (present : ∀ other ∈ others, other.2 ≠ ∅) :
    Occupied (others.foldl absorb groups) := by
  induction others generalizing groups with
  | nil => exact occupied
  | cons other rest inductionHypothesis =>
    rw [List.forall_mem_cons] at present
    exact inductionHypothesis (occupied_insert occupied other.1 (SortedMap.union_ne_empty _ present.1)) present.2

theorem occupied_visit {σ : Type} (change : σ → OutputObject → OutputObject × σ) (state : σ)
    {groups : ObjectGroups} (occupied : Occupied groups) : Occupied (visit change state groups).1 := by
  intro entry member
  obtain ⟨reached, group, before, becomes⟩ := SortedMap.exists_of_mem_visitEntries member
  rw [← becomes]
  exact SortedMap.visitValues_ne_empty change reached (occupied _ before)

end ObjectGroups

/-- A set of objects with at most one object under a type and a key. -/
structure ObjectMap where
  groups : ObjectGroups
  occupied : groups.Occupied

namespace ObjectMap

theorem ext_groups {left right : ObjectMap} (same : left.groups = right.groups) : left = right := by
  cases left
  cases right
  cases same
  rfl

instance : DecidableEq ObjectMap := fun left right =>
  decidable_of_iff (left.groups = right.groups) ⟨ext_groups, fun equal => congrArg ObjectMap.groups equal⟩

/-- The set without objects. -/
def empty : ObjectMap := ⟨∅, fun _ member => nomatch member⟩

instance : EmptyCollection ObjectMap := ⟨empty⟩
instance : Inhabited ObjectMap := ⟨empty⟩

/-- The object with an identity. -/
def get? (map : ObjectMap) (id : ObjectId) : Option OutputObject :=
  (map.groups.get? id.type).bind fun group => group.get? id.key

/-- The objects with what they stand under, in ascending order. -/
def entries (map : ObjectMap) : List (ObjectId × OutputObject) :=
  map.groups.entries.flatMap fun group => group.2.entries.map fun entry => (entry.1.withType group.1, entry.2)

/-- What the objects stand under, in ascending order. -/
def keys (map : ObjectMap) : List ObjectId := map.entries.map (·.1)

/-- The objects in the order of what they stand under. -/
def values (map : ObjectMap) : List OutputObject := map.groups.values.flatMap SortedMap.values

/-- The number of objects. -/
def size (map : ObjectMap) : Nat := map.groups.values.foldl (fun count group => count + group.size) 0

/-- Whether there is no object. -/
def isEmpty (map : ObjectMap) : Bool := map.size == 0

/-- Visits the objects one after the other. -/
def fold {σ : Type} (visit : σ → OutputObject → σ) (state : σ) (map : ObjectMap) : σ :=
  map.groups.values.foldl (fun state group => group.values.foldl visit state) state

/-- Puts an object under its identity, in place of one that stands there. -/
def insert (map : ObjectMap) (object : OutputObject) : ObjectMap :=
  ⟨map.groups.put object, ObjectGroups.occupied_put map.occupied object⟩

/-- Puts all objects of another set into a set. -/
def union (map other : ObjectMap) : ObjectMap :=
  ⟨other.groups.entries.foldl ObjectGroups.absorb map.groups,
    ObjectGroups.occupied_foldl_absorb map.occupied other.occupied⟩

/-- Changes the objects one after the other and leaves each where it stands. What becomes of an object may
depend on those before it. -/
def visit {σ : Type} (change : σ → OutputObject → OutputObject × σ) (state : σ) (map : ObjectMap) :
    ObjectMap × σ :=
  let changed := map.groups.visit change state
  (⟨changed.1, ObjectGroups.occupied_visit change state map.occupied⟩, changed.2)

end ObjectMap

end MeshControl
