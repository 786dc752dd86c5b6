import MeshControl.Output.ObjectMap
import MeshControl.Proofs.SortedMap

/-!
# What sets of objects hold

A set of objects is what its look-ups find (`ObjectMap.ext_get?`), since it has no groups without objects. Its
entries stand in strictly ascending order of their identities (`ObjectMap.ascending_entries`) and are what the
look-ups find; the values, their number and a visit are read off the entries.
-/

namespace MeshControl

namespace ObjectId

@[simp] theorem withType_key (id : ObjectId) : id.key.withType id.type = id := rfl

/-- Identities are compared by type and then by key. -/
theorem compare_withType (key otherKey : ObjectKey) (type otherType : ResourceType) :
    compare (key.withType type) (otherKey.withType otherType) =
      (compare type otherType).then (compare key otherKey) := by
  show instOrdObjectId.ord _ _ = _
  simp [instOrdObjectId.ord, ObjectKey.withType, ObjectKey.compare_eq_lex, compareLex, compareOn]

@[simp] theorem compare_itself (id : ObjectId) : compare id id = .eq := by
  have type : compare id.type id.type = .eq := Std.ReflCmp.compare_self
  have key : compare id.key id.key = .eq := Std.ReflCmp.compare_self
  have parts := compare_withType id.key id.key id.type id.type
  rwa [withType_key, type, key] at parts

end ObjectId

namespace ObjectGroups

variable {groups : ObjectGroups}

theorem group_insert (groups : ObjectGroups) (type other : ResourceType)
    (objects : SortedMap ObjectKey OutputObject) :
    group (groups.insert type objects) other = if other = type then objects else group groups other := by
  unfold group
  rw [SortedMap.get?_insert_of_lawful]
  split <;> rfl

/-- Absorbed groups add their objects to the groups of their types. -/
theorem group_foldl_absorb (groups : ObjectGroups)
    {others : List (ResourceType × SortedMap ObjectKey OutputObject)}
    (ascending : others.Pairwise fun left right => compare left.1 right.1 = .lt) (type : ResourceType) :
    group (others.foldl absorb groups) type =
      (group groups type).union ((SortedMap.lookup type others).getD ∅) := by
  induction others generalizing groups with
  | nil => rfl
  | cons other rest inductionHypothesis =>
    rw [List.pairwise_cons] at ascending
    rw [List.foldl_cons, inductionHypothesis _ ascending.2, absorb, group_insert, SortedMap.lookup]
    have found : compare type other.1 = .eq ↔ type = other.1 := Std.LawfulEqCmp.compare_eq_iff_eq
    by_cases same : type = other.1
    · -- No later group has the type of this one.
      have missing : SortedMap.lookup type rest = none :=
        SortedMap.lookup_eq_none_of_lt fun later member => same ▸ ascending.1 later member
      rw [if_pos same, if_pos (found.2 same), missing, ← same]
      rfl
    · rw [if_neg same, if_neg (found.not.2 same)]

/-- Where no group is empty, a group is there exactly if its type has objects. -/
theorem Occupied.get?_eq (occupied : Occupied groups) (type : ResourceType) :
    groups.get? type = if group groups type = ∅ then none else some (group groups type) := by
  unfold group
  cases found : groups.get? type with
  | none => exact (if_pos rfl).symm
  | some objects =>
    have present : objects ≠ ∅ := occupied (type, objects) (SortedMap.mem_entries_iff.2 found)
    exact (if_neg present).symm

end ObjectGroups

namespace ObjectMap

/-- An object is looked for in the group of its type. -/
theorem get?_eq (map : ObjectMap) (id : ObjectId) : map.get? id = (map.groups.group id.type).get? id.key := by
  unfold get? ObjectGroups.group
  cases map.groups.get? id.type <;> rfl

@[simp] theorem get?_empty (id : ObjectId) : (∅ : ObjectMap).get? id = none := rfl

theorem get?_insert (map : ObjectMap) (object : OutputObject) (id : ObjectId) :
    (map.insert object).get? id = if id = object.id then some object else map.get? id := by
  rw [get?_eq, get?_eq]
  show (ObjectGroups.group (map.groups.insert object.type _) id.type).get? id.key = _
  rw [ObjectGroups.group_insert]
  by_cases type : id.type = object.type
  · have keys : id.key = object.id.key ↔ id = object.id :=
      ⟨fun same => congrArg₂ ObjectKey.withType same type, congrArg ObjectId.key⟩
    rw [if_pos type, SortedMap.get?_insert_of_lawful, type]
    simp only [keys]
  · rw [if_neg type, if_neg fun same => type (congrArg ObjectId.type same)]

/-- The union of two sets is the union of their groups. -/
theorem group_union (map other : ObjectMap) (type : ResourceType) :
    (map.union other).groups.group type = (map.groups.group type).union (other.groups.group type) :=
  ObjectGroups.group_foldl_absorb map.groups other.groups.ascending type

theorem get?_union (map other : ObjectMap) (id : ObjectId) :
    (map.union other).get? id = (other.get? id).or (map.get? id) := by
  rw [get?_eq, group_union, SortedMap.get?_union, ← get?_eq, ← get?_eq]

/-- Sets of objects that answer every look-up alike are equal. -/
theorem ext_get? {left right : ObjectMap} (same : ∀ id, left.get? id = right.get? id) : left = right := by
  have groups : ∀ type, left.groups.group type = right.groups.group type := fun type =>
    SortedMap.ext_get? fun key => by
      have atKey := same (key.withType type)
      rwa [get?_eq, get?_eq] at atKey
  refine ext_groups (SortedMap.ext_get? fun type => ?_)
  rw [left.occupied.get?_eq, right.occupied.get?_eq, groups type]

/-- After a visit every object has become of the one that stood in its place. -/
theorem exists_of_get?_visit {σ : Type} {change : σ → OutputObject → OutputObject × σ} {state : σ}
    {map : ObjectMap} {id : ObjectId} {changed : OutputObject}
    (held : (map.visit change state).1.get? id = some changed) :
    ∃ reached object, map.get? id = some object ∧ (change reached object).1 = changed := by
  obtain ⟨group, inside, heldInGroup⟩ := Option.bind_eq_some_iff.1 held
  obtain ⟨reached, before, wasInside, rfl⟩ :=
    SortedMap.exists_of_mem_visitEntries (SortedMap.mem_entries_iff.2 inside)
  obtain ⟨reachedInGroup, object, wasHeld, becomes⟩ :=
    SortedMap.exists_of_mem_visitEntries (SortedMap.mem_entries_iff.2 heldInGroup)
  refine ⟨reachedInGroup, object, Option.bind_eq_some_iff.2 ⟨before, ?_, ?_⟩, becomes⟩
  · exact SortedMap.mem_entries_iff.1 wasInside
  · exact SortedMap.mem_entries_iff.1 wasHeld

@[simp] theorem union_empty (map : ObjectMap) : map.union ∅ = map := rfl

@[simp] theorem empty_union (map : ObjectMap) : (∅ : ObjectMap).union map = map :=
  ext_get? fun id => by rw [get?_union, get?_empty, Option.or_none]

section Entries

variable (map : ObjectMap)

/-- The entries are what the look-ups find. -/
theorem mem_entries_iff {id : ObjectId} {object : OutputObject} :
    (id, object) ∈ map.entries ↔ map.get? id = some object := by
  rw [get?, Option.bind_eq_some_iff, entries, List.mem_flatMap]
  constructor
  · rintro ⟨⟨type, group⟩, inside, member⟩
    obtain ⟨⟨key, held⟩, entry, same⟩ := List.mem_map.1 member
    obtain ⟨rfl, rfl⟩ := Prod.mk.inj same
    exact ⟨group, SortedMap.mem_entries_iff.1 inside, SortedMap.mem_entries_iff.1 entry⟩
  · rintro ⟨group, inside, entry⟩
    exact ⟨(id.type, group), SortedMap.mem_entries_iff.2 inside,
      List.mem_map.2 ⟨(id.key, object), SortedMap.mem_entries_iff.2 entry, rfl⟩⟩

/-- The entries stand in strictly ascending order of their identities. -/
theorem ascending_entries : map.entries.Pairwise fun left right => compare left.1 right.1 = .lt := by
  refine List.pairwise_flatMap.2 ⟨fun group _ => ?_, map.groups.ascending.imp fun {first second} below => ?_⟩
  · refine List.pairwise_map.2 (group.2.ascending.imp fun {left right} below => ?_)
    have sameType : compare group.1 group.1 = .eq := Std.ReflCmp.compare_self
    rw [ObjectId.compare_withType, sameType, below]
    rfl
  · intro left leftMember right rightMember
    obtain ⟨leftEntry, _, rfl⟩ := List.mem_map.1 leftMember
    obtain ⟨rightEntry, _, rfl⟩ := List.mem_map.1 rightMember
    rw [ObjectId.compare_withType, below]
    rfl

theorem values_eq : map.values = map.entries.map (·.2) := by
  unfold values entries
  rw [SortedMap.values, List.flatMap_map, List.map_flatMap]
  refine List.flatMap_congr fun group _ => ?_
  rw [SortedMap.values, List.map_map]
  rfl

theorem size_eq : map.size = map.values.length := by
  have sizes : map.groups.values.map SortedMap.size = map.groups.values.map fun group => group.values.length :=
    List.map_congr_left fun group _ => (List.length_map ..).symm
  rw [size, values, List.length_flatMap, ← sizes, List.sum_eq_foldl, List.foldl_map]

theorem fold_eq {σ : Type} (visit : σ → OutputObject → σ) (state : σ) :
    map.fold visit state = map.values.foldl visit state :=
  List.foldl_flatMap.symm

theorem isEmpty_iff : map.isEmpty = true ↔ map = ∅ := by
  constructor
  · intro none
    have count : map.entries.length = 0 := by simpa [isEmpty, size_eq, values_eq] using none
    refine ext_get? fun id => Option.eq_none_iff_forall_ne_some.2 fun object held => ?_
    have entry := map.mem_entries_iff.2 held
    rw [List.length_eq_zero_iff.1 count] at entry
    cases entry
  · rintro rfl
    rfl

/-- No two entries stand under one identity. -/
theorem nodup_keys : map.keys.Nodup := by
  refine List.pairwise_map.2 (map.ascending_entries.imp fun {left right} below equal => ?_)
  rw [equal, ObjectId.compare_itself] at below
  cases below

end Entries

end ObjectMap

end MeshControl
