import MeshControl.Proofs.Keys
import MeshControl.Proofs.SortedMap

/-!
# Look-ups of config maps

Config maps are looked up by keys, and of several records with one key the last one counts (`ConfigMaps.last?`). What
two lists of records have under a key decides whether a look-up tells them apart (`ConfigMaps.find_congr`). A key leads
to one cluster only, if no cluster has a dot in its name (`ConfigMaps.last?_eq_none_or_of_apart`,
`ConfigMaps.find_filter`).
-/

namespace MeshControl.Injection.ConfigMaps

/-- The last of some records with a key. -/
def last? (key : String) (records : List ConfigMapRecord) : Option ConfigMapRecord :=
  records.reverse.find? fun record => record.key = key

variable {key : String} {records others : List ConfigMapRecord} {found : Option ConfigMapRecord}

@[simp] theorem last?_append (key : String) (earlier later : List ConfigMapRecord) :
    last? key (earlier ++ later) = (last? key later).or (last? key earlier) := by
  simp [last?]

theorem last?_eq_none_iff : last? key records = none ↔ ∀ record ∈ records, record.key ≠ key := by
  simp [last?]

theorem of_last?_eq_some {record : ConfigMapRecord} (found : last? key records = some record) :
    record ∈ records ∧ record.key = key :=
  ⟨List.mem_reverse.1 (List.mem_of_find?_eq_some found), by simpa using List.find?_some found⟩

theorem lookupLast_records (key : String) (records : List ConfigMapRecord) :
    SortedMap.lookupLast key (records.map fun record => (record.key, record)) = last? key records := by
  have same : (fun record : ConfigMapRecord => if compare key record.key = .eq then some record else none) =
      Option.guard fun record => record.key = key := by
    funext record
    have found : compare key record.key = .eq ↔ record.key = key :=
      Std.LawfulEqCmp.compare_eq_iff_eq.trans eq_comm
    simp only [found, Option.guard, decide_eq_true_eq]
  rw [SortedMap.lookupLast, ← List.map_reverse, List.findSome?_map, last?, List.find?_eq_findSome?_guard, ← same]
  rfl

/-- A look-up sees no more of some records than the last one with its key. -/
theorem find_congr {ref : ClusterRef} (same : last? ref.key records = last? ref.key others) :
    (ofList records).find ref = (ofList others).find ref := by
  simp only [find, ofList, SortedMap.get?_ofList, lookupLast_records, same]

/-- Of the records on two clusters without dots in their names only those on one have a given key. -/
theorem last?_eq_none_or_of_apart {cluster other : String} (onCluster : ∀ record ∈ records, record.cluster = cluster)
    (onOther : ∀ record ∈ others, record.cluster = other) (noDot : '.' ∉ cluster.toList)
    (otherNoDot : '.' ∉ other.toList) (apart : cluster ≠ other) (key : String) :
    last? key records = none ∨ last? key others = none := by
  by_contra both
  simp only [not_or, Option.ne_none_iff_exists'] at both
  obtain ⟨⟨record, found⟩, second, otherFound⟩ := both
  obtain ⟨member, isKey⟩ := of_last?_eq_some found
  obtain ⟨otherMember, otherIsKey⟩ := of_last?_eq_some otherFound
  rw [← onCluster record member] at noDot apart
  rw [← onOther second otherMember] at otherNoDot apart
  exact apart (ClusterRef.cluster_eq_of_key_eq noDot otherNoDot (isKey.trans otherIsKey.symm))

/-- Where several lists of records agree on a key, or have nothing under it, so do all of them together. -/
theorem last?_flatten {lists : List (List ConfigMapRecord)}
    (each : ∀ list ∈ lists, last? key list = found ∨ last? key list = none)
    (given : ∃ list ∈ lists, last? key list = found) : last? key lists.flatten = found := by
  induction lists with
  | nil => simp at given
  | cons list lists inductionHypothesis =>
    rw [List.forall_mem_cons] at each
    rw [List.flatten_cons, last?_append]
    by_cases later : ∃ other ∈ lists, last? key other = found
    · rw [inductionHypothesis each.2 later]
      rcases each.1 with same | none
      · rw [same, Option.or_self]
      · rw [none, Option.or_none]
    · have noneLater : last? key lists.flatten = none := by
        refine last?_eq_none_iff.2 fun record member => ?_
        obtain ⟨other, inside, among⟩ := List.mem_flatten.1 member
        have none := (each.2 other inside).resolve_left fun same => later ⟨other, inside, same⟩
        exact last?_eq_none_iff.1 none record among
      obtain ⟨other, member, same⟩ := given
      rcases List.mem_cons.1 member with rfl | inside
      · rw [noneLater, Option.none_or, same]
      · exact absurd ⟨other, inside, same⟩ later

/-- Records that come from members of a list under other keys do not matter. -/
theorem last?_map_filter {β : Type} {recordOf : β → ConfigMapRecord} {kept : β → Bool} {list : List β}
    (others : ∀ member ∈ list, kept member = false → (recordOf member).key ≠ key) :
    last? key ((list.filter kept).map recordOf) = last? key (list.map recordOf) := by
  rw [← lookupLast_records, ← lookupLast_records, List.map_map, List.map_map, ← List.filterMap_eq_map]
  refine SortedMap.lookupLast_filterMap_filter fun member inside dropped entry made same => ?_
  obtain rfl := Option.some.inj made
  exact others member inside dropped (Std.LawfulEqCmp.eq_of_compare same).symm

/-- Records with other keys do not matter. -/
theorem last?_filter {kept : ConfigMapRecord → Bool}
    (others : ∀ record ∈ records, kept record = false → record.key ≠ key) :
    last? key (records.filter kept) = last? key records := by
  have same : last? key ((records.filter kept).map id) = last? key (records.map id) := last?_map_filter others
  rwa [List.map_id, List.map_id] at same

/-- Config maps on other clusters are not found under the reference to one on this cluster. -/
theorem find_filter (ref : ClusterRef) (noDot : '.' ∉ ref.cluster.toList)
    (noDots : ∀ record ∈ records, '.' ∉ record.cluster.toList) :
    (ofList (records.filter fun record => record.cluster = ref.cluster)).find ref = (ofList records).find ref := by
  refine find_congr (last?_filter fun record member elsewhere same => ?_)
  have here : record.cluster = ref.cluster :=
    ClusterRef.cluster_eq_of_key_eq (noDots record member) noDot same
  exact absurd here (of_decide_eq_false elsewhere)

end MeshControl.Injection.ConfigMaps
