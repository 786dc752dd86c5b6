import Mathlib.Data.List.Nodup
import MeshControl.Proofs.Lists
import MeshControl.SortedMap

/-!
# Look-ups after insertions

`SortedMap.get?_insertAll` says which of many inserted entries answers a look-up: the last one with
the key. `SortedMap.get?_union` says the same of a union, where the second map has one entry for each
of its keys. The entries of a map are what its look-ups find (`SortedMap.mem_entries_iff`), and make up
the map in any order (`SortedMap.ofList_of_perm`).
-/

namespace MeshControl

namespace SortedMap

variable {κ : Type} [Ord κ] {α : Type}

theorem isEmpty_iff {map : SortedMap κ α} : map.isEmpty = true ↔ map = ∅ := by
  rw [isEmpty, List.isEmpty_iff]
  exact ⟨fun none => ext_entries none, fun none => by rw [none]; rfl⟩

/-- The value of the last entry with the given key. -/
def lookupLast (key : κ) (entries : List (κ × α)) : Option α :=
  entries.reverse.findSome? fun entry => if compare key entry.1 = .eq then some entry.2 else none

@[simp] theorem lookupLast_nil (key : κ) : lookupLast key ([] : List (κ × α)) = none := rfl

theorem lookupLast_cons (key : κ) (entry : κ × α) (rest : List (κ × α)) :
    lookupLast key (entry :: rest) =
      (lookupLast key rest).or (if compare key entry.1 = .eq then some entry.2 else none) := by
  simp [lookupLast]

/-- Members of a list whose entries have other keys do not matter to a look-up. -/
theorem lookupLast_filterMap_filter {β : Type} {entryOf : β → Option (κ × α)} {kept : β → Bool} {key : κ}
    {list : List β}
    (others : ∀ member ∈ list, kept member = false →
      ∀ entry, entryOf member = some entry → compare key entry.1 ≠ .eq) :
    lookupLast key ((list.filter kept).filterMap entryOf) = lookupLast key (list.filterMap entryOf) := by
  induction list with
  | nil => rfl
  | cons member rest inductionHypothesis =>
    rw [List.forall_mem_cons] at others
    have later := inductionHypothesis others.2
    cases keeps : kept member with
    | true =>
      rw [List.filter_cons_of_pos keeps]
      cases made : entryOf member with
      | none => rw [List.filterMap_cons_none made, List.filterMap_cons_none made, later]
      | some entry =>
        rw [List.filterMap_cons_some made, List.filterMap_cons_some made, lookupLast_cons, lookupLast_cons,
          later]
    | false =>
      rw [List.filter_cons_of_neg (by simp [keeps]), later]
      cases made : entryOf member with
      | none => rw [List.filterMap_cons_none made]
      | some entry =>
        rw [List.filterMap_cons_some made, lookupLast_cons, if_neg (others.1 keeps entry made), Option.or_none]

section Members

variable {β : Type} [Std.LawfulEqOrd κ] (keyOf : β → κ) (valueOf : β → Option α)

omit [Std.LawfulEqOrd κ] in
theorem lookupLast_filterMap_cons (key : κ) (member : β) (rest : List β) :
    lookupLast key ((member :: rest).filterMap fun other => (valueOf other).map (Prod.mk (keyOf other))) =
      (lookupLast key (rest.filterMap fun other => (valueOf other).map (Prod.mk (keyOf other)))).or
        (if compare key (keyOf member) = .eq then valueOf member else none) := by
  cases found : valueOf member with
  | none => simp [found]
  | some value => simp [found, lookupLast_cons]

/-- Where each member has a key of its own, its value is what its key finds. -/
theorem lookupLast_filterMap_of_mem {list : List β} (distinct : (list.map keyOf).Nodup) {member : β}
    (inside : member ∈ list) :
    lookupLast (keyOf member) (list.filterMap fun other => (valueOf other).map (Prod.mk (keyOf other))) =
      valueOf member := by
  induction list with
  | nil => cases inside
  | cons head rest inductionHypothesis =>
    rw [List.map_cons, List.nodup_cons] at distinct
    rw [lookupLast_filterMap_cons]
    rcases List.mem_cons.1 inside with rfl | later
    · have missing : lookupLast (keyOf member)
          (rest.filterMap fun other => (valueOf other).map (Prod.mk (keyOf other))) = none := by
        rw [lookupLast, List.findSome?_eq_none_iff]
        intro entry given
        obtain ⟨other, among, made⟩ := List.mem_filterMap.1 (List.mem_reverse.1 given)
        obtain ⟨value, _, rfl⟩ := Option.map_eq_some_iff.1 made
        refine if_neg fun same => distinct.1 ?_
        rw [Std.LawfulEqCmp.eq_of_compare same]
        exact List.mem_map_of_mem among
      rw [missing, if_pos Std.ReflCmp.compare_self, Option.none_or]
    · have apart : ¬ compare (keyOf member) (keyOf head) = .eq := fun same => distinct.1 <| by
        rw [← Std.LawfulEqCmp.eq_of_compare same]
        exact List.mem_map_of_mem later
      rw [inductionHypothesis distinct.2 later, if_neg apart, Option.or_none]

theorem mem_of_lookupLast_eq_some {key : κ} {value : α} {entries : List (κ × α)}
    (found : lookupLast key entries = some value) : (key, value) ∈ entries := by
  obtain ⟨entry, member, given⟩ := List.exists_of_findSome?_eq_some found
  split at given
  · next same =>
    obtain rfl : key = entry.1 := Std.LawfulEqCmp.eq_of_compare same
    obtain rfl := Option.some.inj given
    exact List.mem_reverse.1 member
  · cases given

/-- Where keys are distinct each entry is found under its key. -/
theorem lookupLast_eq_some_iff {entries : List (κ × α)} (distinct : (entries.map (·.1)).Nodup) {key : κ} {value : α} :
    lookupLast key entries = some value ↔ (key, value) ∈ entries := by
  refine ⟨mem_of_lookupLast_eq_some, fun member => ?_⟩
  have found := lookupLast_filterMap_of_mem Prod.fst (some ∘ Prod.snd) distinct member
  simpa using found

end Members

/-- Where keys are distinct a look-up finds the same in every order of the entries. -/
theorem lookupLast_of_perm [Std.LawfulEqOrd κ] {entries reordered : List (κ × α)}
    (perm : reordered.Perm entries) (distinct : (entries.map (·.1)).Nodup) (key : κ) :
    lookupLast key reordered = lookupLast key entries := by
  refine findSome?_eq_of_perm ((reordered.reverse_perm.trans perm).trans entries.reverse_perm.symm) ?_
  refine List.pairwise_reverse.2 ((List.pairwise_map.1 distinct).imp fun {first second} differ => ?_)
  by_cases later : compare key second.1 = .eq
  · have earlier : ¬ compare key first.1 = .eq := fun same =>
      differ ((Std.LawfulEqCmp.eq_of_compare same).symm.trans (Std.LawfulEqCmp.eq_of_compare later))
    exact .inr (if_neg earlier)
  · exact .inl (if_neg later)

/-- Where keys are distinct the last entry with a key is the first one. -/
theorem lookupLast_of_ascending [Std.TransOrd κ] {entries : List (κ × α)}
    (ascending : entries.Pairwise fun left right => compare left.1 right.1 = .lt) (key : κ) :
    lookupLast key entries = lookup key entries := by
  induction entries with
  | nil => rfl
  | cons entry rest inductionHypothesis =>
    rw [List.pairwise_cons] at ascending
    rw [lookupLast_cons, inductionHypothesis ascending.2, lookup]
    by_cases same : compare key entry.1 = .eq
    · have missing : lookup key rest = none := lookup_eq_none_of_lt fun later member => by
        rw [Std.TransCmp.congr_left same]
        exact ascending.1 later member
      simp [same, missing]
    · simp [same]

section Entries

variable [Std.TransOrd κ] [Std.LawfulEqOrd κ]

/-- Where keys are distinct an entry is found under its key. -/
theorem lookup_eq_some_iff {entries : List (κ × α)}
    (ascending : entries.Pairwise fun left right => compare left.1 right.1 = .lt) {key : κ} {value : α} :
    lookup key entries = some value ↔ (key, value) ∈ entries := by
  induction entries with
  | nil => simp [lookup]
  | cons entry rest inductionHypothesis =>
    obtain ⟨candidate, present⟩ := entry
    rw [List.pairwise_cons] at ascending
    rw [lookup, List.mem_cons, Prod.mk.injEq, ← inductionHypothesis ascending.2]
    by_cases same : compare key candidate = .eq
    · obtain rfl : key = candidate := Std.LawfulEqCmp.eq_of_compare same
      have missing : lookup key rest = none := lookup_eq_none_of_lt ascending.1
      simp [missing, eq_comm]
    · have other : key ≠ candidate := fun equal => same (equal ▸ Std.ReflCmp.compare_self)
      simp [same, other]

theorem mem_entries_iff {map : SortedMap κ α} {key : κ} {value : α} :
    (key, value) ∈ map.entries ↔ map.get? key = some value :=
  (lookup_eq_some_iff map.ascending).symm

omit [Std.TransOrd κ] in
theorem nodup_keys (map : SortedMap κ α) : map.keys.Nodup := by
  refine List.pairwise_map.2 (map.ascending.imp fun {left right} below equal => ?_)
  have itself : compare right.1 right.1 = .eq := Std.ReflCmp.compare_self
  rw [equal, itself] at below
  cases below

/-- Where only the entry under a key gives anything, all entries together give what this one gives. -/
theorem flatMap_ite_eq {β : Type} [DecidableEq κ] {entries : List (κ × α)}
    (ascending : entries.Pairwise fun left right => compare left.1 right.1 = .lt) (key : κ) (give : α → List β) :
    (entries.flatMap fun entry => if entry.1 = key then give entry.2 else []) =
      ((lookup key entries).map give).getD [] := by
  induction entries with
  | nil => rfl
  | cons entry rest inductionHypothesis =>
    rw [List.pairwise_cons] at ascending
    rw [List.flatMap_cons, inductionHypothesis ascending.2, lookup]
    have found : compare key entry.1 = .eq ↔ entry.1 = key := Std.LawfulEqCmp.compare_eq_iff_eq.trans eq_comm
    by_cases same : entry.1 = key
    · have missing : lookup key rest = none := lookup_eq_none_of_lt (same ▸ ascending.1)
      rw [if_pos same, if_pos (found.2 same), missing]
      exact List.append_nil _
    · rw [if_neg same, if_neg (found.not.2 same), List.nil_append]

end Entries

section Insertion

variable [Std.TransOrd κ]

theorem insertAll_append (map : SortedMap κ α) (earlier later : List (κ × α)) :
    map.insertAll (earlier ++ later) = (map.insertAll earlier).insertAll later :=
  List.foldl_append

@[simp] theorem get?_insertAll (map : SortedMap κ α) (entries : List (κ × α)) (key : κ) :
    (map.insertAll entries).get? key = (lookupLast key entries).or (map.get? key) := by
  unfold insertAll
  induction entries generalizing map with
  | nil => simp
  | cons entry rest inductionHypothesis =>
    rw [List.foldl_cons, inductionHypothesis, get?_insert, lookupLast_cons, Option.or_assoc]
    congr 1
    split <;> simp

theorem get?_ofList (entries : List (κ × α)) (key : κ) :
    (ofList entries).get? key = lookupLast key entries := by
  simp [ofList]

/-- The entries of a map, in any order, make up the map. -/
theorem ofList_of_perm [Std.LawfulEqOrd κ] {entries : List (κ × α)} {map : SortedMap κ α}
    (perm : entries.Perm map.entries) : ofList entries = map :=
  ext_get? fun key => by
    rw [get?_ofList, lookupLast_of_perm perm (nodup_keys map), lookupLast_of_ascending map.ascending]
    rfl

/-- Entries with distinct keys are the entries of the map that they make up. -/
theorem entries_ofList_perm [Std.LawfulEqOrd κ] {entries : List (κ × α)} (distinct : (entries.map (·.1)).Nodup) :
    (ofList entries).entries.Perm entries := by
  refine (List.perm_ext_iff_of_nodup (nodup_keys (ofList entries)).of_map distinct.of_map).2 fun entry => ?_
  rw [← lookupLast_eq_some_iff distinct, ← get?_ofList, ← mem_entries_iff]

/-- Entries with distinct keys make up the same map in every order. -/
theorem ofList_eq_of_perm [Std.LawfulEqOrd κ] {entries reordered : List (κ × α)}
    (distinct : (entries.map (·.1)).Nodup) (perm : reordered.Perm entries) : ofList reordered = ofList entries :=
  ofList_of_perm (perm.trans (entries_ofList_perm distinct).symm)

@[simp] theorem get?_union (map other : SortedMap κ α) (key : κ) :
    (map.union other).get? key = (other.get? key).or (map.get? key) := by
  rw [union, get?_insertAll, lookupLast_of_ascending other.ascending]
  rfl

/-- The look-up after an insertion where keys that compare equal are equal. -/
theorem get?_insert_of_lawful [Std.LawfulEqOrd κ] [DecidableEq κ] (map : SortedMap κ α)
    (key other : κ) (value : α) :
    (map.insert key value).get? other = if other = key then some value else map.get? other := by
  simp [get?_insert]

/-- The last of two values stored under one key counts. -/
theorem insert_insert [Std.LawfulEqOrd κ] [DecidableEq κ] (map : SortedMap κ α) (key : κ) (first second : α) :
    (map.insert key first).insert key second = map.insert key second := by
  refine ext_get? fun other => ?_
  simp only [get?_insert_of_lawful]
  split <;> rfl

end Insertion

section Distinct

variable [Std.TransOrd κ] [Std.LawfulEqOrd κ]

theorem mem_keys_iff {map : SortedMap κ α} {key : κ} :
    key ∈ map.keys ↔ ∃ value, map.get? key = some value := by
  simp [keys, mem_entries_iff]

omit [Std.TransOrd κ] in
/-- Of keys with nothing under them those that are given are found. -/
theorem lookupLast_units {key : κ} {keys : List κ} :
    lookupLast key (keys.map fun given => (given, ())) = some () ↔ key ∈ keys := by
  have found : (lookupLast key (keys.map fun given => (given, ()))).isSome ↔
      ∃ given ∈ keys, compare key given = .eq := by
    simp [lookupLast]
  have isUnit (value : Option Unit) : value = some () ↔ value.isSome := by
    cases value <;> simp
  rw [isUnit, found]
  constructor
  · rintro ⟨given, member, same⟩
    rwa [Std.LawfulEqCmp.eq_of_compare same]
  · intro member
    exact ⟨key, member, Std.ReflCmp.compare_self⟩

theorem mem_distinct {key : κ} {keys : List κ} : key ∈ distinct keys ↔ key ∈ keys := by
  rw [distinct, mem_keys_iff, get?_ofList, ← lookupLast_units]
  exact ⟨fun ⟨_, found⟩ => found, fun found => ⟨(), found⟩⟩

omit [Std.LawfulEqOrd κ] in
/-- The distinct keys of a list are strictly ascending. -/
theorem ascending_distinct (keys : List κ) :
    (distinct keys).Pairwise fun left right => compare left right = .lt :=
  List.pairwise_map.2 (ofList (keys.map fun key => (key, ()))).ascending

/-- Lists with the same members have the same distinct keys. -/
theorem distinct_congr {keys others : List κ} (same : ∀ key, key ∈ keys ↔ key ∈ others) :
    distinct keys = distinct others := by
  have maps : ofList (keys.map fun key => (key, ())) = ofList (others.map fun key => (key, ())) := by
    refine ext_get? fun key => Option.ext fun _ => ?_
    rw [get?_ofList, get?_ofList, lookupLast_units, lookupLast_units, same key]
  rw [distinct, distinct, maps]

end Distinct

end SortedMap

end MeshControl
