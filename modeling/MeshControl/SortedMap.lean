/-!
# Maps in key order

A finite map is held as the list of its entries with strictly ascending keys, so every content has
one representation: maps with equal lookups are equal values (`SortedMap.ext_get?`), and reading a
map out is reading its entries in order. `SortedMap.get?_insert` is the only fact about insertion
that later modules need.
-/

namespace MeshControl

/-- A finite map from keys to values. -/
structure SortedMap (κ : Type) [Ord κ] (α : Type) where
  /-- The entries, smallest key first. -/
  entries : List (κ × α)
  /-- Every key is smaller than all later ones. -/
  ascending : entries.Pairwise fun left right => compare left.1 right.1 = .lt

/-- A map from text to values, ordered by code points and hence by UTF-8 bytes. -/
abbrev TextMap (α : Type) := SortedMap String α

/-- A map from text to text, as labels and annotations are. -/
abbrev Labels := TextMap String

namespace SortedMap

variable {κ : Type} [Ord κ] {α β : Type}

theorem ext_entries {left right : SortedMap κ α} (same : left.entries = right.entries) :
    left = right := by
  cases left
  cases right
  cases same
  rfl

instance [DecidableEq κ] [DecidableEq α] : DecidableEq (SortedMap κ α) := fun left right =>
  decidable_of_iff (left.entries = right.entries)
    ⟨ext_entries, fun equal => congrArg SortedMap.entries equal⟩

/-- The map without entries. -/
def empty : SortedMap κ α := ⟨[], .nil⟩

instance : EmptyCollection (SortedMap κ α) := ⟨empty⟩
instance : Inhabited (SortedMap κ α) := ⟨empty⟩

/-- The value of the first entry with the given key. -/
def lookup (key : κ) : List (κ × α) → Option α
  | [] => none
  | (candidate, value) :: rest => if compare key candidate = .eq then some value else lookup key rest

/-- The value stored under a key. -/
def get? (map : SortedMap κ α) (key : κ) : Option α := lookup key map.entries

/-- Whether a key has a value. -/
def contains (map : SortedMap κ α) (key : κ) : Bool := (map.get? key).isSome

/-- The number of keys. -/
def size (map : SortedMap κ α) : Nat := map.entries.length

/-- Whether no key has a value. -/
def isEmpty (map : SortedMap κ α) : Bool := map.entries.isEmpty

/-- The keys in ascending order. -/
def keys (map : SortedMap κ α) : List κ := map.entries.map (·.1)

/-- The values in ascending order of their keys. -/
def values (map : SortedMap κ α) : List α := map.entries.map (·.2)

/-- Puts an entry at its place in an ascending list, in place of one with an equal key. -/
def place (key : κ) (value : α) : List (κ × α) → List (κ × α)
  | [] => [(key, value)]
  | (candidate, present) :: rest =>
    match compare key candidate with
    | .lt => (key, value) :: (candidate, present) :: rest
    | .eq => (key, value) :: rest
    | .gt => (candidate, present) :: place key value rest

theorem mem_place {key : κ} {value : α} {entries : List (κ × α)} {entry : κ × α}
    (member : entry ∈ place key value entries) : entry = (key, value) ∨ entry ∈ entries := by
  induction entries with
  | nil => simpa [place] using member
  | cons head rest inductionHypothesis =>
    obtain ⟨candidate, present⟩ := head
    unfold place at member
    split at member <;> simp only [List.mem_cons] at member ⊢ <;> grind

theorem place_ascending [Std.TransOrd κ] {key : κ} {value : α} {entries : List (κ × α)}
    (ascending : entries.Pairwise fun left right => compare left.1 right.1 = .lt) :
    (place key value entries).Pairwise fun left right => compare left.1 right.1 = .lt := by
  induction entries with
  | nil => simp [place]
  | cons head rest inductionHypothesis =>
    obtain ⟨candidate, present⟩ := head
    rw [List.pairwise_cons] at ascending
    unfold place
    split
    · next below =>
      refine List.pairwise_cons.2 ⟨fun entry member => ?_, List.pairwise_cons.2 ascending⟩
      rcases List.mem_cons.1 member with rfl | later
      · exact below
      · exact Std.TransCmp.lt_trans below (ascending.1 entry later)
    · next equal =>
      refine List.pairwise_cons.2 ⟨fun entry member => ?_, ascending.2⟩
      rw [Std.TransCmp.congr_left equal]
      exact ascending.1 entry member
    · next above =>
      refine List.pairwise_cons.2 ⟨fun entry member => ?_, inductionHypothesis ascending.2⟩
      rcases mem_place member with rfl | earlier
      · exact Std.OrientedCmp.lt_of_gt above
      · exact ascending.1 entry earlier

theorem lookup_place [Std.TransOrd κ] (key other : κ) (value : α) (entries : List (κ × α)) :
    lookup other (place key value entries) =
      if compare other key = .eq then some value else lookup other entries := by
  induction entries with
  | nil => simp [place, lookup]
  | cons head rest inductionHypothesis =>
    obtain ⟨candidate, present⟩ := head
    unfold place
    split
    · simp [lookup]
    · next equal =>
      by_cases same : compare other candidate = .eq <;>
        simp [lookup, Std.TransCmp.congr_right equal, same]
    · next above =>
      simp only [lookup, inductionHypothesis]
      by_cases same : compare other key = .eq
      · simp [same, Std.TransCmp.congr_left same, above]
      · simp [same]

/-- Stores a value under a key, in place of what the key had. -/
def insert [Std.TransOrd κ] (map : SortedMap κ α) (key : κ) (value : α) : SortedMap κ α :=
  ⟨place key value map.entries, place_ascending map.ascending⟩

/-- Stores entries one after the other, so a later entry wins over an earlier one. -/
def insertAll [Std.TransOrd κ] (map : SortedMap κ α) (entries : List (κ × α)) : SortedMap κ α :=
  entries.foldl (fun map entry => map.insert entry.1 entry.2) map

/-- The map of the given entries; of equal keys the last entry counts. -/
def ofList [Std.TransOrd κ] (entries : List (κ × α)) : SortedMap κ α := empty.insertAll entries

/-- The union of two maps; the second wins where both have a key. -/
def union [Std.TransOrd κ] (map other : SortedMap κ α) : SortedMap κ α := map.insertAll other.entries

/-- The distinct keys of a list in ascending order. -/
def distinct [Std.TransOrd κ] (keys : List κ) : List κ := (ofList (keys.map fun key => (key, ()))).keys

/-- Changes the values of entries in order and keeps the keys. What becomes of a value may depend on those
before it. -/
def visitEntries {σ : Type} (visit : σ → α → β × σ) : σ → List (κ × α) → List (κ × β) × σ
  | state, [] => ([], state)
  | state, (key, value) :: rest =>
    let changed := visit state value
    let later := visitEntries visit changed.2 rest
    ((key, changed.1) :: later.1, later.2)

omit [Ord κ] in
theorem keys_visitEntries {σ : Type} (visit : σ → α → β × σ) (state : σ) (entries : List (κ × α)) :
    (visitEntries visit state entries).1.map (·.1) = entries.map (·.1) := by
  induction entries generalizing state with
  | nil => rfl
  | cons head rest inductionHypothesis => simp [visitEntries, inductionHypothesis]

theorem visitEntries_ascending {σ : Type} (visit : σ → α → β × σ) (state : σ) {entries : List (κ × α)}
    (ascending : entries.Pairwise fun left right => compare left.1 right.1 = .lt) :
    (visitEntries visit state entries).1.Pairwise fun left right => compare left.1 right.1 = .lt := by
  have keys : (entries.map (·.1)).Pairwise fun left right => compare left right = .lt :=
    List.pairwise_map.2 ascending
  rw [← keys_visitEntries visit state] at keys
  exact List.pairwise_map.1 keys

/-- Changes the values in the order of their keys and keeps the keys. -/
def visitValues {σ : Type} (visit : σ → α → β × σ) (state : σ) (map : SortedMap κ α) : SortedMap κ β × σ :=
  let changed := visitEntries visit state map.entries
  (⟨changed.1, visitEntries_ascending visit state map.ascending⟩, changed.2)

@[simp] theorem get?_empty (key : κ) : (empty : SortedMap κ α).get? key = none := rfl

/-- What stands in a map after an insertion was inserted or stood there before. -/
theorem mem_entries_insert [Std.TransOrd κ] {map : SortedMap κ α} {key : κ} {value : α} {entry : κ × α}
    (member : entry ∈ (map.insert key value).entries) : entry = (key, value) ∨ entry ∈ map.entries :=
  mem_place member

theorem insert_ne_empty [Std.TransOrd κ] (map : SortedMap κ α) (key : κ) (value : α) :
    map.insert key value ≠ ∅ := by
  intro same
  have found := lookup_place key key value map.entries
  rw [if_pos Std.ReflCmp.compare_self] at found
  have missing : lookup key (place key value map.entries) = none :=
    congrArg (fun map : SortedMap κ α => map.get? key) same
  exact Option.some_ne_none value (found.symm.trans missing)

theorem insertAll_ne_empty [Std.TransOrd κ] {map : SortedMap κ α} (occupied : map ≠ ∅)
    (entries : List (κ × α)) : map.insertAll entries ≠ ∅ := by
  unfold insertAll
  induction entries generalizing map with
  | nil => exact occupied
  | cons entry rest inductionHypothesis => exact inductionHypothesis (map.insert_ne_empty entry.1 entry.2)

/-- A union with a map that has keys has keys. -/
theorem union_ne_empty [Std.TransOrd κ] (map : SortedMap κ α) {other : SortedMap κ α}
    (occupied : other ≠ ∅) : map.union other ≠ ∅ := by
  unfold union
  cases present : other.entries with
  | nil => exact absurd (ext_entries present) occupied
  | cons entry rest => exact insertAll_ne_empty (map.insert_ne_empty entry.1 entry.2) rest

theorem visitValues_ne_empty {σ : Type} (visit : σ → α → β × σ) (state : σ) {map : SortedMap κ α}
    (occupied : map ≠ ∅) : (map.visitValues visit state).1 ≠ ∅ := by
  intro none
  have keys := keys_visitEntries visit state map.entries
  have noEntries : (visitEntries visit state map.entries).1 = [] := congrArg SortedMap.entries none
  rw [noEntries, List.map_nil, eq_comm, List.map_eq_nil_iff] at keys
  exact occupied (ext_entries keys)

omit [Ord κ] in
/-- What stands under a key after a visit has become of what stood there before. -/
theorem exists_of_mem_visitEntries {σ : Type} {visit : σ → α → β × σ} {state : σ} {entries : List (κ × α)}
    {entry : κ × β} (member : entry ∈ (visitEntries visit state entries).1) :
    ∃ reached value, (entry.1, value) ∈ entries ∧ (visit reached value).1 = entry.2 := by
  induction entries generalizing state with
  | nil => cases member
  | cons head rest inductionHypothesis =>
    rcases List.mem_cons.1 member with rfl | later
    · exact ⟨state, head.2, List.mem_cons_self, rfl⟩
    · obtain ⟨reached, value, inside, becomes⟩ := inductionHypothesis later
      exact ⟨reached, value, List.mem_cons_of_mem head inside, becomes⟩

theorem get?_insert [Std.TransOrd κ] (map : SortedMap κ α) (key other : κ) (value : α) :
    (map.insert key value).get? other =
      if compare other key = .eq then some value else map.get? other :=
  lookup_place key other value map.entries

theorem lookup_eq_none_of_lt [Std.TransOrd κ] {key : κ} {entries : List (κ × α)}
    (below : ∀ entry ∈ entries, compare key entry.1 = .lt) : lookup key entries = none := by
  induction entries with
  | nil => rfl
  | cons head rest inductionHypothesis =>
    simp only [List.mem_cons, forall_eq_or_imp] at below
    simp [lookup, below.1, inductionHypothesis below.2]

theorem eq_of_lookup_eq [Std.TransOrd κ] [Std.LawfulEqOrd κ] {left right : List (κ × α)}
    (leftAscending : left.Pairwise fun earlier later => compare earlier.1 later.1 = .lt)
    (rightAscending : right.Pairwise fun earlier later => compare earlier.1 later.1 = .lt)
    (same : ∀ key, lookup key left = lookup key right) : left = right := by
  induction left generalizing right with
  | nil =>
    cases right with
    | nil => rfl
    | cons head rest => simpa [lookup] using same head.1
  | cons first leftRest inductionHypothesis =>
    cases right with
    | nil => simpa [lookup] using same first.1
    | cons second rightRest =>
      rw [List.pairwise_cons] at leftAscending rightAscending
      have atFirst := same first.1
      have atSecond := same second.1
      have keys : first.1 = second.1 := by
        cases order : compare first.1 second.1 with
        | eq => exact Std.LawfulEqCmp.eq_of_compare order
        | lt =>
          have missing : lookup first.1 rightRest = none := lookup_eq_none_of_lt fun entry member =>
            Std.TransCmp.lt_trans order (rightAscending.1 entry member)
          simp [lookup, order, missing] at atFirst
        | gt =>
          have reverse : compare second.1 first.1 = .lt := Std.OrientedCmp.lt_of_gt order
          have missing : lookup second.1 leftRest = none := lookup_eq_none_of_lt fun entry member =>
            Std.TransCmp.lt_trans reverse (leftAscending.1 entry member)
          simp [lookup, reverse, missing] at atSecond
      have values : first.2 = second.2 := by simpa [lookup, keys] using atFirst
      have rests : leftRest = rightRest := by
        refine inductionHypothesis leftAscending.2 rightAscending.2 fun key => ?_
        by_cases equal : compare key first.1 = .eq
        · rw [lookup_eq_none_of_lt fun entry member => ?_,
            lookup_eq_none_of_lt fun entry member => ?_]
          · rw [Std.TransCmp.congr_left equal, keys]
            exact rightAscending.1 entry member
          · rw [Std.TransCmp.congr_left equal]
            exact leftAscending.1 entry member
        · have atKey := same key
          simpa [lookup, equal, ← keys] using atKey
      rw [Prod.ext keys values, rests]

/-- Maps that answer every lookup alike are equal. -/
theorem ext_get? [Std.TransOrd κ] [Std.LawfulEqOrd κ] {left right : SortedMap κ α}
    (same : ∀ key, left.get? key = right.get? key) : left = right :=
  ext_entries (eq_of_lookup_eq left.ascending right.ascending same)

end SortedMap

end MeshControl
