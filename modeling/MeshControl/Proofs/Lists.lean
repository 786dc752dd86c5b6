import Mathlib.Data.List.Forall2
import Mathlib.Data.List.Nodup
import Mathlib.Data.List.Perm.Basic

/-!
# Searches and checks of lists

A search that can find one member only finds it wherever it stands (`find?_eq_of_perm`). A check of all members of a
list has the results of the members, or the error of the first one that fails (`results_of_mapM`,
`mapM_eq_error_iff`).
-/

namespace MeshControl

section SoleMatch

variable {α β : Type} {list reordered : List α}

/-- If at most one member gives something, all orders of the members give the same. -/
theorem filterMap_eq_of_perm {give : α → Option β} (perm : reordered.Perm list)
    (sole : list.Pairwise fun first second => give first = none ∨ give second = none) :
    reordered.filterMap give = list.filterMap give := by
  have given : (reordered.filterMap give).Perm (list.filterMap give) := perm.filterMap give
  have apart : (list.filterMap give).Pairwise fun _ _ => False := by
    refine List.pairwise_filterMap.2 (sole.imp fun {first second} none value found other otherFound => ?_)
    rcases none with missing | missing
    · exact Option.some_ne_none value (found.symm.trans missing)
    · exact Option.some_ne_none other (otherFound.symm.trans missing)
  match list.filterMap give, apart, given with
  | [], _, given => exact given.eq_nil
  | [_], _, given => exact List.perm_singleton.1 given
  | _ :: _ :: _, apart, _ => exact absurd ((List.pairwise_cons.1 apart).1 _ List.mem_cons_self) id

/-- If at most one member gives something, a search finds the same in every order. -/
theorem findSome?_eq_of_perm {give : α → Option β} (perm : reordered.Perm list)
    (sole : list.Pairwise fun first second => give first = none ∨ give second = none) :
    reordered.findSome? give = list.findSome? give := by
  rw [← List.head?_filterMap, ← List.head?_filterMap, filterMap_eq_of_perm perm sole]

/-- If at most one member matches, the matches are the same in every order. -/
theorem filter_eq_of_perm {holds : α → Bool} (perm : reordered.Perm list)
    (sole : list.Pairwise fun first second => ¬ (holds first = true ∧ holds second = true)) :
    reordered.filter holds = list.filter holds := by
  rw [← List.filterMap_eq_filter]
  refine filterMap_eq_of_perm perm (sole.imp fun {first second} apart => ?_)
  rw [not_and_or] at apart
  simpa [Option.guard] using apart

/-- If at most one member matches, the first match is the same in every order. -/
theorem find?_eq_of_perm {holds : α → Bool} (perm : reordered.Perm list)
    (sole : list.Pairwise fun first second => ¬ (holds first = true ∧ holds second = true)) :
    reordered.find? holds = list.find? holds := by
  rw [← List.head?_filter, ← List.head?_filter, filter_eq_of_perm perm sole]

end SoleMatch

section FirstMatch

variable {α : Type}

/-- A member is reached if it comes first, or if the first one is passed and the member is reached after it. -/
theorem exists_passed_cons_iff {passes : α → Prop} {head member : α} {tail : List α} :
    (∃ passed rest, head :: tail = passed ++ member :: rest ∧ ∀ other ∈ passed, passes other) ↔
      member = head ∨
        passes head ∧ ∃ passed rest, tail = passed ++ member :: rest ∧ ∀ other ∈ passed, passes other := by
  constructor
  · rintro ⟨passed, rest, split, passing⟩
    cases passed with
    | nil => exact .inl (List.cons.inj split).1.symm
    | cons first passed =>
      obtain ⟨rfl, tails⟩ := List.cons.inj split
      rw [List.forall_mem_cons] at passing
      exact .inr ⟨passing.1, passed, rest, tails, passing.2⟩
  · rintro (rfl | ⟨passesHead, passed, rest, rfl, passing⟩)
    · exact ⟨[], tail, rfl, by simp⟩
    · exact ⟨head :: passed, rest, rfl, List.forall_mem_cons.2 ⟨passesHead, passing⟩⟩

/-- Where different members have different keys, the first member with a key is the one that has it. -/
theorem find?_eq_some_iff_of_apart {κ : Type} [DecidableEq κ] {keyOf : α → κ} {list : List α}
    (apart : ∀ member ∈ list, ∀ other ∈ list, keyOf member = keyOf other → member = other) {key : κ} {member : α} :
    (list.find? fun other => keyOf other = key) = some member ↔ member ∈ list ∧ keyOf member = key := by
  constructor
  · intro found
    exact ⟨List.mem_of_find?_eq_some found, by simpa using List.find?_some found⟩
  · rintro ⟨inside, rfl⟩
    cases found : list.find? fun other => keyOf other = keyOf member with
    | none => simpa using List.find?_eq_none.1 found member inside
    | some other =>
      have same : keyOf other = keyOf member := by simpa using List.find?_some found
      rw [apart other (List.mem_of_find?_eq_some found) member inside same]

end FirstMatch

section Checks

variable {ε α β : Type} {check : α → Except ε β} {list : List α}

/-- A list is checked member by member, up to the first error. -/
theorem mapM_cons_eq (check : α → Except ε β) (member : α) (list : List α) :
    (member :: list).mapM check =
      match check member with
      | .error error => .error error
      | .ok result => (list.mapM check).map (result :: ·) := by
  rw [List.mapM_cons]
  cases check member with
  | error error => rfl
  | ok result => cases list.mapM check <;> rfl

/-- The results of a check are those of the members. -/
theorem results_of_mapM {results : List β} (checked : list.mapM check = .ok results) :
    (∀ member ∈ list, ∃ result ∈ results, check member = .ok result) ∧
      ∀ result ∈ results, ∃ member ∈ list, check member = .ok result := by
  induction list generalizing results with
  | nil =>
    cases checked
    simp
  | cons member list inductionHypothesis =>
    rw [mapM_cons_eq] at checked
    cases made : check member with
    | error error => simp [made] at checked
    | ok result =>
      cases rest : list.mapM check with
      | error error => simp [made, rest, Except.map] at checked
      | ok others =>
        simp only [made, rest, Except.map, Except.ok.injEq] at checked
        obtain ⟨given, origins⟩ := inductionHypothesis rest
        subst checked
        rw [List.forall_mem_cons, List.forall_mem_cons]
        refine ⟨⟨⟨result, List.mem_cons_self, made⟩, fun other inside => ?_⟩,
          ⟨member, List.mem_cons_self, made⟩, fun other inside => ?_⟩
        · obtain ⟨found, among, ok⟩ := given other inside
          exact ⟨found, List.mem_cons_of_mem result among, ok⟩
        · obtain ⟨origin, among, ok⟩ := origins other inside
          exact ⟨origin, List.mem_cons_of_mem member among, ok⟩

theorem exists_mapM_of_forall (each : ∀ member ∈ list, ∃ result, check member = .ok result) :
    ∃ results, list.mapM check = .ok results := by
  induction list with
  | nil => exact ⟨[], rfl⟩
  | cons member list inductionHypothesis =>
    rw [List.forall_mem_cons] at each
    obtain ⟨result, made⟩ := each.1
    obtain ⟨results, rest⟩ := inductionHypothesis each.2
    exact ⟨result :: results, by rw [mapM_cons_eq, made, rest]; rfl⟩

/-- Checking fails with the error of the first member that fails. -/
theorem mapM_eq_error_iff {error : ε} :
    list.mapM check = .error error ↔ ∃ member, check member = .error error ∧
      ∃ earlier later, list = earlier ++ member :: later ∧
        ∀ other ∈ earlier, ∃ result, check other = .ok result := by
  induction list with
  | nil => simp [pure, Except.pure]
  | cons head list inductionHypothesis =>
    simp only [exists_passed_cons_iff]
    rw [mapM_cons_eq]
    cases made : check head with
    | error other =>
      dsimp only
      constructor
      · rintro failed
        cases failed
        exact ⟨head, made, .inl rfl⟩
      · rintro ⟨member, failed, rfl | ⟨⟨result, fine⟩, _⟩⟩
        · cases made.symm.trans failed
          rfl
        · cases fine
    | ok result =>
      have passed : (list.mapM check).map (result :: ·) = .error error ↔ list.mapM check = .error error := by
        cases list.mapM check <;> simp [Except.map]
      dsimp only
      rw [passed, inductionHypothesis]
      constructor
      · rintro ⟨member, failed, reached⟩
        exact ⟨member, failed, .inr ⟨⟨result, rfl⟩, reached⟩⟩
      · rintro ⟨member, failed, rfl | ⟨_, reached⟩⟩
        · cases made.symm.trans failed
        · exact ⟨member, failed, reached⟩

end Checks

section Forms

variable {α β : Type} {form? : α → Option β} {list : List α}

/-- A list has a form if each of its members has one. -/
theorem isSome_mapM (each : ∀ member ∈ list, (form? member).isSome = true) :
    (list.mapM form?).isSome = true := by
  induction list with
  | nil => rfl
  | cons member list inductionHypothesis =>
    rw [List.forall_mem_cons] at each
    obtain ⟨form, found⟩ := Option.isSome_iff_exists.1 each.1
    obtain ⟨forms, all⟩ := Option.isSome_iff_exists.1 (inductionHypothesis each.2)
    simp [found, all]

/-- A list has the forms of its members, each at its place. -/
theorem mapM_eq_some_iff {forms : List β} :
    list.mapM form? = some forms ↔ List.Forall₂ (fun member form => form? member = some form) list forms := by
  induction list generalizing forms with
  | nil => rw [List.mapM_nil, List.forall₂_nil_left_iff, Option.pure_def, Option.some.injEq, eq_comm]
  | cons member list inductionHypothesis =>
    simp only [List.mapM_cons, Option.bind_eq_bind, Option.bind_eq_some_iff, Option.pure_def, Option.some.injEq,
      List.forall₂_cons_left_iff, inductionHypothesis, exists_and_left, @eq_comm _ forms]

/-- A list of forms has as many members. -/
theorem length_of_mapM {forms : List β} (all : list.mapM form? = some forms) :
    forms.length = list.length :=
  (mapM_eq_some_iff.1 all).length_eq.symm

end Forms

end MeshControl
