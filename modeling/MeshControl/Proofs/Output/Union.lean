import Mathlib.Data.Finset.Card
import MeshControl.Proofs.Output.Canonical

/-!
# Merging is a union in which the second snapshot wins

The laws of `OutputSnapshot.merge` follow from what it does to look-ups (`get?_merge`): two snapshots with one
name that answer alike are equal, per-type groups included. Only the laws on the list of objects and on their
number need that objects are held at their own identities.
-/

namespace MeshControl.OutputSnapshot

/-- The identities of the objects of a snapshot. -/
def identities (snapshot : OutputSnapshot) : Finset ObjectId := (snapshot.objects.map OutputObject.id).toFinset

section Union

variable (first second third : OutputSnapshot)

theorem merge_assoc : (first.merge second).merge third = first.merge (second.merge third) :=
  ext_get? rfl fun id => by simp only [get?_merge, Option.or_assoc]

theorem merge_self : first.merge first = first :=
  ext_get? rfl fun id => by rw [get?_merge, Option.or_self]

/-- Merging a snapshot once more changes nothing. -/
theorem merge_merge_self : (first.merge second).merge second = first.merge second := by
  rw [merge_assoc, merge_self]

/-- To add objects is to merge a snapshot of them. -/
theorem addAll_eq_merge (name : String) (objects : List OutputObject) :
    first.addAll objects = first.merge (({ name } : OutputSnapshot).addAll objects) :=
  ext_get? (by simp) fun id => by simp only [get?_merge, get?_addAll, get?_nameOnly, Option.or_none]

variable {first second}

/-- Snapshots without objects are units, apart from their names. -/
theorem objects_merge_of_isEmpty (empty : second.isEmpty = true) :
    (first.merge second).objects = first.objects ∧ (second.merge first).objects = first.objects := by
  have without : second.byId = ∅ := second.byId.isEmpty_iff.1 empty
  simp only [objects, merge, without, ObjectMap.union_empty, ObjectMap.empty_union, and_self]

section Filed

variable (filed : Filed first) (secondFiled : Filed second)
include filed

theorem Filed.mem_identities {id : ObjectId} : id ∈ first.identities ↔ ∃ object, first.get? id = some object := by
  simp only [identities, List.mem_toFinset, List.mem_map, filed.get?_eq_some_iff]

theorem Filed.card_identities : first.identities.card = first.size := by
  have distinct : (first.objects.map OutputObject.id).Nodup := filed.map_id_objects ▸ first.byId.nodup_keys
  rw [identities, List.toFinset_card_of_nodup distinct, List.length_map]
  exact first.byId.size_eq.symm

include secondFiled

theorem Filed.identities_merge : (first.merge second).identities = first.identities ∪ second.identities := by
  ext id
  rw [Finset.mem_union, (filed.merge secondFiled).mem_identities, filed.mem_identities, secondFiled.mem_identities]
  simp only [get?_merge, Option.or_eq_some_iff]
  cases second.get? id <;> simp

/-- A union counts the identities of both snapshots, and those of both only once. -/
theorem Filed.size_merge :
    (first.merge second).size + (first.identities ∩ second.identities).card = first.size + second.size := by
  rw [← (filed.merge secondFiled).card_identities, filed.identities_merge secondFiled,
    Finset.card_union_add_card_inter, filed.card_identities, secondFiled.card_identities]

/-- The order in which two snapshots are merged does not matter exactly if they agree where both hold an
object. -/
theorem Filed.objects_merge_comm_iff :
    (first.merge second).objects = (second.merge first).objects ↔
      ∀ id object other, first.get? id = some object → second.get? id = some other → object = other := by
  constructor
  · intro same id object other held otherHeld
    have replaced : (first.merge second).get? id = some other := by
      rw [get?_merge, otherHeld, Option.some_or]
    rw [(filed.merge secondFiled).get?_eq_some_iff, same, ← (secondFiled.merge filed).get?_eq_some_iff, get?_merge,
      held, Option.some_or] at replaced
    exact Option.some.inj replaced
  · intro agree
    refine congrArg ObjectMap.values (ObjectMap.ext_get? fun id => ?_)
    rw [← get?, ← get?, get?_merge, get?_merge]
    cases held : first.get? id with
    | none => rw [Option.or_none, Option.none_or]
    | some object =>
      cases otherHeld : second.get? id with
      | none => rw [Option.or_none, Option.none_or]
      | some other => rw [Option.some_or, Option.some_or, agree id object other held otherHeld]

end Filed

end Union

/-- Merging is associative and idempotent, has snapshots without objects as units, and lets the second snapshot
win at the identities of both; adding objects after others is merging a snapshot of them; and the order of two
snapshots does not matter exactly if they hold equal objects where both hold one. -/
theorem merge_is_biased_union {first second : OutputSnapshot} (firstBuilt : Built first)
    (secondBuilt : Built second) (third : OutputSnapshot) :
    (first.merge second).merge third = first.merge (second.merge third) ∧
      (∀ unit : OutputSnapshot, unit.isEmpty = true →
        (first.merge unit).objects = first.objects ∧ (unit.merge first).objects = first.objects) ∧
      first.merge first = first ∧
      (first.merge second).merge second = first.merge second ∧
      (∀ id, (first.merge second).get? id = (second.get? id).or (first.get? id)) ∧
      (first.merge second).size + (first.identities ∩ second.identities).card = first.size + second.size ∧
      (∀ name other earlier later,
        (({ name } : OutputSnapshot).addAll earlier).addAll later =
          (({ name } : OutputSnapshot).addAll earlier).merge (({ name := other } : OutputSnapshot).addAll later)) ∧
      ((first.merge second).objects = (second.merge first).objects ↔
        ∀ id object other, first.get? id = some object → second.get? id = some other → object = other) :=
  ⟨merge_assoc first second third, fun _ empty => objects_merge_of_isEmpty empty, merge_self first,
    merge_merge_self first second, get?_merge first second, firstBuilt.filed.size_merge secondBuilt.filed,
    fun _ other _ later => addAll_eq_merge _ other later,
    firstBuilt.filed.objects_merge_comm_iff secondBuilt.filed⟩

section Overlapping

private def ruleOn (cluster name : String) (action : Option AuthorizationAction) : OutputObject :=
  .authorizationPolicy { metadata := { name, ns := "istio-system", cluster }, spec := { action } }

private def certificateOn (cluster : String) : OutputObject :=
  .secret { metadata := { name := "ca", ns := "orbit", cluster } }

/-- Three snapshots of which all share one identity. Merging all of them keeps five objects, and the order of the
first two matters, since they hold different policies there. -/
theorem merge_is_biased_union_overlapping :
    let first := ((({ name := "a" } : OutputSnapshot).add (ruleOn "east" "x" none)).add
      (ruleOn "east" "shared" none)).add (certificateOn "east")
    let second := (({ name := "b" } : OutputSnapshot).add (ruleOn "east" "shared" (some .allow))).add
      (ruleOn "west" "y" none)
    let third := (({ name := "c" } : OutputSnapshot).add (ruleOn "east" "shared" (some .deny))).add
      (certificateOn "west")
    Built first ∧ Built second ∧
      (first.merge (second.merge third)).get? ⟨.authorizationPolicy, "east", "istio-system", "shared"⟩ =
        some (ruleOn "east" "shared" (some .deny)) ∧
      (first.merge second).size + 1 = 3 + 2 ∧
      (first.merge second).objects ≠ (second.merge first).objects := by
  intro first second third
  have firstBuilt : Built first := .add (.add (.add (.new "a") _) _) _
  have secondBuilt : Built second := .add (.add (.new "b") _) _
  obtain ⟨assoc, _, _, _, _, count, _, commute⟩ := merge_is_biased_union firstBuilt secondBuilt third
  refine ⟨firstBuilt, secondBuilt, ?_, ?_, ?_⟩
  · rw [← assoc]
    decide +kernel
  · have shared : (first.identities ∩ second.identities).card = 1 := by decide +kernel
    have sizes : first.size = 3 ∧ second.size = 2 := by decide +kernel
    rw [shared, sizes.1, sizes.2] at count
    exact count
  · intro same
    have agree := commute.1 same ⟨.authorizationPolicy, "east", "istio-system", "shared"⟩
      (ruleOn "east" "shared" none) (ruleOn "east" "shared" (some .allow)) (by decide +kernel) (by decide +kernel)
    exact absurd agree (by decide +kernel)

end Overlapping

end MeshControl.OutputSnapshot
