import MeshControl.Output.Object
import MeshControl.Proofs.Reading.Records

/-!
# Generated objects read back

What is written of an authorization policy or a secret is read back by its kind. No part of a policy that
is absent is taken for one that is empty, nor the other way round, unless the two are the same policy.

The main result is `objects_read_back`: JSON holds the object that was written, and different objects have
different JSON, whatever the order of fields.
-/

namespace MeshControl

open Reading

section Parts

variable {ν : Type} [Readable ν] (p : Presentation ν)

theorem AuthorizationAction.read_toJson (action : AuthorizationAction) :
    read (p.of action.toJson) = pure action :=
  p.constantOf (by cases action <;> rfl)

theorem Operation.read_toJson (operation : Operation) : read (p.of operation.toJson) = pure operation := by
  obtain ⟨ports, methods, paths⟩ := operation
  refine p.record (.seq (.seq (.map mk
    (.items ?_ p.text))
    (.items ?_ p.text))
    (.items ?_ p.text)) <;> simp [Json.texts]

namespace Rule

theorem readSource_sourceToJson (principals : List String) :
    readSource (p.of (sourceToJson principals)) = pure principals := by
  have source : record (withDefault "principals" [] (listOf Readable.text)) (p.of (.object
      (Json.fieldUnless principals.isEmpty "principals" (.texts principals)))) = pure principals := by
    refine p.record (.items ?_ p.text)
    simp [Json.texts]
  refine p.record (.required ?_ source)
  simp

theorem readOperation_operationToJson (operation : Operation) :
    readOperation (p.of (operationToJson operation)) = pure operation := by
  refine p.record (.required ?_ (operation.read_toJson p))
  simp

theorem read_toJson (rule : Rule) : read (p.of rule.toJson) = pure rule := by
  obtain ⟨sources, operations⟩ := rule
  refine p.record (.seq (.map mk
    (.items ?_ (readSource_sourceToJson p)))
    (.items ?_ (readOperation_operationToJson p))) <;> simp

end Rule

namespace AuthorizationSpec

theorem readSelector_selectorToJson (labels : Labels) :
    readSelector (p.of (selectorToJson labels)) = pure labels := by
  refine p.record (.present ∅ ?_ (p.labelMap labels))
  simp

theorem read_toJson (spec : AuthorizationSpec) : read (p.of spec.toJson) = pure spec := by
  obtain ⟨selector, action, rules⟩ := spec
  refine p.record (.seq (.seq (.map mk
    (.optional ?_ (readSelector_selectorToJson p) fun _ => nofun))
    (.optional ?_ (AuthorizationAction.read_toJson p) fun _ => nofun))
    (.items ?_ (Rule.read_toJson p))) <;> simp

end AuthorizationSpec

/-- The fields of a policy, also among those of an object that holds more. -/
theorem AuthorizationPolicy.yields_fields (policy : AuthorizationPolicy) :
    p.Yields policy.jsonFields fields policy := by
  obtain ⟨metadata, spec⟩ := policy
  refine .seq (.map mk
    (.required ?_ (metadata.read_toJson p)))
    (.present {} ?_ (spec.read_toJson p)) <;> simp [jsonFields]

end Parts

/-- Neither body of an object has a field for the kind, so the kind takes nothing away from it. -/
theorem OutputObject.read_toJson (order : Json.FieldOrder) (object : OutputObject) :
    read (order.arranged object.toJson) = pure object := by
  cases object with
  | authorizationPolicy policy =>
    exact order.readKind_arranged rfl (by simp [AuthorizationPolicy.jsonFields])
      ((policy.yields_fields order.held).map _)
  | secret secret =>
    exact order.readKind_arranged rfl (by simp [Secret.jsonFields]) ((secret.yields_fields order.held).map _)

/-- JSON holds the object that was written, in whatever order the fields stand, so objects have the same
JSON, even with fields in different orders, only if they are the same. -/
theorem objects_read_back :
    (∀ (order : Json.FieldOrder) (object : OutputObject),
      Json.decode OutputObject.read (order.arranged object.toJson) = .ok object) ∧
    ∀ left right : OutputObject,
      (∃ order other : Json.FieldOrder, order.arranged left.toJson = other.arranged right.toJson) ↔
        left = right := by
  have decoded (order : Json.FieldOrder) (object : OutputObject) :
      Json.decode OutputObject.read (order.arranged object.toJson) = .ok object :=
    Json.decode_of_eq_pure (object.read_toJson order)
  refine ⟨decoded, fun left right => ⟨?_, ?_⟩⟩
  · rintro ⟨order, other, same⟩
    have results := congrArg (Json.decode OutputObject.read) same
    rw [decoded, decoded] at results
    exact Except.ok.inj results
  · rintro rfl
    exact ⟨.written, .written, rfl⟩

/-- A policy for all workloads has no selector, and one for workloads with any labels has one without labels. -/
example : AuthorizationSpec.toJson {} = .object [] ∧ AuthorizationSpec.toJson { selector := some ∅ } =
    .object [("selector", .object [("matchLabels", .object [])])] := ⟨rfl, rfl⟩

end MeshControl
