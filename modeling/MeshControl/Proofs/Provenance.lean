import MeshControl.Proofs.Json.RoundTrip
import MeshControl.Proofs.Reading.Records
import MeshControl.Provenance

/-!
# Labels and parents

Labels and parents are added to an object without a change of its identity. Parents are read back from their
text (`Parents.parse?_compact`), so that an object has the parents that were added to it
(`parents_appendParent`). A new object is `Stamped` with the labels of its maker and with a single parent.
-/

namespace MeshControl

namespace Metadata

variable (metadata : Metadata) (labels : Labels)

@[simp] theorem addLabels_name : (metadata.addLabels labels).name = metadata.name := rfl

@[simp] theorem addLabels_ns : (metadata.addLabels labels).ns = metadata.ns := rfl

@[simp] theorem addLabels_cluster : (metadata.addLabels labels).cluster = metadata.cluster := rfl

end Metadata

namespace Provenance

variable (metadata : Metadata) (kind : String) (parent : ObjectRef)

@[simp] theorem appendParent_name : (appendParent metadata kind parent).name = metadata.name := rfl

@[simp] theorem appendParent_ns : (appendParent metadata kind parent).ns = metadata.ns := rfl

@[simp] theorem appendParent_cluster : (appendParent metadata kind parent).cluster = metadata.cluster := rfl

namespace Parents

variable (parents : Parents)

theorem written_toJson : parents.toJson.Written := by
  have ref (parent : ObjectRef) : parent.toJson.Written := by
    refine .object fun field member => ?_
    simp only [List.mem_cons, List.not_mem_nil, or_false] at member
    rcases member with rfl | rfl
    · exact .text _
    · exact .text _
  refine .object fun field member => ?_
  obtain ⟨entry, _, rfl⟩ := List.mem_map.1 member
  refine .list fun item inside => ?_
  obtain ⟨parent, _, rfl⟩ := List.mem_map.1 inside
  exact ref parent

/-- Parents are read back from their text. -/
theorem parse?_compact : parse? parents.toJson.compact = some parents := by
  have read : Reading.mapOf (Reading.listOf ObjectRef.read) parents.toJson = pure parents := by
    have refs := Json.FieldOrder.written.plain.mapOf
      (Json.FieldOrder.written.plain.items (ObjectRef.read_toJson Json.FieldOrder.written.plain)) parents
    rwa [Json.FieldOrder.plain_written_of] at refs
  rw [parse?, Json.parse?_compact (written_toJson parents), Option.bind_eq_bind, Option.bind_some,
    Json.decode_of_eq_pure read]
  rfl

end Parents

/-- An object with an added parent has this one besides those that it had. -/
theorem parents_appendParent :
    parents (appendParent metadata kind parent) = (parents metadata).add kind parent := by
  have annotation : (appendParent metadata kind parent).annotations.get? parentsAnnotation =
      some ((parents metadata).add kind parent).toJson.compact := by
    rw [appendParent, Metadata.annotate, SortedMap.get?_insert_of_lawful, if_pos rfl]
  rw [parents, annotation, Option.bind_some, Parents.parse?_compact, Option.getD_some]

/-- The label of the agent comes before that of the maker. -/
theorem entries_madeBy (maker : String) :
    (madeBy maker).entries = [("agent.orbit.dev", "orbit"), ("translator.orbit.dev", maker)] := by
  have order : compare makerLabel agentLabel = .gt := by decide +kernel
  simp only [madeBy, SortedMap.ofList, SortedMap.insertAll, List.foldl_cons, List.foldl_nil, SortedMap.insert,
    SortedMap.empty, SortedMap.place, order]
  rfl

/-- An object has the label of the agent and that of its maker and no others, and one parent of one kind. -/
structure Stamped (metadata : Metadata) (maker kind : String) (parent : ObjectRef) : Prop where
  labels : metadata.labels.entries = [("agent.orbit.dev", "orbit"), ("translator.orbit.dev", maker)]
  parents : (parents metadata).entries = [(kind, [parent])]

/-- A new object is stamped by its maker. -/
theorem stamped_of_new {metadata : Metadata} (maker kind : String) (parent : ObjectRef)
    (noLabels : metadata.labels = ∅) (noAnnotations : metadata.annotations = ∅) :
    Stamped (appendParent (metadata.addLabels (madeBy maker)) kind parent) maker kind parent := by
  constructor
  · have labels : (appendParent (metadata.addLabels (madeBy maker)) kind parent).labels = madeBy maker := by
      have added : (appendParent (metadata.addLabels (madeBy maker)) kind parent).labels =
          metadata.labels.union (madeBy maker) := rfl
      refine SortedMap.ext_get? fun key => ?_
      rw [added, SortedMap.get?_union, noLabels]
      exact Option.or_none
    rw [labels, entries_madeBy]
  · have annotations : (metadata.addLabels (madeBy maker)).annotations = ∅ := noAnnotations
    rw [parents_appendParent, Provenance.parents, annotations]
    rfl

end Provenance

end MeshControl
