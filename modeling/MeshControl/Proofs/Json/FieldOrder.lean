import MeshControl.Json

/-!
# The order of fields

The fields of an object mean the same in any order. `Json.FieldOrder.arranged` puts the fields of every
object of a value, at any depth, in an order of one's choice. One may choose to leave all fields as they
are written (`Json.FieldOrder.arranged_written`).
-/

namespace MeshControl.Json

/-- A choice of an order for the fields of objects. -/
structure FieldOrder where
  arrange : List (String × Json) → List (String × Json)
  /-- No field is lost, added or changed. -/
  perm : ∀ fields, (arrange fields).Perm fields

namespace FieldOrder

mutual

/-- The value with the fields of every object in the chosen order. -/
def arranged (order : FieldOrder) : Json → Json
  | .list items => .list (order.arrangedItems items)
  | .object fields => .object (order.arrange (order.arrangedFields fields))
  | .null => .null
  | .broken => .broken
  | .bool value => .bool value
  | .natural value => .natural value
  | .number literal => .number literal
  | .text value => .text value

/-- Items with the fields of every object in the chosen order. -/
def arrangedItems (order : FieldOrder) : List Json → List Json
  | [] => []
  | item :: items => order.arranged item :: order.arrangedItems items

/-- Fields at their places, whose values have the fields of every object in the chosen order. -/
def arrangedFields (order : FieldOrder) : List (String × Json) → List (String × Json)
  | [] => []
  | (name, value) :: fields => (name, order.arranged value) :: order.arrangedFields fields

end

variable (order : FieldOrder)

theorem arrangedItems_eq_map (items : List Json) : order.arrangedItems items = items.map order.arranged := by
  induction items with
  | nil => simp [arrangedItems]
  | cons item items inductionHypothesis => rw [arrangedItems, inductionHypothesis, List.map_cons]

theorem arrangedFields_eq_map (fields : List (String × Json)) :
    order.arrangedFields fields = fields.map fun field => (field.1, order.arranged field.2) := by
  induction fields with
  | nil => simp [arrangedFields]
  | cons field fields inductionHypothesis => rw [arrangedFields, inductionHypothesis, List.map_cons]

/-- The fields of an arranged object are the arranged fields. -/
theorem arrange_arrangedFields_perm (fields : List (String × Json)) :
    (order.arrange (order.arrangedFields fields)).Perm
      (fields.map fun field => (field.1, order.arranged field.2)) :=
  order.arrangedFields_eq_map fields ▸ order.perm _

/-- All fields stay where they are written. -/
def written : FieldOrder := ⟨id, fun _ => .refl _⟩

mutual

/-- A value whose fields stay where they are is the value itself. -/
theorem arranged_written : (value : Json) → written.arranged value = value
  | .list items => by rw [arranged, arrangedItems_written items]
  | .object fields => by rw [arranged, arrangedFields_written fields]; rfl
  | .null | .broken | .bool _ | .natural _ | .number _ | .text _ => by rw [arranged]

theorem arrangedItems_written : (items : List Json) → written.arrangedItems items = items
  | [] => by rw [arrangedItems]
  | item :: items => by rw [arrangedItems, arranged_written item, arrangedItems_written items]

theorem arrangedFields_written : (fields : List (String × Json)) → written.arrangedFields fields = fields
  | [] => by rw [arrangedFields]
  | (name, value) :: fields => by rw [arrangedFields, arranged_written value, arrangedFields_written fields]

end

end FieldOrder

end MeshControl.Json
