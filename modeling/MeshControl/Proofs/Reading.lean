import MeshControl.Json.Read
import MeshControl.Proofs.Json.FieldOrder
import MeshControl.Proofs.SortedMap

/-!
# Reading what is written

A reader reads back what is written of a value, whoever hands it over. A `Presentation` is a way to hand
JSON values to a reader: as they are, with the fields of objects in any order
(`Json.FieldOrder.plain`), or held until the kind of an object is known (`Json.FieldOrder.held`).

`Presentation.Yields` says what a description of fields makes of written ones. There is one lemma for
each kind of field and of value, so that the fields of a record are gone through one by one.
-/

namespace MeshControl

namespace Reading

/-! ## Fields by name -/

section ByName

variable {ν α : Type}

/-- The values of the fields with a given name. -/
def valuesOf (name : String) (fields : List (String × α)) : List α :=
  (fields.filter fun field => field.1 = name).map (·.2)

@[simp] theorem valuesOf_nil (name : String) : valuesOf name ([] : List (String × α)) = [] := rfl

@[simp] theorem valuesOf_cons (name : String) (field : String × α) (fields : List (String × α)) :
    valuesOf name (field :: fields) =
      if field.1 = name then field.2 :: valuesOf name fields else valuesOf name fields := by
  by_cases named : field.1 = name <;> simp [valuesOf, named]

@[simp] theorem valuesOf_append (name : String) (fields more : List (String × α)) :
    valuesOf name (fields ++ more) = valuesOf name fields ++ valuesOf name more := by
  simp [valuesOf]

@[simp] theorem valuesOf_fieldUnless (name : String) (empty : Bool) (other : String) (value : Json) :
    valuesOf name (Json.fieldUnless empty other value) =
      if other = name ∧ empty = false then [value] else [] := by
  cases empty <;> simp [Json.fieldUnless]

@[simp] theorem valuesOf_fieldOf? (name other : String) (write : α → Json) (value : Option α) :
    valuesOf name (Json.fieldOf? other write value) =
      if other = name then (value.map write).toList else [] := by
  cases value <;> simp [Json.fieldOf?]

theorem valuesOf_map {β : Type} (change : α → β) (name : String) (fields : List (String × α)) :
    valuesOf name (fields.map fun field => (field.1, change field.2)) = (valuesOf name fields).map change := by
  simp [valuesOf, List.filter_map, Function.comp_def]

theorem valuesOf_perm {fields more : List (String × α)} (perm : fields.Perm more) (name : String) :
    (valuesOf name fields).Perm (valuesOf name more) :=
  (perm.filter _).map _

/-- Fields without a name, after those with this name are taken out, are all fields. -/
theorem filter_eq_self_of_valuesOf_eq_nil {name : String} {fields : List (String × α)}
    (none : valuesOf name fields = []) : (fields.filter fun field => field.1 ≠ name) = fields := by
  rw [valuesOf, List.map_eq_nil_iff, List.filter_eq_nil_iff] at none
  exact List.filter_eq_self.2 fun field member => by simpa using none field member

theorem map_occurrences (name : String) (entries : List (String × ν)) :
    (occurrences name entries).map (·.2) = valuesOf name entries := by
  have placed (start : Nat) : ((entries.zipIdx start).filterMap fun entry =>
      if entry.1.1 = name then some (entry.2, entry.1.2) else none).map (·.2) = valuesOf name entries := by
    induction entries generalizing start with
    | nil => rfl
    | cons entry entries inductionHypothesis =>
      by_cases named : entry.1 = name <;> simp [named, inductionHypothesis]
  exact placed 0

theorem single_of_valuesOf_eq_nil {name : String} {entries : List (String × ν)}
    (missing : valuesOf name entries = []) (read : Reads ν α) : single name read entries = pure none := by
  rw [← map_occurrences, List.map_eq_nil_iff] at missing
  rw [single, missing]

theorem single_of_valuesOf_eq_singleton {name : String} {entries : List (String × ν)} {value : ν}
    (one : valuesOf name entries = [value]) {read : Reads ν α} {result : α}
    (reads : read value = pure result) : single name read entries = pure (some result) := by
  rw [← map_occurrences, List.map_eq_singleton_iff] at one
  obtain ⟨⟨position, other⟩, one, rfl⟩ := one
  rw [single, one]
  simp only [reads]
  rfl

end ByName

/-! ## Lists and attempts that succeed -/

/-- A list that is a rearranged image is the image of a rearranged list. -/
theorem exists_perm_of_perm_map {α β : Type} {f : α → β} {list : List β} {members : List α}
    (perm : list.Perm (members.map f)) : ∃ reordered : List α, reordered.Perm members ∧ list = reordered.map f := by
  have image : List.Forall₂ (fun result member => result = f member) (members.map f) members :=
    List.forall₂_map_left_iff.2 (List.forall₂_same.2 fun _ _ => rfl)
  obtain ⟨reordered, results, perm⟩ := List.perm_comp_forall₂ perm image
  exact ⟨reordered, perm, List.forall₂_eq_eq_eq ▸ List.forall₂_map_right_iff.2 results⟩

/-- A list of attempts that each give a result gives the results. -/
theorem mapM_eq_pure {α β : Type} {attempt : α → Attempt β} (result : α → β) {list : List α}
    (each : ∀ member ∈ list, attempt member = pure (result member)) :
    list.mapM attempt = pure (list.map result) := by
  induction list with
  | nil => rfl
  | cons member list inductionHypothesis =>
    rw [List.forall_mem_cons] at each
    rw [List.mapM_cons, each.1, inductionHypothesis each.2, pure_bind, pure_bind, List.map_cons]

/-- Fields that are read without following a reference are the fields of the entries. -/
theorem ofEntries_of_run_eq_pure {ν α : Type} {fields : Fields ν α} {entries : List (String × ν)} {result : α}
    (run : fields.run entries = pure result) : ofEntries fields entries = pure result := by
  funext budget
  rw [ofEntries, run]
  rfl

/-! ## Presentations -/

/-- A way to hand JSON values to a reader, such that it finds all that they hold. -/
structure Presentation (ν : Type) [Readable ν] where
  of : Json → ν
  /-- The entries of an object with the given fields. -/
  fieldsOf : List (String × Json) → List (String × ν)
  perm : ∀ fields, (fieldsOf fields).Perm (fields.map fun field => (field.1, of field.2))
  text : ∀ value, Readable.text (of (.text value)) = pure value
  natural : ∀ value, Readable.natural (of (.natural value)) = pure value
  list : ∀ items, Readable.list (of (.list items)) = pure (items.map of)
  parts : ∀ names fields, Readable.parts names (of (.object fields)) = pure (.named (fieldsOf fields))
  entries : ∀ fields, Readable.entries (of (.object fields)) = pure (fieldsOf fields)
  present : ∀ value, value ≠ .null → Readable.present (of value) = pure (some (of value))
  constant : ∀ names name, Readable.constant names (of (.text name)) = pure (name, none)
  keyed : ∀ name value, Readable.keyed (of (.object [(name, value)])) = pure ⟨name, some (of value), false⟩

namespace Presentation

variable {ν : Type} [Readable ν] (p : Presentation ν) {α β : Type}

/-- What a description of fields reads of the written ones, in whatever order they are handed over. Each field
looks for its own name only, so a description is taken apart by `Yields.map` and `Yields.seq` into fields that
are settled one by one. -/
def Yields (written : List (String × Json)) (fields : Fields ν α) (result : α) : Prop :=
  ∀ entries : List (String × ν), entries.Perm (written.map fun field => (field.1, p.of field.2)) →
    fields.run entries = pure result

section Fields

variable {p} {written : List (String × Json)} {name : String} {value : Json} {read : Reads ν α} {result : α}

theorem Yields.map {fields : Fields ν α} (make : α → β) (yields : p.Yields written fields result) :
    p.Yields written (make <$> fields) (make result) := by
  intro entries perm
  funext budget
  show Fields.run ((pure make : Fields ν (α → β)).both fields) entries budget = _
  simp only [Fields.both, yields entries perm]
  rfl

theorem Yields.seq {first : Fields ν (α → β)} {second : Fields ν α} {make : α → β}
    (yields : p.Yields written first make) (more : p.Yields written second result) :
    p.Yields written (first <*> second) (make result) := by
  intro entries perm
  funext budget
  show Fields.run (first.both second) entries budget = _
  simp only [Fields.both, yields entries perm, more entries perm]
  rfl

/-- A name with no written field has no entry. -/
theorem valuesOf_eq_nil {entries : List (String × ν)}
    (perm : entries.Perm (written.map fun field => (field.1, p.of field.2)))
    (missing : valuesOf name written = []) : valuesOf name entries = [] := by
  have same := valuesOf_perm perm name
  rw [valuesOf_map, missing] at same
  exact List.perm_nil.1 same

/-- A name with one written field has one entry. -/
theorem valuesOf_eq_singleton {entries : List (String × ν)}
    (perm : entries.Perm (written.map fun field => (field.1, p.of field.2)))
    (one : valuesOf name written = [value]) : valuesOf name entries = [p.of value] := by
  have same := valuesOf_perm perm name
  rw [valuesOf_map, one] at same
  exact List.perm_singleton.1 same

/-- A field that must be there. -/
theorem Yields.required (one : valuesOf name written = [value]) (reads : read (p.of value) = pure result) :
    p.Yields written (Reading.required name read) result := by
  intro entries perm
  simp only [Reading.required, single_of_valuesOf_eq_singleton (valuesOf_eq_singleton perm one) reads, pure_bind]

/-- A field with a default that is written nevertheless. -/
theorem Yields.present (default : α) (one : valuesOf name written = [value])
    (reads : read (p.of value) = pure result) :
    p.Yields written (withDefault name default read) result := by
  intro entries perm
  simp only [withDefault, single_of_valuesOf_eq_singleton (valuesOf_eq_singleton perm one) reads, pure_bind,
    Option.getD_some]

/-- A field with a default that is not written. -/
theorem Yields.absent (default : α) (missing : valuesOf name written = []) :
    p.Yields written (withDefault name default read) default := by
  intro entries perm
  simp only [withDefault, single_of_valuesOf_eq_nil (valuesOf_eq_nil perm missing), pure_bind,
    Option.getD_none]

/-- A field that is left out when it has its default. -/
theorem Yields.unless {empty : Bool} {default : α}
    (given : valuesOf name written = if empty = false then [value] else [])
    (skipped : empty = true → result = default) (reads : read (p.of value) = pure result) :
    p.Yields written (withDefault name default read) result := by
  cases empty with
  | false => exact .present default (by simpa using given) reads
  | true =>
    rw [skipped rfl]
    exact .absent default (by simpa using given)

/-- A field that is left out when it has no value. -/
theorem Yields.optional {write : α → Json} {value : Option α}
    (given : valuesOf name written = (value.map write).toList)
    (reads : ∀ value, read (p.of (write value)) = pure value) (notNull : ∀ value, write value ≠ .null) :
    p.Yields written (optionalField name read) value := by
  cases value with
  | none => exact .absent none given
  | some value =>
    refine .present none given ?_
    rw [Reading.optional, p.present _ (notNull value), pure_bind]
    simp only [reads, pure_bind]

/-- A field of a lenient record that is not written. -/
theorem Yields.lenient (missing : valuesOf name written = []) :
    p.Yields written (Reading.lenient name read) none := by
  intro entries perm
  have nowhere := valuesOf_eq_nil perm missing
  rw [← map_occurrences, List.map_eq_nil_iff] at nowhere
  simp only [Reading.lenient, nowhere, List.foldlM_nil]

end Fields

section Values

/-- The fields of a record. -/
theorem record {written : List (String × Json)} {fields : Fields ν α} {result : α}
    (yields : p.Yields written fields result) : Reading.record fields (p.of (.object written)) = pure result := by
  rw [Reading.record, p.parts, pure_bind]
  exact ofEntries_of_run_eq_pure (yields _ (p.perm written))

/-- The fields of a record that cannot be written as bare values. -/
theorem namedRecord {written : List (String × Json)} {fields : Fields ν α} {result : α}
    (yields : p.Yields written fields result) :
    Reading.namedRecord fields (p.of (.object written)) = pure result := by
  rw [Reading.namedRecord, p.parts, pure_bind]
  exact ofEntries_of_run_eq_pure (yields _ (p.perm written))

/-- A list whose items are read. -/
theorem listOf {read : Reads ν β} {write : α → Json} {result : α → β}
    (each : ∀ value, read (p.of (write value)) = pure (result value)) (values : List α) :
    Reading.listOf read (p.of (.list (values.map write))) = pure (values.map result) := by
  rw [Reading.listOf, p.list, pure_bind, List.mapM_map, List.mapM_map]
  exact mapM_eq_pure result fun value _ => each value

/-- A list whose items are read back. -/
theorem items {read : Reads ν α} {write : α → Json} (each : ∀ value, read (p.of (write value)) = pure value)
    (values : List α) : Reading.listOf read (p.of (.list (values.map write))) = pure values := by
  simpa using p.listOf each values

theorem texts (values : List String) :
    Reading.listOf Readable.text (p.of (.texts values)) = pure values :=
  p.items p.text values

/-- A map whose values are read back. -/
theorem mapOf {read : Reads ν α} {write : α → Json} (each : ∀ value, read (p.of (write value)) = pure value)
    (map : TextMap α) : Reading.mapOf read (p.of (.ofMap write map)) = pure map := by
  have handed := p.perm (map.entries.map fun entry => (entry.1, write entry.2))
  rw [List.map_map] at handed
  obtain ⟨entries, perm, handed⟩ := exists_perm_of_perm_map handed
  have results : (entries.map fun entry => (entry.1, p.of (write entry.2))).mapM
      (fun entry => do return (entry.1, ← read entry.2)) = (pure entries : Attempt _) := by
    rw [List.mapM_map]
    refine (mapM_eq_pure id fun entry _ => ?_).trans (by rw [List.map_id])
    rw [Function.comp_apply, each, pure_bind]
    rfl
  rw [Reading.mapOf, Json.ofMap, p.entries, pure_bind, handed]
  refine (congrArg (· >>= fun entries => pure (SortedMap.ofList entries)) results).trans ?_
  rw [pure_bind, SortedMap.ofList_of_perm perm]

theorem labelMap (labels : Labels) : Reading.labelMap (p.of (.ofLabels labels)) = pure labels :=
  p.mapOf p.text labels

/-- A named constant. -/
theorem constantOf {names : List (String × α)} {name : String} {constant : α}
    (known : names.lookup name = some constant) :
    Reading.constantOf names (p.of (.text name)) = pure constant := by
  rw [Reading.constantOf, constantOr, p.constant, pure_bind]
  simp only [known]
  rfl

/-- An alternative with its name. -/
theorem keyedOf {alternatives : List (String × Reads ν α)} {name : String} {read : Reads ν α} {value : Json}
    {result : α} (known : alternatives.lookup name = some read) (reads : read (p.of value) = pure result) :
    Reading.keyedOf alternatives (p.of (.object [(name, value)])) = pure result := by
  rw [Reading.keyedOf, p.keyed, pure_bind]
  simp only [known, reads, pure_bind]
  rfl

end Values

/-! Fields that are left out when they are empty. -/

section Unless

variable {p} {written : List (String × Json)} {name : String}

theorem Yields.text {value : String}
    (given : valuesOf name written = if value.isEmpty = false then [.text value] else []) :
    p.Yields written (withDefault name "" Readable.text) value :=
  .unless given (fun empty => by simpa using empty) (p.text value)

theorem Yields.labels {labels : Labels}
    (given : valuesOf name written = if labels.isEmpty = false then [.ofLabels labels] else []) :
    p.Yields written (withDefault name ∅ Reading.labelMap) labels :=
  .unless given (fun empty => SortedMap.ext_entries (List.isEmpty_iff.1 empty)) (p.labelMap labels)

theorem Yields.items {read : Reads ν α} {write : α → Json} {values : List α}
    (given : valuesOf name written = if values.isEmpty = false then [.list (values.map write)] else [])
    (each : ∀ value, read (p.of (write value)) = pure value) :
    p.Yields written (withDefault name [] (Reading.listOf read)) values :=
  .unless given List.isEmpty_iff.1 (p.items each values)

end Unless

end Presentation

end Reading

namespace Json

open Reading

theorem heldItems_eq_map (items : List Json) : heldItems items = items.map held := by
  induction items with
  | nil => rfl
  | cons item items inductionHypothesis => rw [heldItems, inductionHypothesis, List.map_cons]

theorem heldFields_eq_map (fields : List (String × Json)) :
    heldFields fields = fields.map fun field => (.text field.1, held field.2) := by
  induction fields with
  | nil => rfl
  | cons field fields inductionHypothesis => rw [heldFields, inductionHypothesis, List.map_cons]

theorem readParts_heldFields (names : List String) (fields : List (String × Json)) :
    Held.readParts names (.map (heldFields fields)) =
      pure (.named (fields.map fun field => (field.1, held field.2))) := by
  rw [heldFields_eq_map, Held.readParts, List.mapM_map]
  exact congrArg (Parts.named <$> ·)
    (mapM_eq_pure (fun field : String × Json => (field.1, held field.2)) fun _ _ => rfl)

theorem readEntries_heldFields (fields : List (String × Json)) :
    Held.readEntries (.map (heldFields fields)) = pure (fields.map fun field => (field.1, held field.2)) := by
  rw [heldFields_eq_map, Held.readEntries, List.mapM_map]
  exact mapM_eq_pure _ fun _ _ => rfl

namespace FieldOrder

variable (order : FieldOrder)

/-- The order of the fields of an object with one field. -/
theorem arrange_singleton (field : String × Json) : order.arrange [field] = [field] :=
  List.perm_singleton.1 (order.perm [field])

/-- Values as they are, with fields in a chosen order. -/
def plain : Presentation Json where
  of := order.arranged
  fieldsOf fields := order.arrange (order.arrangedFields fields)
  perm := order.arrange_arrangedFields_perm
  text value := by rw [arranged]; rfl
  natural value := by rw [arranged]; rfl
  list items := by rw [arranged, arrangedItems_eq_map]; rfl
  parts names fields := by rw [arranged]; rfl
  entries fields := by rw [arranged]; rfl
  present value notNull := by
    cases value with
    | null => exact absurd rfl notNull
    | _ => rw [arranged]; rfl
  constant names name := by rw [arranged]; rfl
  keyed name value := by
    rw [arranged, arrangedFields, arrangedFields, arrange_singleton]
    rfl

@[simp] theorem plain_written_of (value : Json) : written.plain.of value = value := arranged_written value

/-- Values that are held, with the fields of objects in a chosen order. -/
def held : Presentation Held where
  of value := Json.held (order.arranged value)
  fieldsOf fields := (order.arrange (order.arrangedFields fields)).map fun field => (field.1, Json.held field.2)
  perm fields := by
    simpa [Function.comp_def] using
      (order.arrange_arrangedFields_perm fields).map fun field => (field.1, Json.held field.2)
  text value := by rw [arranged]; rfl
  natural value := by rw [arranged]; rfl
  list items := by rw [arranged, arrangedItems_eq_map, Json.held, heldItems_eq_map, List.map_map]; rfl
  parts names fields := by rw [arranged, Json.held]; exact readParts_heldFields names _
  entries fields := by rw [arranged, Json.held]; exact readEntries_heldFields _
  present value notNull := by
    cases value with
    | null => exact absurd rfl notNull
    | _ => rw [arranged]; rfl
  constant names name := by rw [arranged]; rfl
  keyed name value := by
    rw [arranged, arrangedFields, arrangedFields, arrange_singleton]
    rfl

/-- An object that names its kind is read as an object of this kind, if it has no other field with the
name of the kind. -/
theorem readKind_arranged {α : Type} {field kind : String} {alternatives : List (String × Fields Held α)}
    {fields : Fields Held α} {written : List (String × Json)} {result : α}
    (known : alternatives.lookup kind = some fields) (apart : valuesOf field written = [])
    (yields : order.held.Yields written fields result) :
    readKind field alternatives (order.arranged (.object ((field, .text kind) :: written))) = pure result := by
  have perm := order.arrange_arrangedFields_perm ((field, .text kind) :: written)
  rw [arranged]
  generalize order.arrange (order.arrangedFields ((field, .text kind) :: written)) = entries at perm
  have named : ofEntries (required field readText) entries = pure kind := by
    have one : valuesOf field ((field, .text kind) :: written) = [.text kind] := by simp [apart]
    exact ofEntries_of_run_eq_pure (Presentation.Yields.required one (order.plain.text kind) entries perm)
  -- Without the kind, the fields of the kind are left.
  have rest : (entries.filter fun entry => entry.1 ≠ field).Perm
      (written.map fun entry => (entry.1, order.arranged entry.2)) := by
    have none : valuesOf field (written.map fun entry => (entry.1, order.arranged entry.2)) = [] := by
      rw [valuesOf_map, apart, List.map_nil]
    rw [← filter_eq_self_of_valuesOf_eq_nil none]
    simpa using perm.filter fun entry => entry.1 ≠ field
  have body : record fields (Held.map (heldFields (entries.filter fun entry => entry.1 ≠ field))) = pure result := by
    have parts := readParts_heldFields fields.names (entries.filter fun entry => entry.1 ≠ field)
    have handed := rest.map fun entry => (entry.1, Json.held entry.2)
    rw [List.map_map] at handed
    refine (congrArg (· >>= _) parts).trans ?_
    rw [pure_bind]
    exact ofEntries_of_run_eq_pure (yields _ handed)
  rw [readKind, named, pure_bind, alternative]
  simp only [known]
  exact body

end FieldOrder

/-- What is read without following a reference is what a value holds. -/
theorem decode_of_eq_pure {α : Type} {read : Reads Json α} {value : Json} {result : α}
    (pure : read value = Pure.pure result) : decode read value = .ok result := by
  rw [decode, Reads.within, pure]
  rfl

end Json

end MeshControl
