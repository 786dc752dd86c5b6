import Mathlib.Data.List.Induction
import MeshControl.Proofs.Provenance

/-!
# Parents after any appends

The parents of an object are held as text, which every append reads and writes anew. From the first append on
this is the text of a map (`appendAll_eq`), so that the map determines it byte by byte. What a sequence of
appends makes of the map depends only on which parents it names for each kind and in which order it names them
first (`Parents.get?_addAll`): to name one again changes nothing, and kinds do not see each other.
-/

namespace MeshControl

/-- The last of two values of one annotation counts. -/
theorem Metadata.annotate_annotate (metadata : Metadata) (key first second : String) :
    (metadata.annotate key first).annotate key second = metadata.annotate key second := by
  simp only [annotate, SortedMap.insert_insert]

namespace Provenance

/-- A parent that is to be added under a kind. -/
structure Append where
  kind : String
  parent : ObjectRef
  deriving DecidableEq

/-- The parents that appends name for a kind, in the order in which each is named first. -/
def firsts (kind : String) (appends : List Append) : List ObjectRef :=
  ((appends.filter fun append => append.kind = kind).map Append.parent).eraseDups

/-- Adds parents to an object one after the other. -/
def appendAll (metadata : Metadata) (appends : List Append) : Metadata :=
  appends.foldl (fun metadata append => appendParent metadata append.kind append.parent) metadata

section Firsts

variable {kind : String} {appends : List Append} {append : Append}

theorem mem_firsts {parent : ObjectRef} : parent ∈ firsts kind appends ↔ ⟨kind, parent⟩ ∈ appends := by
  simp only [firsts, List.mem_eraseDups, List.mem_map, List.mem_filter, decide_eq_true_eq]
  constructor
  · rintro ⟨append, ⟨member, rfl⟩, rfl⟩
    exact member
  · intro member
    exact ⟨_, ⟨member, rfl⟩, rfl⟩

theorem firsts_append_of_ne (other : append.kind ≠ kind) :
    firsts kind (appends ++ [append]) = firsts kind appends := by
  have none : [append].filter (fun append => append.kind = kind) = [] := by simpa using other
  rw [firsts, List.filter_append, none, List.append_nil, ← firsts]

/-- A parent that is named once more for a kind stands where it was named first. -/
theorem firsts_append (kind : String) (parent : ObjectRef) (appends : List Append) :
    firsts kind (appends ++ [⟨kind, parent⟩]) =
      if parent ∈ firsts kind appends then firsts kind appends else firsts kind appends ++ [parent] := by
  have seen : parent ∈ firsts kind appends ↔ parent ∈ (appends.filter fun append => append.kind = kind).map
      Append.parent := List.mem_eraseDups
  rw [firsts, List.filter_append, List.map_append, List.eraseDups_append]
  by_cases named : parent ∈ firsts kind appends
  · rw [if_pos named]
    simp [List.removeAll, seen.1 named, firsts]
  · rw [if_neg named]
    simp [List.removeAll, seen.not.1 named, firsts, List.eraseDups_cons]

theorem firsts_append_of_mem (member : append ∈ appends) :
    firsts kind (appends ++ [append]) = firsts kind appends := by
  by_cases same : append.kind = kind
  · subst same
    rw [firsts_append, if_pos (mem_firsts.2 member)]
  · exact firsts_append_of_ne same

/-- A kind does not see in which order two appends come of which one is under another kind. -/
theorem firsts_append_swap {first second : Append} (apart : first.kind ≠ second.kind) :
    firsts kind (appends ++ [first, second]) = firsts kind (appends ++ [second, first]) := by
  have same : [first, second].filter (fun append => append.kind = kind) =
      [second, first].filter (fun append => append.kind = kind) := by
    by_cases isFirst : first.kind = kind
    · have notSecond : second.kind ≠ kind := fun isSecond => apart (isFirst.trans isSecond.symm)
      simp [isFirst, notSecond]
    · simp [isFirst, List.filter_cons]
  rw [firsts, List.filter_append, same, ← List.filter_append, ← firsts]

end Firsts

namespace Parents

variable (parents : Parents) (kind : String)

/-- The parents of a kind. -/
def under : List ObjectRef := (parents.get? kind).getD []

/-- Adds parents one after the other. -/
def addAll (appends : List Append) : Parents :=
  appends.foldl (fun parents append => parents.add append.kind append.parent) parents

theorem addAll_append_singleton (appends : List Append) (append : Append) :
    parents.addAll (appends ++ [append]) = (parents.addAll appends).add append.kind append.parent :=
  List.foldl_append

theorem get?_add (parent : ObjectRef) (other : String) :
    (parents.add kind parent).get? other =
      if other = kind then
        some (if parent ∈ parents.under kind then parents.under kind else parents.under kind ++ [parent])
      else parents.get? other :=
  parents.get?_insert_of_lawful kind other _

/-- A kind has the parents that it had, and behind them those that are new to it in the order in which appends
have named them first. A kind without appends stays as it is. -/
theorem get?_addAll (appends : List Append) :
    (parents.addAll appends).get? kind =
      if firsts kind appends = [] then parents.get? kind
      else some (parents.under kind ++ (firsts kind appends).filter (· ∉ parents.under kind)) := by
  induction appends using List.reverseRecOn with
  | nil => rfl
  | append_singleton earlier append inductionHypothesis =>
    obtain ⟨appended, parent⟩ := append
    rw [addAll_append_singleton, get?_add]
    by_cases same : kind = appended
    · subst same
      have present : (parents.addAll earlier).under kind =
          parents.under kind ++ (firsts kind earlier).filter (· ∉ parents.under kind) := by
        rw [under, inductionHypothesis]
        split
        · next none => rw [none, List.filter_nil, List.append_nil]; rfl
        · rfl
      have someNamed : firsts kind (earlier ++ [⟨kind, parent⟩]) ≠ [] :=
        List.ne_nil_of_mem (mem_firsts.2 (List.mem_append_right earlier (List.mem_singleton_self _)))
      rw [if_pos rfl, if_neg someNamed, present, firsts_append]
      by_cases old : parent ∈ parents.under kind <;> by_cases named : parent ∈ firsts kind earlier <;>
        simp [old, named]
    · rw [if_neg same, inductionHypothesis, firsts_append_of_ne (Ne.symm same)]

/-- Appends that name the same parents first, in the same order for each kind, make the same of a map. -/
theorem addAll_congr {appends others : List Append} (same : ∀ kind, firsts kind others = firsts kind appends) :
    parents.addAll others = parents.addAll appends :=
  SortedMap.ext_get? fun kind => by rw [get?_addAll, get?_addAll, same kind]

end Parents

variable (metadata : Metadata)

theorem appendAll_append (earlier later : List Append) :
    appendAll metadata (earlier ++ later) = appendAll (appendAll metadata earlier) later :=
  List.foldl_append

/-- Appends make the same of the parents of an object as of its map. -/
theorem parents_appendAll (appends : List Append) :
    parents (appendAll metadata appends) = (parents metadata).addAll appends := by
  induction appends using List.reverseRecOn with
  | nil => rfl
  | append_singleton earlier append inductionHypothesis =>
    rw [appendAll_append, Parents.addAll_append_singleton, ← inductionHypothesis]
    exact parents_appendParent (appendAll metadata earlier) append.kind append.parent

/-- Appends change the annotation of parents and nothing else. -/
theorem annotate_appendAll (appends : List Append) (text : String) :
    (appendAll metadata appends).annotate parentsAnnotation text = metadata.annotate parentsAnnotation text := by
  induction appends using List.reverseRecOn with
  | nil => rfl
  | append_singleton earlier append inductionHypothesis =>
    rw [← inductionHypothesis, appendAll_append]
    exact Metadata.annotate_annotate (appendAll metadata earlier) parentsAnnotation _ text

/-- From the first append on the annotation is the text of the map, however it was written before. -/
theorem appendAll_eq {appends : List Append} (someAppend : appends ≠ []) :
    appendAll metadata appends =
      metadata.annotate parentsAnnotation ((parents metadata).addAll appends).toJson.compact := by
  obtain ⟨earlier, append, rfl⟩ := List.eq_nil_or_concat appends |>.resolve_left someAppend
  rw [List.concat_eq_append, appendAll_append, Parents.addAll_append_singleton, ← parents_appendAll]
  exact annotate_appendAll metadata earlier _

/-- Appends that name the same parents first, in the same order for each kind, leave the same object. -/
theorem appendAll_congr {appends others : List Append} (same : ∀ kind, firsts kind others = firsts kind appends) :
    appendAll metadata others = appendAll metadata appends := by
  have named {named : List Append} : named = [] ↔ ∀ kind, firsts kind named = [] := by
    constructor
    · rintro rfl kind
      rfl
    · intro none
      refine List.eq_nil_iff_forall_not_mem.2 fun append member => ?_
      have first := mem_firsts.2 member
      rw [none] at first
      cases first
  by_cases none : appends = []
  · have noOthers : others = [] := named.2 fun kind => by rw [same, none]; rfl
    rw [none, noOthers]
  · have someOther : others ≠ [] := by simpa only [ne_eq, named, same] using none
    rw [appendAll_eq metadata none, appendAll_eq metadata someOther, Parents.addAll_congr _ same]

/-- After any appends an object has, for each kind with appends, the parents that it had and then the new ones in
the order of their first appends, and for each other kind what it had; unreadable parents count as none. Nothing
but the annotation of parents changes. To append one of the parents again changes no byte, nor does the order of
appends under different kinds. -/
theorem appends_accumulate (metadata : Metadata) (appends : List Append) :
    let before := ((metadata.annotations.get? parentsAnnotation).bind Parents.parse?).getD ∅
    let after := appendAll metadata appends
    (∀ append ∈ appends, (parents after).get? append.kind =
        some (before.under append.kind ++
          (firsts append.kind appends).filter (· ∉ before.under append.kind))) ∧
      (∀ kind, (∀ append ∈ appends, append.kind ≠ kind) → (parents after).get? kind = before.get? kind) ∧
      after = { metadata with annotations := after.annotations } ∧
      (∀ key, key ≠ parentsAnnotation → after.annotations.get? key = metadata.annotations.get? key) ∧
      (∀ append ∈ appends, appendParent after append.kind append.parent = after) ∧
      (∀ first second : Append, first.kind ≠ second.kind →
        appendParent (appendParent after first.kind first.parent) second.kind second.parent =
          appendParent (appendParent after second.kind second.parent) first.kind first.parent) ∧
      ∀ others, (∀ kind, firsts kind others = firsts kind appends) → appendAll metadata others = after := by
  intro before after
  have accumulated : parents after = before.addAll appends := parents_appendAll metadata appends
  have outside := annotate_appendAll metadata appends ""
  refine ⟨?_, ?_, ?_, ?_, ?_, ?_, fun others same => appendAll_congr metadata same⟩
  · intro append member
    have someNamed : firsts append.kind appends ≠ [] := List.ne_nil_of_mem (mem_firsts.2 member)
    rw [accumulated, Parents.get?_addAll, if_neg someNamed]
  · intro kind others
    have noneNamed : firsts kind appends = [] := List.eq_nil_iff_forall_not_mem.2 fun parent named =>
      others _ (mem_firsts.1 named) rfl
    rw [accumulated, Parents.get?_addAll, if_pos noneNamed]
  · exact congrArg (fun changed : Metadata => { changed with annotations := after.annotations }) outside
  · intro key other
    have same := congrArg (fun metadata => metadata.annotations.get? key) outside
    simpa only [Metadata.annotate, SortedMap.get?_insert_of_lawful, if_neg other] using same
  · intro append member
    calc
      appendParent after append.kind append.parent = appendAll metadata (appends ++ [append]) :=
        (appendAll_append metadata appends [append]).symm
      _ = after := appendAll_congr metadata fun kind => firsts_append_of_mem member
  · intro first second apart
    calc
      appendParent (appendParent after first.kind first.parent) second.kind second.parent
        = appendAll metadata (appends ++ [first, second]) :=
          (appendAll_append metadata appends [first, second]).symm
      _ = appendAll metadata (appends ++ [second, first]) :=
        appendAll_congr metadata fun kind => firsts_append_swap apart
      _ = appendParent (appendParent after second.kind second.parent) first.kind first.parent :=
        appendAll_append metadata appends [second, first]

/-- Parents in a layout that nothing here writes, with a repeated reference and another field order. -/
private def foreign : Metadata where
  name := "rule"
  annotations := .ofList [( parentsAnnotation,
    "\x7b \"B\": [\x7b\"namespace\": \"n\", \"name\": \"x\"\x7d, \x7b\"name\": \"x\", \"namespace\": \"n\"\x7d] \x7d")]

example :
    (appendAll foreign [⟨"B", ⟨"y", "n"⟩⟩, ⟨"A", ⟨"x", "n"⟩⟩, ⟨"B", ⟨"x", "n"⟩⟩]).annotations.get? parentsAnnotation =
    some ("\x7b\"A\":[\x7b\"name\":\"x\",\"namespace\":\"n\"\x7d]," ++
      "\"B\":[\x7b\"name\":\"x\",\"namespace\":\"n\"\x7d,\x7b\"name\":\"x\",\"namespace\":\"n\"\x7d," ++
      "\x7b\"name\":\"y\",\"namespace\":\"n\"\x7d]\x7d") := by decide +kernel

end Provenance

end MeshControl
