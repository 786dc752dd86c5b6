import MeshControl.Proofs.Injection.Memory

/-!
# Namespaces that opt out

A namespace asks for sidecars by one value of the legacy label, and opts out by any other one. But the label of a
revision is looked at on its own: a namespace that opts out and is labelled for a revision still asks
(`labelsEnable_iff_revised`). So the legacy label of a namespace that opts out is as good as none, and only where
no revision is labelled the namespace counts like one without any labels.
-/

namespace MeshControl.Injection

/-- The record is that of a workload's namespace. -/
def IsNamespaceOf (record : NamespaceRecord) (workload : Workload) : Prop :=
  record.name = workload.ns ∧ record.cluster = workload.cluster

instance (record : NamespaceRecord) (workload : Workload) : Decidable (IsNamespaceOf record workload) :=
  inferInstanceAs (Decidable (_ ∧ _))

/-- The legacy label is there and does not ask for sidecars. -/
def OptsOut (record : NamespaceRecord) : Prop :=
  ∃ value, record.labels.get? injectionLabel = some value ∧ value ≠ "enabled"

instance (record : NamespaceRecord) : Decidable (OptsOut record) :=
  inferInstanceAs (Decidable (∃ value ∈ record.labels.get? injectionLabel, value ≠ "enabled"))

/-- A namespace whose labels count is labelled for a revision. -/
structure Revised (ignored : List String) (record : NamespaceRecord) : Prop where
  labelled : record.labels.contains revisionLabel = true
  notSystem : record.name ≠ systemNamespace
  notIgnored : record.name ∉ ignored

/-- The labels without all but that of the revision. -/
def onlyRevision (labels : Labels) : Labels :=
  match labels.get? revisionLabel with
  | some revision => .ofList [(revisionLabel, revision)]
  | none => ∅

theorem contains_onlyRevision (labels : Labels) :
    (onlyRevision labels).contains revisionLabel = labels.contains revisionLabel := by
  unfold onlyRevision SortedMap.contains
  cases labels.get? revisionLabel with
  | none => rfl
  | some revision =>
    have itself : compare revisionLabel revisionLabel = .eq := Std.ReflCmp.compare_self
    rw [SortedMap.get?_ofList, SortedMap.lookupLast_cons, if_pos itself]
    rfl

theorem get?_onlyRevision_injectionLabel (labels : Labels) :
    (onlyRevision labels).get? injectionLabel = none := by
  unfold onlyRevision
  cases labels.get? revisionLabel with
  | none => rfl
  | some revision =>
    have other : ¬ compare injectionLabel revisionLabel = .eq := by decide
    rw [SortedMap.get?_ofList, SortedMap.lookupLast_cons, if_neg other]
    rfl

section Record

variable {record : NamespaceRecord} {ignored : List String}

/-- Where the legacy label does not ask for sidecars, only that of a revision does. -/
theorem labelsEnable_iff_revised (unasked : record.labels.get? injectionLabel ≠ some "enabled") :
    labelsEnable record ignored = true ↔ Revised ignored record := by
  rw [labelsEnable_iff]
  constructor
  · rintro ⟨notSystem, notIgnored, labelled | asks⟩
    · exact ⟨labelled, notSystem, notIgnored⟩
    · exact absurd asks unasked
  · rintro ⟨labelled, notSystem, notIgnored⟩
    exact ⟨notSystem, notIgnored, .inl labelled⟩

theorem OptsOut.unasked (optsOut : OptsOut record) : record.labels.get? injectionLabel ≠ some "enabled" := by
  obtain ⟨value, held, refuses⟩ := optsOut
  exact fun asks => refuses (Option.some.inj (held.symm.trans asks))

end Record

namespace Surroundings

/-- The same surroundings where a workload's namespace has other labels. -/
def relabel (surroundings : Surroundings) (workload : Workload) (change : Labels → Labels) : Surroundings :=
  { surroundings with
    namespaces := surroundings.namespaces.map fun record =>
      if IsNamespaceOf record workload then { record with labels := change record.labels } else record }

variable {surroundings : Surroundings} {workload : Workload}

/-- Other labels that turn injection on where the old ones did make the same detector. -/
theorem detector_relabel {change : Labels → Labels}
    (same : ∀ record ∈ surroundings.namespaces, IsNamespaceOf record workload →
      labelsEnable { record with labels := change record.labels } surroundings.ignored =
        labelsEnable record surroundings.ignored) :
    (surroundings.relabel workload change).detector = surroundings.detector := by
  unfold detector Detector.new relabel
  congr 2
  rw [List.filter_map, List.map_map]
  -- The index holds names and clusters only, which keep their values.
  have kept : (surroundings.namespaces.filter ((labelsEnable · surroundings.ignored) ∘ fun record =>
        if IsNamespaceOf record workload then { record with labels := change record.labels } else record)) =
      surroundings.namespaces.filter (labelsEnable · surroundings.ignored) := by
    refine List.filter_congr fun record member => ?_
    dsimp only [Function.comp_apply]
    split
    · next isNamespace => exact same record member isNamespace
    · rfl
  rw [kept]
  refine List.map_congr_left fun record _ => ?_
  dsimp only [Function.comp_apply]
  split <;> rfl

end Surroundings

namespace Detector

/-- Where all records of a workload's namespace opt out, each of them turns injection on exactly if it is labelled
for a revision. Any calls are then answered as if the namespace had no label but that of a revision, and where it
has none of a revision either, as if it had no labels. -/
theorem answers_of_opted_out (surroundings : Surroundings) (workload : Workload)
    (optedOut : ∀ record ∈ surroundings.namespaces, IsNamespaceOf record workload → OptsOut record) :
    (∀ record ∈ surroundings.namespaces, IsNamespaceOf record workload →
      (labelsEnable record surroundings.ignored = true ↔ Revised surroundings.ignored record)) ∧
      (∀ calls, (surroundings.relabel workload onlyRevision).detector.answers calls =
        surroundings.detector.answers calls) ∧
      ((∀ record ∈ surroundings.namespaces, IsNamespaceOf record workload →
          ¬ Revised surroundings.ignored record) →
        ∀ calls, (surroundings.relabel workload fun _ => ∅).detector.answers calls =
          surroundings.detector.answers calls) := by
  have exactly : ∀ record ∈ surroundings.namespaces, IsNamespaceOf record workload →
      (labelsEnable record surroundings.ignored = true ↔ Revised surroundings.ignored record) :=
    fun record member isNamespace => labelsEnable_iff_revised (optedOut record member isNamespace).unasked
  refine ⟨exactly, fun calls => ?_, fun unrevised calls => ?_⟩
  · rw [Surroundings.detector_relabel]
    intro record member isNamespace
    have unasked : (onlyRevision record.labels).get? injectionLabel ≠ some "enabled" := by
      rw [get?_onlyRevision_injectionLabel]
      exact (Option.some_ne_none _).symm
    rw [Bool.eq_iff_iff, exactly record member isNamespace, labelsEnable_iff_revised unasked]
    constructor
    · rintro ⟨labelled, notSystem, notIgnored⟩
      exact ⟨(contains_onlyRevision record.labels).symm.trans labelled, notSystem, notIgnored⟩
    · rintro ⟨labelled, notSystem, notIgnored⟩
      exact ⟨(contains_onlyRevision record.labels).trans labelled, notSystem, notIgnored⟩
  · rw [Surroundings.detector_relabel]
    intro record member isNamespace
    have unasked : (∅ : Labels).get? injectionLabel ≠ some "enabled" := (Option.some_ne_none _).symm
    rw [Bool.eq_iff_iff, exactly record member isNamespace, labelsEnable_iff_revised unasked]
    refine iff_of_false (fun revised => ?_) (unrevised record member isNamespace)
    cases revised.labelled

section Arcade

private def arcadeMesh : Mesh where
  metadata := { name := "istiod", ns := "orbit" }
  provider := .istio { installation := { ns := "istio-system", cluster := "east" } }

private def arcadePods (ns : String) : Workload where
  metadata := { name := "pinball", ns, cluster := "east" }

/-- The injector leaves pods alone that nothing else decides about. One of two namespaces asks for sidecars, and
the other one has some labels. -/
private def arcade (labels : List (String × String)) : Surroundings where
  namespaces := [⟨"arcade", "east", .ofList labels⟩, ⟨"shop", "east", .ofList [(injectionLabel, "enabled")]⟩]
  configMaps := [⟨configMapStem, "istio-system", "east", .ofList [(configKey, "policy: disabled")]⟩]
  ignored := builtinIgnored

private def arcadeCalls : List Call :=
  [.detect (arcadePods "arcade") [arcadeMesh], .detect (arcadePods "shop") [arcadeMesh]]

/-- A namespace that opts out counts like one without labels, whatever other labels it has. -/
theorem answers_of_opted_out_arcade :
    let surroundings := arcade [(injectionLabel, "disabled"), ("team", "games")]
    (∀ record ∈ surroundings.namespaces, IsNamespaceOf record (arcadePods "arcade") → OptsOut record) ∧
      (∀ record ∈ surroundings.namespaces, IsNamespaceOf record (arcadePods "arcade") →
        ¬ Revised surroundings.ignored record) ∧
      surroundings.detector.answers arcadeCalls = [.mesh none, .mesh (some arcadeMesh)] := by
  intro surroundings
  have optedOut : ∀ record ∈ surroundings.namespaces, IsNamespaceOf record (arcadePods "arcade") →
      OptsOut record := by decide
  have unlabelled : ∀ record ∈ surroundings.namespaces, IsNamespaceOf record (arcadePods "arcade") →
      record.labels.contains revisionLabel = false := by decide
  have unrevised : ∀ record ∈ surroundings.namespaces, IsNamespaceOf record (arcadePods "arcade") →
      ¬ Revised surroundings.ignored record := fun record member isNamespace revised =>
    Bool.false_ne_true ((unlabelled record member isNamespace).symm.trans revised.labelled)
  obtain ⟨_, _, alike⟩ := answers_of_opted_out surroundings (arcadePods "arcade") optedOut
  refine ⟨optedOut, unrevised, ?_⟩
  rw [← alike unrevised]
  decide +kernel

/-- A namespace that opts out and is labelled for a revision gets sidecars, which it would not without labels. -/
theorem injected_despite_opting_out :
    let surroundings := arcade [(injectionLabel, "disabled"), (revisionLabel, "canary")]
    (∀ record ∈ surroundings.namespaces, IsNamespaceOf record (arcadePods "arcade") → OptsOut record) ∧
      surroundings.detector.answers [.detect (arcadePods "arcade") [arcadeMesh]] = [.mesh (some arcadeMesh)] ∧
      (surroundings.relabel (arcadePods "arcade") fun _ => ∅).detector.answers
        [.detect (arcadePods "arcade") [arcadeMesh]] = [.mesh none] := by
  decide +kernel

end Arcade

end Detector

end MeshControl.Injection
