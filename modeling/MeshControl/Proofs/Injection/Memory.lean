import MeshControl.Proofs.Injection.Attribution
import MeshControl.Proofs.Keys
import MeshControl.Proofs.SortedMap

/-!
# A detector answers as the rule does

A detector looks at an index of namespaces and at configurations it loaded before, not at the records.
`Detector.Faithful` says that both agree with the records. Every call keeps it, and
`Detector.answers_eq_of_coherent` follows for any sequence of calls.
-/

namespace MeshControl.Injection

/-- A call of a detector. -/
inductive Call where
  | detect (workload : Workload) (meshes : List Mesh)
  | attributeAll (workloads : List Workload) (meshes : List Mesh)
  deriving DecidableEq

/-- What a call returns. -/
inductive Answer where
  | mesh (found : Option Mesh)
  | membership (membership : Membership)
  deriving DecidableEq

namespace Call

/-- The workloads that a call asks about. -/
def workloads : Call → List Workload
  | .detect workload _ => [workload]
  | .attributeAll workloads _ => workloads

/-- The meshes among which a call looks for an answer. -/
def meshes : Call → List Mesh
  | .detect _ meshes | .attributeAll _ meshes => meshes

end Call

namespace Detector

/-- The answer to a call, and the detector after it. -/
def answer (detector : Detector) : Call → Answer × Detector
  | .detect workload meshes =>
    let (found, detector) := detector.detect workload meshes
    (.mesh found, detector)
  | .attributeAll workloads meshes =>
    let (membership, detector) := detector.attributeAll workloads meshes
    (.membership membership, detector)

/-- The answers to some calls, one after the other. -/
def answers (detector : Detector) : List Call → List Answer
  | [] => []
  | call :: calls => (detector.answer call).1 :: answers (detector.answer call).2 calls

end Detector

/-- The anomaly that a load notes for a mesh now, if it fails. -/
def currentAnomalies (configMaps : ConfigMaps) (mesh : Mesh) (istio : IstioMesh) : List Anomaly :=
  match loadConfig istio configMaps with
  | .ok _ => []
  | .error error => [⟨mesh.key, error⟩]

namespace Surroundings

variable (surroundings : Surroundings)

/-- The detector that is made from the surroundings. -/
def detector : Detector :=
  (Detector.new surroundings.ignored surroundings.namespaces (.ofList surroundings.configMaps)).ignore
    surroundings.extra

/-- The answer to a call that depends on nothing but the surroundings and the call. -/
def answer : Call → Answer
  | .detect workload meshes => .mesh (surroundings.meshOf? workload meshes)
  | .attributeAll workloads meshes => .membership (surroundings.membership workloads meshes)

end Surroundings

/-- Names that are added to a list or were in it before. -/
theorem mem_addNew {present names : List String} {name : String} :
    name ∈ addNew present names ↔ name ∈ present ∨ name ∈ names := by
  unfold addNew
  induction names generalizing present with
  | nil => simp
  | cons head tail inductionHypothesis =>
    rw [List.foldl_cons, inductionHypothesis, List.mem_cons]
    split
    · next isThere =>
      constructor
      · rintro (inPresent | inTail)
        · exact .inl inPresent
        · exact .inr (.inr inTail)
      · rintro (inPresent | rfl | inTail)
        · exact .inl inPresent
        · exact .inl isThere
        · exact .inr inTail
    · rw [List.mem_append, List.mem_singleton, or_assoc]

/-- The index of a new detector holds the keys of the records that turn injection on. -/
theorem Detector.mem_injected_new {ignored : List String} {namespaces : List NamespaceRecord}
    {configMaps : ConfigMaps} {key : String} :
    key ∈ (Detector.new ignored namespaces configMaps).injected ↔
      ∃ record ∈ namespaces, TurnsOn ignored record ∧ namespaceKey record.name record.cluster = key := by
  simp only [Detector.new, List.mem_map, List.mem_filter, labelsEnable_iff, and_assoc]

/-- The index is not made anew when a detector learns of ignored namespaces. -/
theorem Detector.ignore_injected (detector : Detector) (extra : List String) :
    (detector.ignore extra).injected = detector.injected := rfl

namespace Surroundings

variable (surroundings : Surroundings) {workload : Workload}

theorem mem_ignored_detector {name : String} :
    name ∈ surroundings.detector.ignored ↔ name ∈ surroundings.allIgnored :=
  mem_addNew.trans List.mem_append.symm

/-- The index holds the key of a workload's namespace exactly where a record turns injection on, provided
that no name confuses the keys and the workload's namespace is not ignored. -/
theorem contains_injected_detector (records : ∀ record ∈ surroundings.namespaces, '/' ∉ record.name.toList)
    (separate : '/' ∉ workload.ns.toList) (notIgnored : workload.ns ∉ surroundings.allIgnored) :
    surroundings.detector.injected.contains (namespaceKey workload.ns workload.cluster) = true ↔
      NamespaceAsks surroundings.allIgnored surroundings.namespaces workload := by
  rw [detector, Detector.ignore_injected, List.contains_iff_mem, Detector.mem_injected_new]
  constructor
  · rintro ⟨record, member, turnsOn, same⟩
    obtain ⟨names, clusters⟩ := (namespaceKey_inj (records record member) separate).1 same
    exact ⟨record, member, names, clusters, turnsOn.notSystem, names ▸ notIgnored, turnsOn.labelled⟩
  · rintro ⟨record, member, names, clusters, turnsOn⟩
    -- The index knows only the namespaces that were ignored when it was made.
    have outside : record.name ∉ surroundings.ignored := fun isIgnored =>
      turnsOn.notIgnored (List.mem_append_left surroundings.extra isIgnored)
    exact ⟨record, member, ⟨turnsOn.notSystem, outside, turnsOn.labelled⟩, by rw [names, clusters]⟩

end Surroundings

namespace Detector

variable {surroundings : Surroundings} {known : Mesh → Prop} {detector : Detector} {workload : Workload}
  {mesh : Mesh}

theorem isCandidate_iff (workload : Workload) (mesh : Mesh) :
    isCandidate workload mesh = true ↔
      ∃ istio, mesh.istio = some istio ∧ istio.installation.cluster = workload.cluster := by
  simp [isCandidate, Option.any_eq_true]

/-- A search comes to a mesh: other clusters are passed over, and what a mesh on the cluster does not inject goes on
with the detector that has consulted its configuration. -/
theorem detect_cons (detector : Detector) (workload : Workload) (mesh : Mesh) (meshes : List Mesh) :
    detector.detect workload (mesh :: meshes) =
      if isCandidate workload mesh = true then
        if runsProxy workload = true then (some mesh, detector)
        else if (detector.injects workload mesh).1 = true then (some mesh, (detector.injects workload mesh).2)
        else (detector.injects workload mesh).2.detect workload meshes
      else detector.detect workload meshes := by
  conv_lhs => unfold detect
  by_cases candidate : isCandidate workload mesh = true
  · by_cases proxy : runsProxy workload = true
    · simp [candidate, proxy]
    · cases answer : detector.injects workload mesh with
      | mk injected next => cases injected <;> simp [candidate, proxy]
  · simp [candidate]

/-- A workload adds an entry to a membership if it is given to a mesh. -/
theorem attributeOne_eq (meshes : List Mesh) (state : Membership × Detector) (workload : Workload) :
    attributeOne meshes state workload =
      (match (state.2.detect workload meshes).1 with
        | some mesh => state.1.insert workload mesh
        | none => state.1, (state.2.detect workload meshes).2) := by
  unfold attributeOne
  cases state.2.detect workload meshes with
  | mk found next => cases found <;> rfl

/-- What a load does for an Istio mesh whose configuration is not held. -/
theorem configFor_of_unheld {istio : IstioMesh} (unheld : detector.configs.get? mesh.key = none)
    (isIstio : mesh.istio = some istio) :
    detector.configFor mesh = (currentConfig detector.configMaps istio, { detector with
      configs := detector.configs.insert mesh.key (currentConfig detector.configMaps istio)
      anomalies := detector.anomalies ++ currentAnomalies detector.configMaps mesh istio }) := by
  unfold configFor currentConfig currentAnomalies
  rw [unheld, isIstio, Option.map_some]
  cases loadConfig istio detector.configMaps with
  | ok config => simp
  | error error => rfl

/-- Known meshes with equal keys are equal. -/
def Coherent (known : Mesh → Prop) : Prop :=
  ∀ mesh other, known mesh → known other → mesh.key = other.key → mesh = other

/-- A detector that was made from some surroundings and has answered calls about known meshes. What it
holds under the key of a known mesh is what a load finds now, failures included. -/
structure Faithful (surroundings : Surroundings) (known : Mesh → Prop) (detector : Detector) : Prop where
  configMaps : detector.configMaps = surroundings.detector.configMaps
  ignored : detector.ignored = surroundings.detector.ignored
  injected : detector.injected = surroundings.detector.injected
  configs : ∀ mesh, known mesh → ∀ istio, mesh.istio = some istio →
    ∀ config, detector.configs.get? mesh.key = some config →
      config = currentConfig (.ofList surroundings.configMaps) istio

namespace Faithful

theorem start (surroundings : Surroundings) (known : Mesh → Prop) :
    Faithful surroundings known surroundings.detector where
  configMaps := rfl
  ignored := rfl
  injected := rfl
  configs := by
    intro mesh _ istio _ config held
    cases held

section Calls

variable (coherent : Coherent known)
include coherent

/-- What a load finds for a known mesh may be kept under its key, whatever anomalies are noted. -/
theorem remember (faithful : Faithful surroundings known detector) (isKnown : known mesh)
    {istio : IstioMesh} (isIstio : mesh.istio = some istio) (anomalies : List Anomaly) :
    Faithful surroundings known { detector with
      configs := detector.configs.insert mesh.key (currentConfig detector.configMaps istio)
      anomalies } where
  configMaps := faithful.configMaps
  ignored := faithful.ignored
  injected := faithful.injected
  configs := by
    intro other otherKnown otherIstio otherIsIstio config held
    rw [SortedMap.get?_insert_of_lawful] at held
    split at held
    · next same =>
      obtain rfl := coherent other mesh otherKnown isKnown same
      rw [isIstio, Option.some.injEq] at otherIsIstio
      rw [← otherIsIstio, ← Option.some.inj held, faithful.configMaps]
      rfl
    · exact faithful.configs other otherKnown otherIstio otherIsIstio config held

/-- The configuration of a known mesh is the current one, held or not. -/
theorem configFor (faithful : Faithful surroundings known detector) (isKnown : known mesh)
    {istio : IstioMesh} (isIstio : mesh.istio = some istio) :
    (detector.configFor mesh).1 = currentConfig (.ofList surroundings.configMaps) istio ∧
      Faithful surroundings known (detector.configFor mesh).2 := by
  cases held : detector.configs.get? mesh.key with
  | some config =>
    have unchanged : detector.configFor mesh = (config, detector) := by simp [Detector.configFor, held]
    rw [unchanged]
    exact ⟨faithful.configs mesh isKnown istio isIstio config held, faithful⟩
  | none =>
    rw [configFor_of_unheld held isIstio]
    exact ⟨congrArg (currentConfig · istio) faithful.configMaps,
      faithful.remember coherent isKnown isIstio _⟩

variable (records : ∀ record ∈ surroundings.namespaces, '/' ∉ record.name.toList)
include records

/-- The answer about the injector of a known mesh is that of the rule. -/
theorem injects (faithful : Faithful surroundings known detector) (separate : '/' ∉ workload.ns.toList)
    (isKnown : known mesh) {istio : IstioMesh} (isIstio : mesh.istio = some istio) :
    ((detector.injects workload mesh).1 = true ↔ surroundings.Injects workload istio) ∧
      Faithful surroundings known (detector.injects workload mesh).2 := by
  obtain ⟨current, after⟩ := faithful.configFor coherent isKnown isIstio
  refine ⟨?_, after⟩
  unfold Detector.injects Surroundings.Injects
  dsimp only
  rw [current, after.ignored, faithful.injected]
  exact injectRequired_iff _ surroundings.mem_ignored_detector
    (surroundings.contains_injected_detector records separate)

/-- A detected mesh is the first to which the workload belongs. -/
theorem detect (faithful : Faithful surroundings known detector) (separate : '/' ∉ workload.ns.toList)
    {meshes : List Mesh} (areKnown : ∀ mesh ∈ meshes, known mesh) :
    (detector.detect workload meshes).1 = surroundings.meshOf? workload meshes ∧
      Faithful surroundings known (detector.detect workload meshes).2 := by
  -- A load changes the detector, so the later meshes meet any faithful one.
  induction meshes generalizing detector with
  | nil => exact ⟨rfl, faithful⟩
  | cons mesh meshes inductionHypothesis =>
    rw [List.forall_mem_cons] at areKnown
    rw [surroundings.meshOf?_cons, detect_cons]
    by_cases candidate : isCandidate workload mesh = true
    · obtain ⟨istio, isIstio, here⟩ := (isCandidate_iff workload mesh).1 candidate
      have owns := surroundings.owns_iff isIstio here
      obtain ⟨decided, after⟩ := faithful.injects coherent records separate areKnown.1 isIstio
      rw [if_pos candidate]
      by_cases proxy : runsProxy workload = true
      · rw [if_pos proxy, if_pos (owns.2 (.inl proxy))]
        exact ⟨rfl, faithful⟩
      · rw [if_neg proxy]
        by_cases injected : (detector.injects workload mesh).1 = true
        · rw [if_pos injected, if_pos (owns.2 (.inr (decided.1 injected)))]
          exact ⟨rfl, after⟩
        · rw [if_neg injected, if_neg fun owned => (owns.1 owned).elim proxy fun given => injected (decided.2 given)]
          exact inductionHypothesis after areKnown.2
    · have foreign : ¬ surroundings.Owns workload mesh := fun ⟨istio, isIstio, here, _⟩ =>
        candidate ((isCandidate_iff workload mesh).2 ⟨istio, isIstio, here⟩)
      rw [if_neg candidate, if_neg foreign]
      exact inductionHypothesis faithful areKnown.2

/-- Attributing one workload adds to a membership what the rule attributes. -/
theorem attributeOne {state : Membership × Detector} (faithful : Faithful surroundings known state.2)
    (separate : '/' ∉ workload.ns.toList) {meshes : List Mesh} (areKnown : ∀ mesh ∈ meshes, known mesh) :
    (Detector.attributeOne meshes state workload).1.byWorkload =
        state.1.byWorkload.insertAll (surroundings.attributions [workload] meshes) ∧
      Faithful surroundings known (Detector.attributeOne meshes state workload).2 := by
  obtain ⟨detected, after⟩ := faithful.detect coherent records separate areKnown
  rw [attributeOne_eq, Surroundings.attributions, List.filterMap_cons, ← detected]
  refine ⟨?_, after⟩
  cases (state.2.detect workload meshes).1 with
  | none => rfl
  | some mesh => rfl

/-- Attributing workloads adds to a membership what the rule attributes to each in turn. -/
theorem foldl_attributeOne {state : Membership × Detector} (faithful : Faithful surroundings known state.2)
    {workloads : List Workload} (separate : ∀ workload ∈ workloads, '/' ∉ workload.ns.toList)
    {meshes : List Mesh} (areKnown : ∀ mesh ∈ meshes, known mesh) :
    let final := workloads.foldl (Detector.attributeOne meshes) state
    final.1.byWorkload = state.1.byWorkload.insertAll (surroundings.attributions workloads meshes) ∧
      Faithful surroundings known final.2 := by
  induction workloads generalizing state with
  | nil => exact ⟨rfl, faithful⟩
  | cons workload workloads inductionHypothesis =>
    rw [List.forall_mem_cons] at separate
    obtain ⟨attributed, after⟩ := faithful.attributeOne coherent records separate.1 areKnown
    obtain ⟨rest, last⟩ := inductionHypothesis after separate.2
    refine ⟨?_, last⟩
    rw [List.foldl_cons, rest, attributed, ← SortedMap.insertAll_append,
      ← surroundings.attributions_append, List.singleton_append]

/-- Attributing workloads gives them the meshes of the rule. -/
theorem attributeAll (faithful : Faithful surroundings known detector) {workloads : List Workload}
    (separate : ∀ workload ∈ workloads, '/' ∉ workload.ns.toList) {meshes : List Mesh}
    (areKnown : ∀ mesh ∈ meshes, known mesh) :
    (detector.attributeAll workloads meshes).1 = surroundings.membership workloads meshes ∧
      Faithful surroundings known (detector.attributeAll workloads meshes).2 := by
  have initial : Faithful surroundings known (({}, detector) : Membership × Detector).2 := faithful
  obtain ⟨attributed, last⟩ := initial.foldl_attributeOne coherent records separate areKnown
  exact ⟨congrArg Membership.mk attributed, last⟩

/-- A call is answered as the rule answers it. -/
theorem answer (faithful : Faithful surroundings known detector) {call : Call}
    (separate : ∀ workload ∈ call.workloads, '/' ∉ workload.ns.toList)
    (areKnown : ∀ mesh ∈ call.meshes, known mesh) :
    (detector.answer call).1 = surroundings.answer call ∧
      Faithful surroundings known (detector.answer call).2 := by
  cases call with
  | detect workload meshes =>
    obtain ⟨detected, after⟩ :=
      faithful.detect coherent records (separate workload List.mem_cons_self) areKnown
    exact ⟨congrArg Answer.mesh detected, after⟩
  | attributeAll workloads meshes =>
    obtain ⟨attributed, after⟩ := faithful.attributeAll coherent records separate areKnown
    exact ⟨congrArg Answer.membership attributed, after⟩

/-- Calls are answered as the rule answers each of them. -/
theorem answers (faithful : Faithful surroundings known detector) {calls : List Call}
    (separate : ∀ call ∈ calls, ∀ workload ∈ call.workloads, '/' ∉ workload.ns.toList)
    (areKnown : ∀ call ∈ calls, ∀ mesh ∈ call.meshes, known mesh) :
    detector.answers calls = calls.map surroundings.answer := by
  induction calls generalizing detector with
  | nil => rfl
  | cons call calls inductionHypothesis =>
    rw [List.forall_mem_cons] at separate areKnown
    obtain ⟨answered, after⟩ := faithful.answer coherent records separate.1 areKnown.1
    rw [Detector.answers, List.map_cons, answered, inductionHypothesis after separate.2 areKnown.2]

end Calls

end Faithful

/-- A detector answers any calls as if it looked at the records afresh for each of them. Meshes with equal
keys must be equal, since a configuration is held under the key of its mesh, and no namespace may have a
slash in its name, since the index of namespaces joins names with one. -/
theorem answers_eq_of_coherent (surroundings : Surroundings) (calls : List Call)
    (coherent : Coherent fun mesh => ∃ call ∈ calls, mesh ∈ call.meshes)
    (records : ∀ record ∈ surroundings.namespaces, '/' ∉ record.name.toList)
    (separate : ∀ call ∈ calls, ∀ workload ∈ call.workloads, '/' ∉ workload.ns.toList) :
    surroundings.detector.answers calls = calls.map surroundings.answer :=
  (Faithful.start surroundings _).answers coherent records separate fun call member _ among =>
    ⟨call, member, among⟩

section TwoMeshes

/-- A mesh on the cluster of all workloads below. -/
private def meshWith (name : String) (revision : Option String) : Mesh where
  metadata := { name, ns := "orbit" }
  provider := .istio { installation := { ns := "istio-system", cluster := "east" }, revision }

private def podsOf (name ns tier : String) (asked : Option String) : Workload where
  metadata := { name, ns, cluster := "east", labels := .ofList [("tier", tier)] }
  podTemplate := { annotations := asked.map fun answer => .ofList [Prod.mk injectAnnotation answer] }

/-- One namespace turns injection on. Of the two meshes only the one without a revision has a
configuration, which injects everywhere but into one tier. -/
private def shopping : Surroundings where
  namespaces := [⟨"shop", "east", .ofList [(injectionLabel, "enabled")]⟩]
  configMaps :=
    [⟨configMapStem, "istio-system", "east",
      .ofList [(configKey, "policy: enabled\nneverInjectSelector:\n- matchLabels:\n    tier: batch\n")]⟩]
  ignored := builtinIgnored

/-- The second call meets what the first one loaded and failed to load. -/
private def twoCalls : List Call :=
  let meshes := [meshWith "canary" (some "next"), meshWith "stable" none]
  [.attributeAll
      [podsOf "cart" "shop" "web" none, podsOf "mail" "jobs" "web" none,
        podsOf "night" "jobs" "batch" none, podsOf "agent" "jobs" "batch" (some "Yes")] meshes,
    .detect (podsOf "report" "jobs" "web" (some "")) meshes]

/-- A mesh without a configuration gets what asks for a sidecar, the other one what does not ask and is
not refused. -/
theorem answers_from_memory :
    Coherent (fun mesh => ∃ call ∈ twoCalls, mesh ∈ call.meshes) ∧
      (∀ record ∈ shopping.namespaces, '/' ∉ record.name.toList) ∧
      (∀ call ∈ twoCalls, ∀ workload ∈ call.workloads, '/' ∉ workload.ns.toList) ∧
      shopping.detector.answers twoCalls =
        [.membership ⟨.ofList [("cart.shop.east", "canary.orbit"), ("mail.jobs.east", "stable.orbit"),
            ("agent.jobs.east", "canary.orbit")]⟩,
          .mesh (some (meshWith "stable" none))] := by
  have distinct : ∀ mesh ∈ twoCalls.flatMap Call.meshes, ∀ other ∈ twoCalls.flatMap Call.meshes,
      mesh.key = other.key → mesh = other := by decide
  have coherent : Coherent fun mesh => ∃ call ∈ twoCalls, mesh ∈ call.meshes :=
    fun mesh other isKnown otherIsKnown =>
      distinct mesh (List.mem_flatMap.2 isKnown) other (List.mem_flatMap.2 otherIsKnown)
  have records : ∀ record ∈ shopping.namespaces, '/' ∉ record.name.toList := by decide
  have separate : ∀ call ∈ twoCalls, ∀ workload ∈ call.workloads, '/' ∉ workload.ns.toList := by decide
  refine ⟨coherent, records, separate, ?_⟩
  rw [answers_eq_of_coherent shopping twoCalls coherent records separate]
  decide +kernel

end TwoMeshes

end Detector

end MeshControl.Injection
